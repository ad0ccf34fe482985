import Profiling.Config
import Profiling.Digits

/-!
# Command-line arguments

Options are given by name, with a value that follows or is attached; everything else
is a source. An option's value is looked at only when the next argument has been
recognised, so an unknown argument hides what is wrong with the one before it.
-/

namespace Profiling

structure Arguments where
  config : Config
  output : Option String := none
  quiet : Bool := false
deriving DecidableEq, Repr

namespace Arguments

inductive Error
  /-- Help was asked for. -/
  | help
  | unknownArgument
  | missingSource
  /-- A value is missing, empty or not one of the known ones. -/
  | invalidValue
  /-- A number cannot be read. -/
  | badNumber
  | givenTwice
  /-- A value is attached to something that takes none. -/
  | unneededValue
deriving DecidableEq, Repr

/-- The options that take a value. -/
inductive Opt
  | base
  | seconds
  | timeout
  | exec
  | buildId
  | symbolize
  | perfConverter
  | output
deriving DecidableEq, Repr

/-- What a name stands for. -/
inductive Meaning
  | option (o : Opt)
  | quiet
  | help
deriving DecidableEq, Repr

def long? : String → Option Meaning
  | "base" => some (.option .base)
  | "seconds" => some (.option .seconds)
  | "timeout" => some (.option .timeout)
  | "exec" => some (.option .exec)
  | "buildid" => some (.option .buildId)
  | "symbolize" => some (.option .symbolize)
  | "perf-converter" => some (.option .perfConverter)
  | "output" => some (.option .output)
  | "quiet" => some .quiet
  | "help" => some .help
  | _ => none

def short? : Char → Option Meaning
  | 'o' => some (.option .output)
  | 'q' => some .quiet
  | 'h' => some .help
  | _ => none

/-- What was found so far. -/
structure Found where
  sources : List String := []
  base : List String := []
  seconds : Option Nat := none
  timeout : Option Nat := none
  exec : Option String := none
  buildId : Option String := none
  symbolize : Option SymbolMode := none
  perfConverter : Option String := none
  output : Option String := none
  quiet : Bool := false
deriving DecidableEq, Repr

/-- A 64-bit number, perhaps with a plus sign. -/
def readNumber? (text : String) : Option Nat :=
  Digits.read? 10 (1 <<< 64) (Digits.dropPlus text.toList)

/-- Sets what may be set only once. -/
def once (current : Option α) (value : Except Error α) : Except Error (Option α) :=
  match current with
  | some _ => .error .givenTwice
  | none => value.map some

def number (value : String) : Except Error Nat := (readNumber? value).elim (.error .badNumber) .ok

def path (value : String) : Except Error String :=
  if value.isEmpty then .error .invalidValue else .ok value

def mode (value : String) : Except Error SymbolMode :=
  (SymbolMode.named? value).elim (.error .invalidValue) .ok

def Found.set (f : Found) (o : Opt) (value : String) : Except Error Found :=
  match o with
  | .base => .ok { f with base := f.base ++ [value] }
  | .seconds => (once f.seconds (number value)).map fun seconds => { f with seconds }
  | .timeout => (once f.timeout (number value)).map fun timeout => { f with timeout }
  | .exec => (once f.exec (.ok value)).map fun exec => { f with exec }
  | .buildId => (once f.buildId (.ok value)).map fun buildId => { f with buildId }
  | .symbolize => (once f.symbolize (mode value)).map fun symbolize => { f with symbolize }
  | .perfConverter =>
    (once f.perfConverter (path value)).map fun perfConverter => { f with perfConverter }
  | .output => (once f.output (path value)).map fun output => { f with output }

/-- An option whose value has not been looked at yet. -/
structure Pending where
  option : Opt
  value : Option String := none
deriving DecidableEq, Repr

structure State where
  found : Found := {}
  pending : Option Pending := none
deriving DecidableEq, Repr

/-- Looks at the value of the pending option. -/
def State.settle (s : State) : Except Error Found :=
  match s.pending with
  | none => .ok s.found
  | some ⟨_, none⟩ => .error .invalidValue
  | some ⟨o, some value⟩ => s.found.set o value

def State.setQuiet (s : State) : Except Error State := do
  let found ← s.settle
  if found.quiet then .error .givenTwice else .ok { found := { found with quiet := true } }

def State.give (s : State) (o : Opt) (value : Option String) : Except Error State := do
  let found ← s.settle
  match value with
  | none => .ok { found, pending := some ⟨o, none⟩ }
  | some value => do
    let found ← found.set o value
    .ok { found }

def State.addSource (s : State) (source : String) : Except Error State := do
  let found ← s.settle
  .ok { found := { found with sources := found.sources ++ [source] } }

/-- An argument after two hyphens. -/
def State.long (s : State) (text : List Char) : Except Error State :=
  let attached := match text.dropWhile (· ≠ '=') with
    | _ :: value => some (String.ofList value)
    | [] => none
  match long? (String.ofList (text.takeWhile (· ≠ '='))), attached with
  | none, _ => .error .unknownArgument
  | some (.option o), _ => s.give o attached
  | some .quiet, none => s.setQuiet
  | some .help, none => do
    let _ ← s.settle
    .error .help
  | some _, some _ => .error .unneededValue

/-- The letters after one hyphen; a value may be attached to the last, with an equals
sign or without. -/
def State.short (s : State) : List Char → Except Error State
  | [] => .ok s
  | c :: rest =>
    match short? c with
    | none => .error .unknownArgument
    | some .quiet => do
      let s ← s.setQuiet
      State.short s rest
    | some .help => do
      let _ ← s.settle
      .error .help
    | some (.option o) =>
      match rest with
      | [] => s.give o none
      | '=' :: value => s.give o (some (String.ofList value))
      | value => s.give o (some (String.ofList value))

/-- What follows two hyphens alone is never an option. -/
def readSources (s : State) : List String → Except Error State
  | [] => .ok s
  | arg :: args => do
    let s ← s.addSource arg
    readSources s args

def readArguments (s : State) : List String → Except Error State
  | [] => .ok s
  | arg :: args =>
    match arg.toList with
    | ['-', '-'] => readSources s args
    | '-' :: '-' :: text => do
      let s ← s.long text
      readArguments s args
    | '-' :: c :: letters => do
      let s ← s.short (c :: letters)
      readArguments s args
    | _ =>
      match s.pending with
      | some ⟨o, none⟩ => readArguments { s with pending := some ⟨o, some arg⟩ } args
      | _ => do
        let s ← s.addSource arg
        readArguments s args

def Found.config (f : Found) : Config :=
  { sources := f.sources, base := f.base, duration := .ofSeconds (f.seconds.getD 0)
    timeout := .ofSeconds (f.timeout.getD 0), execName := f.exec, buildId := f.buildId
    symbolize := f.symbolize.getD .auto
    perfConverter := f.perfConverter.getD ({} : Config).perfConverter }

/-- Reads the arguments after the name of the program. There has to be a source. -/
def parse (args : List String) : Except Error Arguments := do
  let s ← readArguments {} args
  let found ← s.settle
  if found.sources.isEmpty then .error .missingSource
  else .ok { config := found.config, output := found.output, quiet := found.quiet }

end Arguments

end Profiling
