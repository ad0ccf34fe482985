import Profiling.Machine
import Profiling.Url.Percent

/-!
# Scripts

A small command language, so that a machine in memory has programs to run. A script is
a list of commands with quotes, parameters and redirected output. The commands are
those that deal with files and with the end of the script itself.
-/

namespace Profiling.Script

/-- A part of a word: text as it stands, or the value of a parameter. -/
inductive Piece
  | text (c : Char)
  | value (name : String)
deriving DecidableEq, Repr

inductive Token
  | word (pieces : List Piece)
  /-- The end of a command. -/
  | next
  /-- Goes on only after success. -/
  | andThen
  /-- Goes on only after failure. -/
  | orElse
  /-- Output goes to the file that the next word names. -/
  | into (append : Bool) (errors : Bool)
deriving DecidableEq, Repr

def isNameChar (c : Char) : Bool := c.isAlphanum || c == '_'

/-- The parameter that stands after a dollar sign, and the text after it. -/
def readParameter : List Char → Option (String × List Char)
  | '\x7b' :: cs =>
    let name := cs.takeWhile (· ≠ '\x7d')
    some (String.ofList name, cs.drop (name.length + 1))
  | c :: cs =>
    if c.isDigit || c = '$' || c = '?' then some (String.singleton c, cs)
    else if isNameChar c then
      let name := (c :: cs).takeWhile isNameChar
      some (String.ofList name, (c :: cs).drop name.length)
    else none
  | [] => none

/-- How the text at hand is quoted. -/
inductive Quote
  | none
  | single
  | double
deriving DecidableEq, Repr

/-- The tokens read so far, latest first, and the word at hand, its end first. -/
structure Lexer where
  tokens : List Token := []
  word : Option (List Piece) := none
deriving DecidableEq, Repr

namespace Lexer

def push (l : Lexer) (p : Piece) : Lexer := { l with word := some (p :: l.word.getD []) }

/-- Opens a word even if nothing is in it. -/
def openWord (l : Lexer) : Lexer := { l with word := some (l.word.getD []) }

def close (l : Lexer) : Lexer :=
  match l.word with
  | some pieces => { tokens := .word pieces.reverse :: l.tokens }
  | none => l

def add (l : Lexer) (t : Token) : Lexer := { tokens := t :: l.close.tokens }

end Lexer

def lex : Nat → Quote → Lexer → List Char → List Token
  | 0, _, l, _ => l.close.tokens.reverse
  | _, _, l, [] => l.close.tokens.reverse
  | fuel + 1, .single, l, c :: cs =>
    if c = '\'' then lex fuel .none l cs else lex fuel .single (l.push (.text c)) cs
  | fuel + 1, quote, l, '$' :: cs =>
    match readParameter cs with
    | some (name, rest) => lex fuel quote (l.push (.value name)) rest
    | none => lex fuel quote (l.push (.text '$')) cs
  | fuel + 1, .double, l, '\\' :: c :: cs =>
    if ['"', '\\', '$', '\x60'].contains c then lex fuel .double (l.push (.text c)) cs
    else lex fuel .double ((l.push (.text '\\')).push (.text c)) cs
  | fuel + 1, .double, l, c :: cs =>
    if c = '"' then lex fuel .none l cs else lex fuel .double (l.push (.text c)) cs
  | fuel + 1, .none, l, '\\' :: c :: cs =>
    lex fuel .none (if c = '\n' then l else l.push (.text c)) cs
  | fuel + 1, .none, l, '&' :: '&' :: cs => lex fuel .none (l.add .andThen) cs
  | fuel + 1, .none, l, '|' :: '|' :: cs => lex fuel .none (l.add .orElse) cs
  | fuel + 1, .none, l, '>' :: '>' :: cs => lex fuel .none (l.add (.into true false)) cs
  | fuel + 1, .none, l, c :: cs =>
    if c = '\'' then lex fuel .single l.openWord cs
    else if c = '"' then lex fuel .double l.openWord cs
    else if c = ' ' ∨ c = '\t' then lex fuel .none l.close cs
    else if c = '\n' ∨ c = ';' then lex fuel .none (l.add .next) cs
    else if c = '>' then
      if l.word = some [.text '2'] then
        lex fuel .none ({ l with word := none }.add (.into false true)) cs
      else lex fuel .none (l.add (.into false false)) cs
    else if c = '#' ∧ l.word = none then lex fuel .none l (cs.dropWhile (· ≠ '\n'))
    else lex fuel .none (l.push (.text c)) cs

def tokens (script : List Char) : List Token := lex (script.length + 1) .none {} script

/-- What a script has changed, and how its last command ended. -/
structure State where
  disk : Disk
  /-- The script's own name and its arguments. -/
  parameters : List String
  bindings : List (String × String) := []
  status : Nat := 0

/-- The number that a script has as a process. -/
def processId : String := "4242"

def State.value (s : State) (name : String) : String :=
  match name.toNat? with
  | some n => (s.parameters[n]?).getD ""
  | none =>
    if name = "$" then processId
    else if name = "?" then toString s.status
    else (s.bindings.lookup name).getD ""

def State.expand (s : State) (pieces : List Piece) : String :=
  String.join (pieces.map fun
    | .text c => String.singleton c
    | .value name => s.value name)

/-- How a command ended: with a status and some output, or with the script. -/
inductive Result
  | done (status : Nat) (output : List UInt8 := [])
  | ended (ending : Ending)

def bytes (text : String) : List UInt8 := text.toUTF8.toList

/-- The output of a format with its arguments. -/
def format : Nat → List Char → List String → List UInt8
  | 0, _, _ => []
  | _, [], _ => []
  | fuel + 1, '\\' :: c :: cs, args =>
    if Digits.isDigit 8 c then
      let digits := ((c :: cs).take 3).takeWhile (Digits.isDigit 8)
      (Digits.number 8 digits).toUInt8 :: format fuel ((c :: cs).drop digits.length) args
    else
      let escaped : List UInt8 := match c with
        | 'n' => [10]
        | 't' => [9]
        | 'r' => [13]
        | 'a' => [7]
        | 'b' => [8]
        | 'f' => [12]
        | 'v' => [11]
        | '\\' => [92]
        | c => bytes (String.ofList ['\\', c])
      escaped ++ format fuel cs args
  | fuel + 1, '%' :: '%' :: cs, args => 37 :: format fuel cs args
  | fuel + 1, '%' :: c :: cs, args =>
    if c = 's' || c = 'd' || c = 'b' then
      bytes (args.headD (if c = 'd' then "0" else "")) ++ format fuel cs args.tail
    else bytes (String.ofList ['%', c]) ++ format fuel cs args
  | fuel + 1, c :: cs, args => bytes (String.singleton c) ++ format fuel cs args

/-- The number of a signal, given by number or by name. -/
def signal? (text : String) : Option Nat :=
  text.toNat? <|>
    (Ending.signalNames.find? fun (_, name) => name = text || name = "SIG" ++ text).map (·.1)

/-- Does something to each of some files; fails if one of them fails. -/
def eachFile (disk : Disk) (change : Disk → String → Except DiskError Disk) :
    List String → Disk × Nat
  | [] => (disk, 0)
  | path :: paths =>
    match change disk path with
    | .ok disk => eachFile disk change paths
    | .error _ => ((eachFile disk change paths).1, 1)

def copyFile (disk : Disk) (source target : String) : Except DiskError Disk := do
  disk.write target (← disk.contents source)

def command (s : State) (name : String) (args : List String) : State × Result :=
  match name, args with
  | "exit", [] => (s, .ended (.exited s.status))
  | "exit", code :: _ => (s, .ended (.exited (code.toNat?.getD 2 % 256)))
  | "kill", args =>
    match args with
    | [target] => (s, if target = processId then .ended (.killed 15) else .done 1)
    | [flag, target] =>
      match signal? (String.ofList (flag.toList.drop 1)) with
      | some n => (s, if target = processId then .ended (.killed n) else .done 1)
      | none => (s, .done 2)
    | ["-s", sig, target] =>
      match signal? sig with
      | some n => (s, if target = processId then .ended (.killed n) else .done 1)
      | none => (s, .done 2)
    | _ => (s, .done 2)
  | "printf", text :: args => (s, .done 0 (format (text.length + 1) text.toList args))
  | "echo", args => (s, .done 0 (bytes (" ".intercalate args ++ "\n")))
  | "cat", files =>
    match files.mapM fun path => s.disk.contents path with
    | .ok contents => (s, .done 0 contents.flatten)
    | .error _ => (s, .done 1)
  | "rm", "-f" :: files =>
    ({ s with disk := (eachFile s.disk Disk.removeFile files).1 }, .done 0)
  | "rm", files =>
    let (disk, status) := eachFile s.disk Disk.removeFile files
    ({ s with disk }, .done status)
  | "mkdir", directories =>
    let make (disk : Disk) (path : String) :=
      disk.createDirectory (disk.start path) (Path.parts path)
    let (disk, status) := eachFile s.disk make directories
    ({ s with disk }, .done status)
  | "touch", files =>
    let make (disk : Disk) (path : String) :=
      if disk.isFile path then .ok disk else disk.createNew path
    let (disk, status) := eachFile s.disk make files
    ({ s with disk }, .done status)
  | "cp", [source, target] =>
    match copyFile s.disk source target with
    | .ok disk => ({ s with disk }, .done 0)
    | .error _ => (s, .done 1)
  | "mv", [source, target] =>
    match copyFile s.disk source target >>= fun disk => disk.removeFile source with
    | .ok disk => ({ s with disk }, .done 0)
    | .error _ => (s, .done 1)
  | "true", _ => (s, .done 0)
  | ":", _ => (s, .done 0)
  | "sleep", _ => (s, .done 0)
  | "false", _ => (s, .done 1)
  | _, _ => (s, .done 127)

/-- A name and a value with an equals sign between them. -/
def assignment? (word : List Piece) : Option (String × List Piece) :=
  let name := word.takeWhile fun
    | .text c => isNameChar c
    | .value _ => false
  match name, word.drop name.length with
  | _ :: _, .text '=' :: value =>
    some (String.ofList (name.filterMap fun
      | .text c => some c
      | .value _ => none), value)
  | _, _ => none

/-- The words of a command, and where its output goes. -/
def parts (s : State) : List Token → List (List Piece) × Option (Bool × String)
  | .into append false :: .word target :: rest =>
    ((parts s rest).1, some (append, s.expand target))
  | .into _ true :: .word _ :: rest => parts s rest
  | .word w :: rest => (w :: (parts s rest).1, (parts s rest).2)
  | _ :: rest => parts s rest
  | [] => ([], none)

def nowhere : String := "/dev/null"

def redirect (s : State) (append : Bool) (target : String) (output : List UInt8) : State :=
  if target = nowhere then s
  else
    let old := if append then (s.disk.contents target).toOption.getD [] else []
    match s.disk.write target (old ++ output) with
    | .ok disk => { s with disk }
    | .error _ => { s with status := 2 }

/-- Assigns and goes on with the words after the assignments. -/
def assign (s : State) : List (List Piece) → State × List (List Piece)
  | [] => (s, [])
  | word :: words =>
    match assignment? word with
    | some (name, value) =>
      assign { s with bindings := (name, s.expand value) :: s.bindings } words
    | none => (s, word :: words)

/-- Runs one command. The second part is how the script ended, if it did. -/
def run1 (s : State) (tokens : List Token) : State × Option Ending :=
  let (words, target) := parts s tokens
  let (s, words) := assign s words
  let (s, result) := match words.map s.expand with
    | [] => ({ s with status := 0 }, Result.done 0)
    | name :: args => command s name args
  match result with
  | .ended e => (s, some e)
  | .done status output =>
    let s := { s with status }
    match target with
    | some (append, path) => (redirect s append path output, none)
    | none => (s, none)

/-- Runs the commands of a script one after the other. The command at hand comes with
its end first; `skip` tells that it is not to be run. -/
def runFrom (s : State) (skip : Bool) (current : List Token) : List Token → State × Ending
  | [] =>
    let (s, ended) := if skip || current.isEmpty then (s, none) else run1 s current.reverse
    (s, ended.getD (.exited s.status))
  | t :: rest =>
    match t with
    | .next | .andThen | .orElse =>
      let (s, ended) := if skip || current.isEmpty then (s, none) else run1 s current.reverse
      match ended with
      | some e => (s, e)
      | none =>
        let skip := match t with
          | .andThen => s.status ≠ 0
          | .orElse => s.status = 0
          | _ => false
        runFrom s skip [] rest
    | t => runFrom s skip (t :: current) rest

/-- Runs a script with its name and arguments. -/
def run (disk : Disk) (script : List UInt8) (parameters : List String) : Disk × Ending :=
  let (s, e) := runFrom { disk, parameters } false [] (tokens (Url.lossyText script))
  (s.disk, e)

end Profiling.Script
