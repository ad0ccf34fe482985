import Profiling.Demangle.Cursor
import Profiling.Url.Percent

/-!
# Writing structured symbols

A symbol is written while it is read. Parts that are only read write nothing, and
back references in them are not followed. Where reading fails a note is written, and
a question mark for every part that is missing after it.
-/

namespace Profiling.Demangle

/-- The text so far would become too long. -/
inductive Full
  | full
deriving DecidableEq, Repr

structure PrinterState where
  /-- Where the reading is, or why it stopped. -/
  cursor : Except Fault Cursor
  silent : Bool
  /-- How many lifetimes the binders around the current part name. -/
  lifetimes : Nat := 0
  out : String := ""

abbrev Printer := ExceptT Full (StateM PrinterState)

namespace Printer

/-- No more bytes than this are written. -/
def maxSize : Nat := 1000000

def write (text : String) : Printer Unit := do
  let s ← get
  if s.silent then return
  if maxSize < s.out.utf8ByteSize + text.utf8ByteSize then throw .full
  set { s with out := s.out ++ text }

/-- Stops the reading. -/
def stop (fault : Fault) : Printer Unit := do
  write fault.note
  modify fun s => { s with cursor := .error fault }

/-- Reads a piece and goes on with it, unless the reading stops or has stopped. -/
def parse (symbol : Array Char) (read : Reader α) (go : α → Printer Unit) : Printer Unit := do
  let s ← get
  match s.cursor with
  | .error _ => write "?"
  | .ok c =>
    match read symbol c with
    | .error fault => stop fault
    | .ok (x, c) => do
      set { s with cursor := .ok c }
      go x

def eat (symbol : Array Char) (wanted : Char) : Printer Bool := do
  let s ← get
  match s.cursor with
  | .error _ => return false
  | .ok c =>
    if Reader.peek? symbol c = some wanted then
      set { s with cursor := .ok (Reader.step c) }
      return true
    else return false

def failed : Printer Bool := do
  let s ← get
  return s.cursor.toOption.isNone

def close : Printer Unit :=
  modify fun s => { s with cursor := s.cursor.map fun c => { c with depth := c.depth - 1 } }

/-- Reads something without writing it. -/
def silently (body : Printer Unit) : Printer Unit := do
  let s ← get
  set { s with silent := true }
  body
  modify fun t => { t with silent := s.silent }

/-- Writes what a back reference leads to, and goes on after the reference. -/
def follow (symbol : Array Char) (body : Printer Unit) : Printer Unit :=
  parse symbol Reader.target fun target => do
    let s ← get
    if s.silent then return
    set { s with cursor := .ok target }
    body
    modify fun t => { t with cursor := s.cursor }

/-- Lifetimes of binders are counted from the innermost; the first 26 have letters. -/
def lifetime (index : Nat) : Printer Unit := do
  let s ← get
  if s.silent then return
  write "'"
  if index = 0 then write "_"
  else if s.lifetimes < index then stop .invalid
  else
    let depth := s.lifetimes - index
    if depth < 26 then write (String.singleton (Char.ofNat ('a'.toNat + depth)))
    else write ("_" ++ toString depth)

/-- Writes the lifetimes of a binder; there can be as many as there is room for. -/
def bind' : Nat → Bool → Nat → Printer Unit
  | 0, _, _ => return
  | _, _, 0 => return
  | fuel + 1, first, count + 1 => do
    if !first then write ", "
    modify fun s => { s with lifetimes := s.lifetimes + 1 }
    lifetime 1
    bind' fuel false count

def binder (symbol : Array Char) (body : Printer Unit) : Printer Unit :=
  parse symbol (Reader.tagged62 'G') fun count => do
    let s ← get
    if s.silent then body
    else
      if 0 < count then
        write "for<"
        bind' maxSize true count
        write "> "
      body
      modify fun t => { t with lifetimes := s.lifetimes }

/-- Writes a list up to its closing `E`, and tells how many elements it has. -/
def list (symbol : Array Char) (separator : String) (element : Printer Unit) :
    Nat → Nat → Printer Nat
  | 0, count => return count
  | fuel + 1, count => do
    if ← failed then return count
    if ← eat symbol 'E' then return count
    if 0 < count then write separator
    element
    list symbol separator element fuel (count + 1)

end Printer

def basicType : Char → Option String
  | 'b' => some "bool"
  | 'c' => some "char"
  | 'e' => some "str"
  | 'u' => some "()"
  | 'a' => some "i8"
  | 's' => some "i16"
  | 'l' => some "i32"
  | 'x' => some "i64"
  | 'n' => some "i128"
  | 'i' => some "isize"
  | 'h' => some "u8"
  | 't' => some "u16"
  | 'm' => some "u32"
  | 'y' => some "u64"
  | 'o' => some "u128"
  | 'j' => some "usize"
  | 'f' => some "f32"
  | 'd' => some "f64"
  | 'z' => some "!"
  | 'p' => some "_"
  | 'v' => some "..."
  | _ => none

/-- A number of at most 64 bits. -/
def word? (digits : List Char) : Option Nat :=
  let n := Digits.number 16 digits
  if n < 1 <<< 64 then some n else none

def character? (digits : List Char) : Option Char :=
  let n := Digits.number 16 digits
  if n < 0xd800 ∨ (0xdfff < n ∧ n < 0x110000) then some (Char.ofNat n) else none

def bytePairs : List Char → Option (List UInt8)
  | [] => some []
  | a :: b :: rest => (bytePairs rest).map ((Digits.number 16 [a, b]).toUInt8 :: ·)
  | [_] => none

def text? (digits : List Char) : Option (List Char) := do
  let bytes ← bytePairs digits
  let text ← String.fromUTF8? bytes.toByteArray
  some text.toList

/-- Characters that are escaped because they cannot be seen. -/
def isInvisible (c : Char) : Bool :=
  if c.toNat < 128 then c.toNat < 32 || c.toNat = 127
  else ["Cc", "Cf", "Cs", "Co", "Cn", "Zl", "Zp", "Zs", "Mn", "Me"].contains (Unicode.category c)

def escape (quote c : Char) : List Char :=
  if c = '\x00' then ['\\', '0']
  else if c = '\t' then ['\\', 't']
  else if c = '\r' then ['\\', 'r']
  else if c = '\n' then ['\\', 'n']
  else if c = '\\' || c = quote then ['\\', c]
  else if isInvisible c then "\\u\x7b".toList ++ Nat.toDigits 16 c.toNat ++ ['\x7d']
  else [c]

def quoted (quote : Char) (cs : List Char) : String :=
  String.ofList (quote :: (cs.flatMap (escape quote) ++ [quote]))

/-- An ABI's hyphens are low lines in a symbol. -/
def abiName (name : List Char) : String :=
  String.ofList (name.map fun c => if c = '_' then '-' else c)

section

open Printer

variable (symbol : Array Char)

def number : Printer Unit :=
  parse symbol Reader.nibbles fun digits =>
    match word? digits with
    | some n => write (toString n)
    | none => write ("0x" ++ String.ofList digits)

def stringLiteral : Printer Unit :=
  parse symbol Reader.nibbles fun digits =>
    match text? digits with
    | some cs => write (quoted '"' cs)
    | none => stop .invalid

def specialName (space : Char) : String :=
  if space = 'C' then "closure" else if space = 'S' then "shim" else String.singleton space

/-- The last part of a nested path. -/
def nestedName (space : Option Char) (index : Nat) (name : Ident) : Printer Unit :=
  match space with
  | some space => do
    write ("::\x7b" ++ specialName space)
    if !name.isEmpty then write (":" ++ name.render)
    write ("#" ++ toString index ++ "\x7d")
  | none => do
    if !name.isEmpty then write ("::" ++ name.render)

/-- The ABI of a function type; a wrong name stops the reading before `go`. -/
def abi (go : String → Printer Unit) : Printer Unit := do
  if ← eat symbol 'K' then
    if ← eat symbol 'C' then go "extern \"C\" "
    else
      parse symbol Ident.read fun name =>
        if name.ascii.isEmpty || !name.punycode.isEmpty then stop .invalid
        else go ("extern \"" ++ abiName name.ascii ++ "\" ")
  else go ""

mutual

/-- Writes a path; one in a value has two colons before its arguments. -/
def path : Nat → Bool → Printer Unit
  | 0, _ => stop .tooDeep
  | fuel + 1, inValue =>
    parse symbol Reader.open' fun _ =>
      parse symbol Reader.next fun tag =>
        match tag with
        | 'C' =>
          parse symbol Reader.disambiguator fun _ =>
            parse symbol Ident.read fun name => do
              write name.render
              close
        | 'N' =>
          parse symbol Reader.namespace fun space => do
            path fuel inValue
            if ← failed then write "::"
            parse symbol Reader.disambiguator fun index =>
              parse symbol Ident.read fun name => do
                nestedName space index name
                close
        | 'M' =>
          parse symbol Reader.disambiguator fun _ => do
            silently (path fuel false)
            write "<"
            type fuel
            write ">"
            close
        | 'X' =>
          parse symbol Reader.disambiguator fun _ => do
            silently (path fuel false)
            write "<"
            type fuel
            write " as "
            path fuel false
            write ">"
            close
        | 'Y' => do
          write "<"
          type fuel
          write " as "
          path fuel false
          write ">"
          close
        | 'I' => do
          path fuel inValue
          if inValue then write "::"
          write "<"
          let _ ← list symbol ", " (argument fuel) symbol.size 0
          write ">"
          close
        | 'B' => do
          follow symbol (path fuel inValue)
          close
        | _ => stop .invalid

/-- A lifetime, a constant or a type. -/
def argument : Nat → Printer Unit
  | 0 => stop .tooDeep
  | fuel + 1 => do
    if ← eat symbol 'L' then parse symbol Reader.number62 lifetime
    else if ← eat symbol 'K' then constant fuel false
    else type fuel

def type : Nat → Printer Unit
  | 0 => stop .tooDeep
  | fuel + 1 =>
    parse symbol Reader.next fun tag =>
      match basicType tag with
      | some name => write name
      | none =>
        parse symbol Reader.open' fun _ =>
          match tag with
          | 'R' => reference fuel ""
          | 'Q' => reference fuel "mut "
          | 'P' => do
            write "*const "
            type fuel
            close
          | 'O' => do
            write "*mut "
            type fuel
            close
          | 'A' => do
            write "["
            type fuel
            write "; "
            constant fuel true
            write "]"
            close
          | 'S' => do
            write "["
            type fuel
            write "]"
            close
          | 'T' => do
            write "("
            let count ← list symbol ", " (type fuel) symbol.size 0
            if count = 1 then write ","
            write ")"
            close
          | 'F' => do
            binder symbol (signature fuel)
            close
          | 'D' => do
            write "dyn "
            binder symbol do
              let _ ← list symbol " + " (dynTrait fuel) symbol.size 0
            if ← eat symbol 'L' then
              parse symbol Reader.number62 fun index => do
                if index ≠ 0 then
                  write " + "
                  lifetime index
                close
            else stop .invalid
          | 'B' => do
            follow symbol (type fuel)
            close
          | 'W' => do
            type fuel
            write " is "
            pattern fuel
            close
          | _ => do
            modify fun s => { s with cursor := s.cursor.map fun c => { c with place := c.place - 1 } }
            path fuel false
            close

/-- What follows the tag of a reference. -/
def reference : Nat → String → Printer Unit
  | 0, _ => stop .tooDeep
  | fuel + 1, qualifier => do
    write "&"
    if ← eat symbol 'L' then
      parse symbol Reader.number62 fun index => do
        if index ≠ 0 then
          lifetime index
          write " "
        write qualifier
        type fuel
        close
    else
      write qualifier
      type fuel
      close

/-- The type of a function without its binder. -/
def signature : Nat → Printer Unit
  | 0 => stop .tooDeep
  | fuel + 1 => do
    let isUnsafe ← eat symbol 'U'
    abi symbol fun abi => do
      if isUnsafe then write "unsafe "
      write abi
      write "fn("
      let _ ← list symbol ", " (type fuel) symbol.size 0
      write ")"
      if ← eat symbol 'u' then return
      write " -> "
      type fuel

/-- A trait, whose associated types are written with its arguments. -/
def dynTrait : Nat → Printer Unit
  | 0 => stop .tooDeep
  | fuel + 1 => do
    let opened ← openPath fuel
    bindings fuel symbol.size opened

/-- Writes associated types; `opened` tells whether the list of arguments is open. -/
def bindings : Nat → Nat → Bool → Printer Unit
  | 0, _, _ => stop .tooDeep
  | _ + 1, 0, _ => return
  | fuel + 1, count + 1, opened => do
    if ← eat symbol 'p' then
      write (if opened then ", " else "<")
      parse symbol Ident.read fun name => do
        write (name.render ++ " = ")
        type fuel
        bindings fuel count true
    else if opened then write ">"

/-- Writes a path and leaves its list of arguments open; tells whether it has one. -/
def openPath : Nat → Printer Bool
  | 0 => do
    stop .tooDeep
    return false
  | fuel + 1 => do
    if ← eat symbol 'B' then
      let s ← get
      match s.cursor with
      | .error _ => return false
      | .ok c =>
        match Reader.target symbol c with
        | .error fault =>
          stop fault
          return false
        | .ok (target, after) =>
          set { s with cursor := .ok after }
          if s.silent then return false
          set { s with cursor := .ok target }
          let opened ← openPath fuel
          modify fun t => { t with cursor := .ok after }
          return opened
    else if ← eat symbol 'I' then
      path fuel false
      write "<"
      let _ ← list symbol ", " (argument fuel) symbol.size 0
      return true
    else
      path fuel false
      return false

def pattern : Nat → Printer Unit
  | 0 => stop .tooDeep
  | fuel + 1 =>
    parse symbol Reader.next fun tag =>
      match tag with
      | 'R' => do
        constant fuel false
        write "..="
        constant fuel false
      | 'O' =>
        parse symbol Reader.open' fun _ => do
          let _ ← list symbol " | " (pattern fuel) symbol.size 0
          close
      | 'N' => write "!null"
      | _ => stop .invalid

/-- A constant; in a list of arguments all but literals stand in braces. -/
def constant : Nat → Bool → Printer Unit
  | 0, _ => stop .tooDeep
  | fuel + 1, inValue =>
    let braced (body : Printer Unit) : Printer Unit := do
      if !inValue then write "\x7b"
      body
      if !inValue then write "\x7d"
      close
    parse symbol Reader.next fun tag =>
      parse symbol Reader.open' fun _ =>
        if tag = 'p' then do
          write "_"
          close
        else if "htmyoj".toList.contains tag then do
          number symbol
          close
        else if "aslxni".toList.contains tag then do
          if ← eat symbol 'n' then write "-"
          number symbol
          close
        else if tag = 'b' then
          parse symbol Reader.nibbles fun digits =>
            match word? digits with
            | some 0 => do
              write "false"
              close
            | some 1 => do
              write "true"
              close
            | _ => stop .invalid
        else if tag = 'c' then
          parse symbol Reader.nibbles fun digits =>
            match character? digits with
            | some c => do
              write (quoted '\'' [c])
              close
            | none => stop .invalid
        else if tag = 'e' then
          braced do
            write "*"
            stringLiteral symbol
        else if tag = 'R' then do
          if ← eat symbol 'e' then
            stringLiteral symbol
            close
          else
            braced do
              write "&"
              constant fuel true
        else if tag = 'Q' then
          braced do
            write "&mut "
            constant fuel true
        else if tag = 'A' then
          braced do
            write "["
            let _ ← list symbol ", " (constant fuel true) symbol.size 0
            write "]"
        else if tag = 'T' then
          braced do
            write "("
            let count ← list symbol ", " (constant fuel true) symbol.size 0
            if count = 1 then write ","
            write ")"
        else if tag = 'V' then do
          if !inValue then write "\x7b"
          path fuel true
          parse symbol Reader.next fun shape => do
            let finish : Printer Unit := do
              if !inValue then write "\x7d"
              close
            match shape with
            | 'U' => finish
            | 'T' => do
              write "("
              let _ ← list symbol ", " (constant fuel true) symbol.size 0
              write ")"
              finish
            | 'S' => do
              write " \x7b "
              let _ ← list symbol ", " (field fuel) symbol.size 0
              write " \x7d"
              finish
            | _ => stop .invalid
        else if tag = 'B' then do
          follow symbol (constant fuel inValue)
          close
        else stop .invalid

/-- A field of a constant with its name. -/
def field : Nat → Printer Unit
  | 0 => stop .tooDeep
  | fuel + 1 =>
    parse symbol Reader.disambiguator fun _ =>
      parse symbol Ident.read fun name => do
        write (name.render ++ ": ")
        constant fuel true

end

end

namespace Structured

/-- What follows the mark of such a symbol. A path starts with an upper-case letter. -/
def body? (cs : List Char) : Option (List Char) :=
  let rest := match cs with
    | '_' :: 'R' :: rest => rest
    | 'R' :: rest => rest
    | '_' :: '_' :: 'R' :: rest => rest
    | _ => []
  match rest with
  | c :: _ => if 'A' ≤ c && c ≤ 'Z' && rest.all (·.toNat < 128) then some rest else none
  | [] => none

/-- Parts nest at most `Reader.maxDepth` deep, and no more than a few steps lie
between one and the next. -/
def fuel : Nat := 8 * (Reader.maxDepth + 2)

def runPath (symbol : Array Char) (silent : Bool) (place : Nat) : Except Full Unit × PrinterState :=
  (path symbol fuel true).run.run { cursor := .ok { place }, silent }

/-- Where a path ends that starts at a place. -/
def pathEnd? (symbol : Array Char) (place : Nat) : Option Nat :=
  (runPath symbol true place).2.cursor.toOption.map (·.place)

structure Symbol where
  text : Array Char
  /-- What follows the symbol proper. -/
  suffix : List Char

/-- A symbol is a path; the path of the crate that made it may follow. -/
def read? (cs : List Char) : Option Symbol := do
  let body ← body? cs
  let text := body.toArray
  let place ← pathEnd? text 0
  let place ← (match text[place]? with
    | some c => if 'A' ≤ c ∧ c ≤ 'Z' then pathEnd? text place else some place
    | none => some place)
  some { text, suffix := body.drop place }

def render (s : Symbol) : String :=
  match runPath s.text false 0 with
  | (.ok _, state) => state.out
  | (.error _, state) => state.out ++ "\x7bsize limit reached\x7d"

end Structured

end Profiling.Demangle
