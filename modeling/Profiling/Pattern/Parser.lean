import Profiling.Pattern.Class

/-!
# Reading patterns

`Pattern.parse?` reads the text of a pattern: literals, classes, anchors, groups
with names and flags, alternatives and repetitions. It refuses a text that breaks
the grammar, nests too deeply, asks for bytes that are no text, or makes a matcher
too large.
-/

namespace Profiling.Pattern

/-- A part of a pattern that was read, with the depth of its nesting; `bare` marks
a change of flags, which nothing can repeat. -/
structure Item where
  pattern : Pattern
  nest : Nat := 0
  bare : Bool := false
deriving Repr

namespace Item

/-- Joins the parts of a sequence, which are given last first. -/
def sequence (items : List Item) : Item :=
  match items with
  | [] => { pattern := .empty }
  | [item] => { item with bare := false }
  | last :: before =>
    before.foldl
      (fun whole item =>
        { pattern := .cat item.pattern whole.pattern, nest := max (item.nest + 1) whole.nest })
      { pattern := last.pattern, nest := last.nest + 1 }

/-- Joins alternatives, which are given last first. -/
def alternatives (branches : List Item) : Item :=
  match branches with
  | [] => { pattern := .empty }
  | [branch] => branch
  | last :: before =>
    before.foldl
      (fun whole branch =>
        { pattern := .alt branch.pattern whole.pattern, nest := max (branch.nest + 1) whole.nest })
      { pattern := last.pattern, nest := last.nest + 1 }

end Item

structure ParseState where
  flags : Flags := {}
  /-- The group names met so far. -/
  names : List String := []
  input : List Char
deriving Repr

def Flags.set (f : Flags) (c : Char) (value : Bool) : Option Flags :=
  match c with
  | 'i' => some { f with ignoreCase := value }
  | 'm' => some { f with multiLine := value }
  | 's' => some { f with dotAll := value }
  | 'U' => some { f with swapGreed := value }
  | 'u' => some { f with unicode := value }
  | 'R' => some { f with crlf := value }
  | 'x' => some { f with ignoreSpace := value }
  | _ => none

/-- Reads flags up to a colon or a closing parenthesis, which is given back with
what follows. No flag may come twice, nor may a hyphen, and none may end the list. -/
def readFlags : List Char → List Char → Flags → Option (List Char × Flags × Char × List Char)
  | [], _, _ => none
  | c :: cs, seen, f =>
    if c = ':' || c = ')' then
      if seen.head? = some '-' then none else some (seen, f, c, cs)
    else if seen.contains c then none
    else if c = '-' then readFlags cs ('-' :: seen) f
    else
      match f.set c (!seen.contains '-') with
      | none => none
      | some f => readFlags cs (c :: seen) f

def isNumeric (c : Char) : Bool := ["Nd", "Nl", "No"].contains (Unicode.category c)

def isNameStart (c : Char) : Bool := c = '_' || Unicode.isAlphabetic c

def isNamePart (c : Char) : Bool :=
  isNameStart c || c = '.' || c = '[' || c = ']' || isNumeric c

/-- Reads a group name up to its angle bracket. -/
def readGroupName (cs : List Char) : Option (String × List Char) :=
  let name := cs.takeWhile (· ≠ '>')
  match name, cs.dropWhile (· ≠ '>') with
  | c :: more, '>' :: rest =>
    if isNameStart c && more.all isNamePart then some (String.ofList name, rest) else none
  | _, _ => none

/-- How a parenthesis starts: a group with the state its body is read in, or flags
that hold from here on. -/
inductive GroupHead
  | body (s : ParseState)
  | flags (s : ParseState)
deriving Repr

def readNamed (s : ParseState) (cs : List Char) : Option GroupHead := do
  let (name, rest) ← readGroupName cs
  if s.names.contains name then none
  else some (.body { s with names := name :: s.names, input := rest })

/-- Reads what follows an opening parenthesis. -/
def readGroupHead (s : ParseState) (cs : List Char) : Option GroupHead :=
  match s.flags.skip cs with
  | '?' :: '=' :: _ => none
  | '?' :: '!' :: _ => none
  | '?' :: '<' :: '=' :: _ => none
  | '?' :: '<' :: '!' :: _ => none
  | '?' :: 'P' :: '<' :: rest => readNamed s rest
  | '?' :: '<' :: rest => readNamed s rest
  | '?' :: rest => do
    let (seen, flags, stop, rest) ← readFlags rest [] s.flags
    if stop = ':' then some (.body { s with flags, input := rest })
    else if seen.isEmpty then none
    else some (.flags { s with flags, input := rest })
  | rest => some (.body { s with input := rest })

def readDigits (f : Flags) : Nat → List Char → List Char × List Char
  | 0, cs => ([], cs)
  | fuel + 1, cs =>
    match cs with
    | c :: rest =>
      if Digits.isDigit 10 c then
        let (digits, rest) := readDigits f fuel (f.skip rest)
        (c :: digits, rest)
      else ([], cs)
    | [] => ([], [])

/-- A count is a 32-bit number with blanks around it. -/
def readCount (f : Flags) (cs : List Char) : Option (Nat × List Char) :=
  let cs := cs.dropWhile Unicode.isWhiteSpace
  let (digits, rest) := readDigits f (cs.length + 1) cs
  (Digits.read? 10 (1 <<< 32) digits).map fun n =>
    (n, f.skip (rest.dropWhile Unicode.isWhiteSpace))

/-- Reads the bounds of a counted repetition after its brace. -/
def readBounds (f : Flags) (cs : List Char) : Option (Nat × Option Nat × List Char) := do
  let (least, rest) ← readCount f (f.skip cs)
  let (most, rest) ← (match rest with
    | ',' :: rest =>
      match f.skip rest with
      | '}' :: rest => some (none, '}' :: rest)
      | rest => (readCount f rest).map fun (most, rest) => (some most, rest)
    | rest => some (some least, rest))
  match rest with
  | '}' :: rest =>
    if (most.getD least) < least then none else some (least, most, f.skip rest)
  | _ => none

/-- Drops the question mark that makes a repetition lazy. -/
def dropLazy : List Char → List Char
  | '?' :: rest => rest
  | rest => rest

/-- Repeats the last item read. -/
def repeatLast (items : List Item) (least : Nat) (most : Option Nat) : Option (List Item) :=
  match items with
  | [] => none
  | item :: before =>
    if item.bare then none
    else some ({ pattern := .repeated item.pattern least most, nest := item.nest + 1 } :: before)

def Flags.dot (f : Flags) : Option CharClass :=
  if !f.unicode then none
  else if f.dotAll then some .anything
  else if f.crlf then some (.negate (.ofRanges [('\r', '\r'), ('\n', '\n')]))
  else some (.negate (.single '\n'))

def Flags.lineStart (f : Flags) : Assertion :=
  if f.multiLine then (if f.crlf then .lineStartCr else .lineStart) else .textStart

def Flags.lineEnd (f : Flags) : Assertion :=
  if f.multiLine then (if f.crlf then .lineEndCr else .lineEnd) else .textEnd

def Flags.literal (f : Flags) (c : Char) (byte : Bool) : Option CharClass :=
  if !f.unicode && byte && 128 ≤ c.toNat then none else some (f.fold (.single c))

def escapedItem (f : Flags) : Escaped → Option Item
  | .literal c byte => (f.literal c byte).map fun cls => { pattern := .char cls }
  | .cls cls => if isTextual f cls then some { pattern := .char cls } else none
  | .look a => some { pattern := .look a }

/-- Reads one character, class, escape or anchor. -/
def readAtom (f : Flags) : List Char → Option (Item × List Char)
  | [] => none
  | '[' :: rest => (readClass f rest).map fun (cls, rest) =>
      ({ pattern := .char cls, nest := 1 }, rest)
  | '\\' :: rest => do
    let (escaped, rest) ← readEscape f rest
    let item ← escapedItem f escaped
    some (item, rest)
  | '.' :: rest => f.dot.map fun cls => ({ pattern := .char cls }, rest)
  | '^' :: rest => some ({ pattern := .look f.lineStart }, rest)
  | '$' :: rest => some ({ pattern := .look f.lineEnd }, rest)
  | c :: rest => (f.literal c false).map fun cls => ({ pattern := .char cls }, rest)

/-- Reads alternatives up to a closing parenthesis or the end. `items` holds the
current sequence and `branches` the alternatives before it, both last first. Every
turn takes a character. -/
def readAlternatives : Nat → ParseState → List Item → List Item → Option (Item × ParseState)
  | 0, _, _, _ => none
  | fuel + 1, s, items, branches =>
    match s.flags.skip s.input with
    | [] => some (.alternatives (.sequence items :: branches), { s with input := [] })
    | c :: rest =>
      if c = ')' then
        some (.alternatives (.sequence items :: branches), { s with input := c :: rest })
      else if c = '|' then
        readAlternatives fuel { s with input := rest } [] (.sequence items :: branches)
      else if c = '?' || c = '*' || c = '+' then
        let least := if c = '+' then 1 else 0
        let most := if c = '?' then some 1 else none
        match repeatLast items least most with
        | none => none
        | some items => readAlternatives fuel { s with input := dropLazy rest } items branches
      else if c = '\x7b' then
        match readBounds s.flags rest with
        | none => none
        | some (least, most, rest) =>
          match repeatLast items least most with
          | none => none
          | some items => readAlternatives fuel { s with input := dropLazy rest } items branches
      else if c = '(' then
        match readGroupHead s rest with
        | none => none
        | some (.flags s) =>
          readAlternatives fuel s ({ pattern := .empty, bare := true } :: items) branches
        | some (.body inner) =>
          match readAlternatives fuel inner [] [] with
          | none => none
          | some (body, after) =>
            match after.input with
            | ')' :: rest =>
              let item : Item := { pattern := body.pattern, nest := body.nest + 1 }
              readAlternatives fuel { after with flags := s.flags, input := rest }
                (item :: items) branches
            | _ => none
      else
        match readAtom s.flags (c :: rest) with
        | none => none
        | some (item, rest) =>
          readAlternatives fuel { s with input := rest } (item :: items) branches

/-- Patterns may nest this deep. -/
def maxNest : Nat := 250

def parse? (text : String) : Option Pattern := do
  let cs := text.toList
  let (item, s) ← readAlternatives (cs.length + 1) { input := cs } [] []
  if s.input.isEmpty && item.nest ≤ maxNest && item.pattern.weight ≤ maxWeight then
    some item.pattern
  else none

end Profiling.Pattern
