import Profiling.Url.Basic

/-!
# Reading locators

A text is read from left to right: scheme, user, host, port, path, query, fragment.
Blanks and control characters around it, and tabs and line ends in it, do not count.
URLs of the web need a host and take a backslash for a slash.
-/

namespace Profiling.Url

inductive ParseError
  /-- The text has no scheme, so it could only be read relative to another URL. -/
  | relative
  | invalid
deriving DecidableEq, Repr

/-- What counts of a text. -/
def strip (text : String) : List Char :=
  let outer (c : Char) : Bool := c.toNat ≤ 32
  let cs := ((text.toList.dropWhile outer).reverse.dropWhile outer).reverse
  cs.filter fun c => c ≠ '\t' && c ≠ '\n' && c ≠ '\r'

def isSchemeChar (c : Char) : Bool := c.toNat < 128 && (c.isAlphanum || c = '+' || c = '-' || c = '.')

/-- The scheme in lower case, and what follows its colon. -/
def readScheme? (cs : List Char) : Option (String × List Char) :=
  match cs.takeWhile isSchemeChar, cs.dropWhile isSchemeChar with
  | c :: more, ':' :: rest =>
    if c.isAlpha then some (String.ofList ((c :: more).map Char.toLower), rest) else none
  | _, _ => none

def isSlash (kind : SchemeKind) (c : Char) : Bool := c = '/' || (kind ≠ .other && c = '\\')

def endsAuthority (kind : SchemeKind) (c : Char) : Bool := isSlash kind c || c = '?' || c = '#'

/-- Splits at the last sign that parts the user from the host. -/
def splitUser (authority : List Char) : Option (List Char) × List Char :=
  let host := (authority.reverse.takeWhile (· ≠ '@')).reverse
  if host.length = authority.length then (none, authority)
  else (some (authority.take (authority.length - host.length - 1)), host)

/-- The host up to the colon of its port; colons in brackets belong to the host. -/
def splitPort : Bool → List Char → List Char × List Char
  | _, [] => ([], [])
  | inside, c :: cs =>
    if c = ':' && !inside then ([], c :: cs)
    else
      let inside := if c = '[' then true else if c = ']' then false else inside
      let (host, rest) := splitPort inside cs
      (c :: host, rest)

/-- A port is a 16-bit number after a colon; it may be missing. -/
def readPort? (cs : List Char) : Option (Option Nat) :=
  match cs with
  | [] => some none
  | _ :: digits =>
    if digits.isEmpty then some none else (Digits.read? 10 (1 <<< 16) digits).map some

structure Authority where
  username : String
  password : String
  host : Option Host
  port : Option Nat
deriving DecidableEq, Repr

/-- Reads what stands between the two slashes and the path. -/
def readAuthority? (scheme : String) (cs : List Char) : Option Authority := do
  let kind := schemeKind scheme
  let (user, rest) := splitUser cs
  let name := (user.getD []).takeWhile (· ≠ ':')
  let password := ((user.getD []).dropWhile (· ≠ ':')).drop 1
  let (hostText, portText) := splitPort false rest
  let host ← if kind = .web then Host.parse? hostText else Host.parseOpaque? hostText
  let port ← readPort? portText
  if host.isEmpty && (kind = .web || name ≠ [] || password ≠ [] || portText ≠ []) then none
  else
    some {
      username := String.ofList (encode userReserved name)
      password := String.ofList (encode userReserved password)
      host := if host.isEmpty then none else some host
      port := if port = defaultPort scheme then none else port }

def isDoubleDot (segment : List Char) : Bool :=
  [['.', '.'], ['.', '%', '2', 'e'], ['%', '2', 'e', '.'], ['%', '2', 'e', '%', '2', 'e']].contains
    (segment.map Char.toLower)

def isSingleDot (segment : List Char) : Bool :=
  [['.'], ['%', '2', 'e']].contains (segment.map Char.toLower)

/-- Takes dots out of a path: one stays where it is and two go up. `done` holds the
segments before, last first; a dot at the end leaves an empty segment. -/
def resolveDots : List (List Char) → List (List Char) → List (List Char)
  | done, [] => done.reverse
  | done, segment :: rest =>
    if isDoubleDot segment then
      let done := done.drop 1
      if rest.isEmpty then ([] :: done).reverse else resolveDots done rest
    else if isSingleDot segment then
      if rest.isEmpty then ([] :: done).reverse else resolveDots done rest
    else resolveDots (segment :: done) rest

/-- A path of a file does not start with empty segments. -/
def dropEmptyFirst : List (List Char) → List (List Char)
  | [] :: segment :: rest => dropEmptyFirst (segment :: rest)
  | segments => segments

/-- The path of a URL that has a host: a slash before every segment. -/
def readPath (kind : SchemeKind) (cs : List Char) : String :=
  let cs := match cs with
    | c :: rest => if isSlash kind c then rest else cs
    | [] => []
  let segments := resolveDots [] ((cs.splitOnP (isSlash kind)).map (encode pathReserved))
  let segments := if kind = .file then dropEmptyFirst segments else segments
  String.ofList (segments.flatMap ('/' :: ·))

/-- A letter and a colon or bar name a drive, which no host has. -/
def startsWithDrive (cs : List Char) : Bool :=
  match cs.dropWhile (isSlash .file) with
  | letter :: mark :: rest =>
    letter.isAlpha && (mark = ':' || mark = '|')
      && (match rest with
        | [] => true
        | c :: _ => endsAuthority .file c)
  | _ => false

/-- Path, query and fragment, still to be encoded. -/
def splitTail (cs : List Char) : List Char × Option (List Char) × Option (List Char) :=
  let front := cs.takeWhile (· ≠ '#')
  let fragment := match cs.dropWhile (· ≠ '#') with
    | _ :: rest => some rest
    | [] => none
  let path := front.takeWhile (· ≠ '?')
  let query := match front.dropWhile (· ≠ '?') with
    | _ :: rest => some rest
    | [] => none
  (path, query, fragment)

def reservedInQuery (kind : SchemeKind) : List Char :=
  if kind = .other then queryReserved else '\'' :: queryReserved

/-- Reads path, query and fragment after a URL's host. -/
def withTail (u : Url) (cs : List Char) : Url :=
  let kind := schemeKind u.scheme
  let (path, query, fragment) := splitTail cs
  { u with
    path := if kind = .other && path.isEmpty then "" else readPath kind path
    query := query.map fun q => String.ofList (encode (reservedInQuery kind) q)
    fragment := fragment.map fun f => String.ofList (encode fragmentReserved f) }

def readHostUrl (scheme : String) (cs : List Char) : Except ParseError Url :=
  let ends := endsAuthority (schemeKind scheme)
  match readAuthority? scheme (cs.takeWhile (!ends ·)) with
  | none => .error .invalid
  | some a =>
    let u : Url :=
      { scheme, username := a.username, password := a.password, host := a.host, port := a.port }
    .ok (withTail u (cs.dropWhile (!ends ·)))

/-- A file has a host only after two slashes; the local host is left out. -/
def readFileUrl (cs : List Char) : Except ParseError Url :=
  let u : Url := { scheme := "file" }
  match cs with
  | a :: b :: rest =>
    if isSlash .file a && isSlash .file b then
      let hostText := rest.takeWhile (!endsAuthority .file ·)
      let tail := rest.dropWhile (!endsAuthority .file ·)
      if startsWithDrive hostText then .ok (withTail u rest)
      else if hostText.isEmpty then .ok (withTail u tail)
      else
        match Host.parse? hostText with
        | none => .error .invalid
        | some host =>
          let isLocal := host = .name "localhost" || startsWithDrive tail
          .ok (withTail { u with host := if isLocal then none else some host } tail)
    else .ok (withTail u cs)
  | _ => .ok (withTail u cs)

/-- A URL without a host: its path is taken as it is written. -/
def readHostless (scheme : String) (cs : List Char) : Url :=
  let (path, query, fragment) := splitTail cs
  { scheme, path := String.ofList (encode [] path)
    query := query.map fun q => String.ofList (encode queryReserved q)
    fragment := fragment.map fun f => String.ofList (encode fragmentReserved f) }

def parse (text : String) : Except ParseError Url :=
  match readScheme? (strip text) with
  | none => .error .relative
  | some (scheme, rest) =>
    match schemeKind scheme with
    | .file => readFileUrl rest
    | .web => readHostUrl scheme (rest.dropWhile (isSlash .web))
    | .other =>
      match rest with
      | '/' :: '/' :: rest => readHostUrl scheme rest
      | _ => .ok (readHostless scheme rest)

end Profiling.Url
