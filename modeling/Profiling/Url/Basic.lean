import Profiling.Url.Host
import Profiling.Url.Query

/-!
# Locators

A URL is kept in its canonical parts: every part is encoded as it is written, the
path has no dot segments, and the port is given only when it is not the usual one.
-/

namespace Profiling

/-- Whose rules a scheme follows. -/
inductive SchemeKind
  | web
  | file
  | other
deriving DecidableEq, Repr

structure Url where
  scheme : String
  username : String := ""
  password : String := ""
  /-- Empty hosts are left out. -/
  host : Option Url.Host := none
  port : Option Nat := none
  /-- The path with its slashes. -/
  path : String := ""
  query : Option String := none
  fragment : Option String := none
deriving DecidableEq, Repr

namespace Url

def defaultPort : String → Option Nat
  | "http" => some 80
  | "ws" => some 80
  | "https" => some 443
  | "wss" => some 443
  | "ftp" => some 21
  | _ => none

def schemeKind (scheme : String) : SchemeKind :=
  if scheme = "file" then .file else if (defaultPort scheme).isSome then .web else .other

def userinfo (u : Url) : String :=
  let password := if u.password.isEmpty then "" else ":" ++ u.password
  if u.username.isEmpty && u.password.isEmpty then "" else u.username ++ password ++ "@"

/-- The text of a host; empty without one. -/
def hostText (u : Url) : String := u.host.elim "" fun h => String.ofList h.render

def authority (u : Url) : String :=
  match u.host with
  | none => if schemeKind u.scheme = .file then "//" else ""
  | some _ => "//" ++ u.userinfo ++ u.hostText ++ u.port.elim "" fun n => ":" ++ toString n

def render (u : Url) : String :=
  u.scheme ++ ":" ++ u.authority ++ u.path ++ u.query.elim "" ("?" ++ ·)
    ++ u.fragment.elim "" ("#" ++ ·)

/-- The parameters of the query. -/
def parameters (u : Url) : List Parameter := readQuery (u.query.getD "").toList

/-- The URL with other parameters; without any it has no query. -/
def withParameters (u : Url) (ps : List Parameter) : Url :=
  { u with query := if ps.isEmpty then none else some (String.ofList (writeQuery ps)) }

end Url

end Profiling
