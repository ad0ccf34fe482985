import Profiling.Duration
import Profiling.Url.Parser

/-!
# Sources

A source names a profile: as a URL, as a host and port without a scheme, or as a
file. Remote sources are brought to a canonical URL and get a timeout.
-/

namespace Profiling.Source

/-- A timeout that no duration can hold. -/
inductive Overflow
  | timeout
deriving DecidableEq, Repr

/-- A remote source, ready to be fetched. -/
structure Remote where
  url : Url
  timeout : Duration
deriving DecidableEq, Repr

def defaultTimeout : Duration := .ofSeconds 60

/-- The transport may take this much longer than the profile. -/
def grace : Duration := .ofSeconds 5

def webUrl? (source : String) : Option Url := (Url.parse ("http://" ++ source)).toOption

/-- The URL of a source. What has no host of its own is read again as the address of
a web server; without a scheme this takes a colon before the first slash. -/
def anyUrl? (source : String) : Option Url :=
  match Url.parse source with
  | .ok u => if u.scheme = "file" || u.host.isSome then some u else webUrl? source
  | .error .relative =>
    if (source.toList.takeWhile (· ≠ '/')).contains ':' then webUrl? source else none
  | .error .invalid => webUrl? source

def url? (source : String) : Option Url := (anyUrl? source).filter (·.host.isSome)

def secondsKey : List Char := "seconds".toList

/-- A number of 31 bits in decimal, perhaps with a plus sign; negative zero counts. -/
def readSeconds? (value : List Char) : Option Nat :=
  let (negative, digits) := match value with
    | '-' :: digits => (true, digits)
    | '+' :: digits => (false, digits)
    | digits => (false, digits)
  (Digits.read? 10 (1 <<< 31) digits).filter fun n => !negative || n = 0

/-- The duration that a query asks for, if it says so. -/
def queryDuration (ps : List Url.Parameter) : Duration :=
  match (ps.find? (·.1 = secondsKey)).bind fun (_, value) => readSeconds? value with
  | some n => .ofSeconds n
  | none => .zero

def withSeconds (duration : Duration) (ps : List Url.Parameter) : List Url.Parameter :=
  ps.filter (·.1 ≠ secondsKey) ++ [(secondsKey, (toString duration.seconds).toList)]

def insertByKey (p : Url.Parameter) : List Url.Parameter → List Url.Parameter
  | [] => [p]
  | q :: qs => if String.ofList q.1 < String.ofList p.1 then q :: insertByKey p qs else p :: q :: qs

/-- Sorts parameters by key and leaves those of one key in their order. -/
def sortByKey (ps : List Url.Parameter) : List Url.Parameter := ps.foldr insertByKey []

/-- A given timeout holds; otherwise one and a half times the duration, or the default. -/
def timeoutFor (duration timeout : Duration) : Except Overflow Duration :=
  if !timeout.isZero then .ok timeout
  else if duration.isZero then .ok defaultTimeout
  else
    match duration.add? duration.half with
    | some d => .ok d
    | none => .error .timeout

/-- The canonical URL of a remote source and the timeout to fetch it with; nothing for
a file. A duration takes the place of one in the query. -/
def remote? (source : String) (duration timeout : Duration) : Except Overflow (Option Remote) :=
  match url? source with
  | none => .ok none
  | some u => do
    let asked := if duration.isZero then queryDuration u.parameters else duration
    let ps := if duration.isZero then u.parameters else withSeconds duration u.parameters
    let timeout ← timeoutFor asked timeout
    return some { url := u.withParameters (sortByKey ps), timeout }

/-- How long the transport waits for a profile that may take `timeout`. -/
def transportTimeout (timeout : Duration) : Except Overflow Duration :=
  (timeout.add? grace).elim (.error .timeout) .ok

end Profiling.Source
