import Profiling.FetchError
import Profiling.Machine
import Profiling.Profile.File
import Profiling.Source

/-!
# Fetching one source

A remote source is asked for its profile. A local file is read, and a capture of
measured events is first turned into a profile by another program.
-/

namespace Profiling

/-- A profile and the canonical URL that it came from; that is empty for files. -/
structure Fetched where
  profile : Profile
  source : String := ""
deriving DecidableEq, Repr

namespace Fetch

/-- Whether a response comes from a server of profiles that explains the failure. -/
def explainsFailure (r : HttpResponse) : Bool :=
  (r.header? "X-Go-Pprof").any (!·.isEmpty) &&
    (r.header? "Content-Type").any fun v => (v.splitOn "text/plain").length ≠ 1

def statusText (r : HttpResponse) : String :=
  let text := toString r.status ++ " " ++ r.reason
  match explainsFailure r, r.body with
  | true, some body => text ++ " - " ++ String.ofList (Url.lossyText body)
  | _, _ => text

/-- The content of a response. -/
def content (url : String) : Option HttpResponse → Except FetchError (List UInt8)
  | none => .error (.transport url)
  | some r =>
    if r.isFailure then .error (.status (statusText r))
    else
      match r.body with
      | some body => .ok body
      | none => .error (.transport url)

variable {m : Type → Type} [Monad m]

def fetchUrl (machine : Machine m) (remote : Source.Remote) :
    m (Except FetchError (List UInt8)) := do
  match Source.transportTimeout remote.timeout with
  | .error _ => return .error .aborted
  | .ok timeout => return content remote.url.render (← machine.exchange { url := remote.url, timeout })

/-- What a capture starts with. -/
def captureMagic : List UInt8 := "PERFILE2".toUTF8.toList

def isCapture (machine : Machine m) (path : String) : m Bool := do
  match ← machine.readFile path with
  | .ok content => return captureMagic.isPrefixOf content
  | .error _ => return false

/-- Runs a converter with a capture and an output file. -/
def runConverter (machine : Machine m) (converter input output : String) :
    m (Except FetchError (List UInt8)) := do
  match ← machine.run converter [input, output] with
  | .error cause => return .error (.conversion (converter ++ ": " ++ cause.message))
  | .ok ending =>
    if ending.succeeded then
      return (← machine.readFile output).mapError .disk
    else return .error (.conversion (converter ++ " exited with " ++ ending.message))

/-- Turns a capture into the content of a profile file. The output file is removed
in any case. -/
def convert (machine : Machine m) (converter input : String) :
    m (Except FetchError (List UInt8)) := do
  machine.print ("Converting " ++ input ++ " to a profile.proto... (May take a few minutes)")
  match ← machine.scratchFile "profetch-perf-" ".pb.gz" with
  | .error cause => return .error (.disk cause)
  | .ok output =>
    let result ← runConverter machine converter input output
    let _ ← machine.removeFile output
    return result

def announce (machine : Machine m) (remote : Source.Remote) (duration : Duration) : m Unit := do
  machine.print ("Fetching profile over HTTP from " ++ remote.url.render)
  if !duration.isZero then
    machine.print ("Please wait... (" ++ toString duration.seconds ++ "s)")

/-- The content of a local source. -/
def readLocal (machine : Machine m) (source converter : String) :
    m (Except FetchError (List UInt8)) := do
  if ← isCapture machine source then convert machine converter source
  else return (← machine.readFile source).mapError (.unreadable source)

/-- The content of a source and the URL that it came from. -/
def read (machine : Machine m) (source : String) (duration timeout : Duration)
    (converter : String) : m (Except FetchError (List UInt8 × String)) := do
  match Source.remote? source duration timeout with
  | .error _ => return .error .aborted
  | .ok (some remote) =>
    announce machine remote duration
    return (← fetchUrl machine remote).map (·, remote.url.render)
  | .ok none => return (← readLocal machine source converter).map (·, "")

end Fetch

variable {m : Type → Type} [Monad m]

/-- Fetches a source and reads its profile. -/
def fetch (machine : Machine m) (source : String) (duration timeout : Duration)
    (converter : String) : m (Except FetchError Fetched) := do
  match ← Fetch.read machine source duration timeout converter with
  | .error e => return .error e
  | .ok (data, origin) =>
    return ((Profile.parse data).mapError .profile).map fun profile => ⟨profile, origin⟩

end Profiling
