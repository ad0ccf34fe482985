import Profiling.Disk
import Profiling.Duration
import Profiling.Url.Basic

/-!
# Machines

What the fetching of profiles needs from its surroundings: files, programs, servers
and a place for messages. Everything above is written against this interface, for
any monad.
-/

namespace Profiling

/-- How a program ended. -/
inductive Ending
  | exited (code : Nat)
  | killed (signal : Nat)
deriving DecidableEq, Repr

namespace Ending

def succeeded (e : Ending) : Bool := e = .exited 0

def signalNames : List (Nat × String) :=
  [(1, "SIGHUP"), (2, "SIGINT"), (3, "SIGQUIT"), (4, "SIGILL"), (5, "SIGTRAP"), (6, "SIGABRT"),
   (7, "SIGBUS"), (8, "SIGFPE"), (9, "SIGKILL"), (10, "SIGUSR1"), (11, "SIGSEGV"),
   (12, "SIGUSR2"), (13, "SIGPIPE"), (14, "SIGALRM"), (15, "SIGTERM"), (16, "SIGSTKFLT"),
   (17, "SIGCHLD"), (18, "SIGCONT"), (19, "SIGSTOP"), (20, "SIGTSTP"), (21, "SIGTTIN"),
   (22, "SIGTTOU"), (23, "SIGURG"), (24, "SIGXCPU"), (25, "SIGXFSZ"), (26, "SIGVTALRM"),
   (27, "SIGPROF"), (28, "SIGWINCH"), (29, "SIGIO"), (30, "SIGPWR"), (31, "SIGSYS")]

def message : Ending → String
  | exited code => "exit status: " ++ toString code
  | killed signal =>
    let name := (signalNames.lookup signal).elim "" fun name => " (" ++ name ++ ")"
    "signal: " ++ toString signal ++ name

end Ending

structure HttpRequest where
  url : Url
  /-- The text to post; nothing is posted by a plain request. -/
  post : Option String := none
  /-- How long to wait for the server. -/
  timeout : Duration
deriving DecidableEq, Repr

structure HttpResponse where
  status : Nat
  reason : String := ""
  headers : List (String × String) := []
  /-- Nothing if the connection broke off. -/
  body : Option (List UInt8)
deriving DecidableEq, Repr

namespace HttpResponse

def isFailure (r : HttpResponse) : Bool := 400 ≤ r.status

/-- The first value of a header; the case of its name does not matter. -/
def header? (r : HttpResponse) (name : String) : Option String :=
  (r.headers.find? fun (key, _) => key.toLower = name.toLower).map (·.2)

end HttpResponse

structure Machine (m : Type → Type) where
  readFile : String → m (Except DiskError (List UInt8))
  isFile : String → m Bool
  /-- The names in a directory in ascending order; none where there is no directory. -/
  names : String → m (List String)
  createDirectories : String → m (Except DiskError Unit)
  /-- Makes an empty file, but only where nothing is yet. -/
  createNew : String → m (Except DiskError Unit)
  /-- Makes a file or replaces its content. -/
  write : String → List UInt8 → m (Except DiskError Unit)
  removeFile : String → m (Except DiskError Unit)
  /-- The directory for files that are needed for a while only. -/
  tempDirectory : m String
  /-- Makes an empty file of an unused name in that directory and tells its path; the
  name starts and ends with the given texts. -/
  scratchFile : String → String → m (Except DiskError String)
  /-- Runs a program with arguments and waits for its end. -/
  run : String → List String → m (Except DiskError Ending)
  /-- The answer of a server, if there is one. -/
  exchange : HttpRequest → m (Option HttpResponse)
  /-- A message about what goes on. -/
  print : String → m Unit
  /-- A message about what went wrong. -/
  warn : String → m Unit

end Profiling
