import Profiling.Path

/-!
# Disks

A tree of files in memory, with the rules by which a path leads to one of them and
the reasons why it may not.
-/

namespace Profiling

/-- Why an operation on a disk failed. -/
inductive DiskError
  | notFound
  | notPermitted
  | alreadyExists
  | notDirectory
  | isDirectory
  | nameTooLong
  /-- No path can hold a NUL. -/
  | nulInPath
  /-- Each file of a numbered form is there already. -/
  | allTaken (form : String)
  | other (text : String)
deriving DecidableEq, Repr

def DiskError.message : DiskError → String
  | .notFound => "No such file or directory (os error 2)"
  | .notPermitted => "Permission denied (os error 13)"
  | .alreadyExists => "File exists (os error 17)"
  | .notDirectory => "Not a directory (os error 20)"
  | .isDirectory => "Is a directory (os error 21)"
  | .nameTooLong => "File name too long (os error 36)"
  | .nulInPath => "file name contained an unexpected NUL byte"
  | .allTaken form => "could not create file of the form " ++ form
  | .other text => text

/-- Whether the failure is that something is there already. -/
def DiskError.alreadyThere : DiskError → Bool
  | .alreadyExists => true
  | .allTaken _ => true
  | _ => false

inductive Node
  | file (content : List UInt8)
  | directory
deriving DecidableEq, Repr

/-- Where something lies: the names that lead to it, the innermost first. -/
abbrev Place := List String

structure Disk where
  nodes : List (Place × Node) := []
  /-- Where paths that are not absolute start. -/
  working : Place := []
deriving DecidableEq, Repr

namespace Disk

/-- What lies at a place. The root is always a directory. -/
def node? (d : Disk) (place : Place) : Option Node :=
  if place = [] then some .directory else d.nodes.lookup place

def put (d : Disk) (place : Place) (node : Node) : Disk :=
  { d with nodes := (place, node) :: d.nodes.filter (·.1 ≠ place) }

def erase (d : Disk) (place : Place) : Disk :=
  { d with nodes := d.nodes.filter (·.1 ≠ place) }

/-- A name has no more bytes than this. -/
def maxName : Nat := 255

/-- A path has fewer bytes than this. -/
def pathLimit : Nat := 4096

/-- Goes down some names. What is passed on the way has to be a directory; at the end
there may be nothing. -/
def resolve (d : Disk) : Place → List String → Except DiskError Place
  | here, [] => .ok here
  | here, name :: rest =>
    match d.node? here with
    | none => .error .notFound
    | some (.file _) => .error .notDirectory
    | some .directory =>
      if name = "." then d.resolve here rest
      else if name = ".." then d.resolve here.tail rest
      else if maxName < name.utf8ByteSize then .error .nameTooLong
      else d.resolve (name :: here) rest

/-- Rejects what cannot be a path. -/
def checkPath (path : String) : Except DiskError Unit :=
  if path.toList.contains '\x00' then .error .nulInPath
  else if path.isEmpty then .error .notFound
  else if pathLimit ≤ path.utf8ByteSize then .error .nameTooLong
  else .ok ()

def start (d : Disk) (path : String) : Place := if Path.isAbsolute path then [] else d.working

def endsWithSlash (path : String) : Bool := path.toList.getLast? = some '/'

/-- Where a path leads. A slash at its end asks for a directory. -/
def find (d : Disk) (path : String) : Except DiskError Place := do
  checkPath path
  let dot := if endsWithSlash path then ["."] else []
  d.resolve (d.start path) (Path.parts path ++ dot)

def nodeAt (d : Disk) (path : String) : Except DiskError (Place × Node) := do
  let place ← d.find path
  match d.node? place with
  | some node => .ok (place, node)
  | none => .error .notFound

/-- Where a path leads that a file is to be made at: a slash may not end its name. -/
def findNew (d : Disk) (path : String) : Except DiskError Place := do
  checkPath path
  let place ← d.resolve (d.start path) (Path.parts path)
  match (Path.parts path).getLast? with
  | some last =>
    if endsWithSlash path && last != "." && last != ".." then .error .isDirectory else .ok place
  | none => .ok place

def contents (d : Disk) (path : String) : Except DiskError (List UInt8) := do
  match ← d.nodeAt path with
  | (_, .file content) => .ok content
  | (_, .directory) => .error .isDirectory

def isFile (d : Disk) (path : String) : Bool := (d.contents path).toOption.isSome

/-- The name of something that lies directly in a directory. -/
def childName? (directory : Place) : Place → Option String
  | [] => none
  | name :: outer => if outer = directory then some name else none

/-- The names in a directory in ascending order; none where there is no directory. -/
def names (d : Disk) (path : String) : List String :=
  match d.nodeAt path with
  | .ok (place, .directory) =>
    (d.nodes.filterMap fun (p, _) => childName? place p).mergeSort (· ≤ ·)
  | _ => []

/-- Makes an empty file where nothing is yet. -/
def createNew (d : Disk) (path : String) : Except DiskError Disk := do
  let place ← d.findNew path
  match d.node? place with
  | some _ => .error .alreadyExists
  | none => .ok (d.put place (.file []))

/-- Makes a file or replaces its content. -/
def write (d : Disk) (path : String) (content : List UInt8) : Except DiskError Disk := do
  let place ← d.findNew path
  match d.node? place with
  | some .directory => .error .isDirectory
  | _ => .ok (d.put place (.file content))

def removeFile (d : Disk) (path : String) : Except DiskError Disk := do
  match ← d.nodeAt path with
  | (place, .file _) => .ok (d.erase place)
  | (_, .directory) => .error .isDirectory

def createDirectory (d : Disk) (here : Place) (path : List String) : Except DiskError Disk := do
  let place ← d.resolve here path
  match d.node? place with
  | some _ => .error .alreadyExists
  | none => .ok (d.put place .directory)

/-- Makes a directory unless it is there. The names come innermost first. -/
def ensureDirectory (d : Disk) (here : Place) (path : List String) : Except DiskError Disk :=
  match d.createDirectory here path.reverse with
  | .ok d => .ok d
  | .error e =>
    match d.resolve here path.reverse with
    | .ok place => if d.node? place = some .directory then .ok d else .error e
    | .error _ => .error e

/-- Makes a directory, and first those that it lies in where they are missing. -/
def ensureAll (d : Disk) (here : Place) : List String → Except DiskError Disk
  | [] => .ok d
  | name :: outer =>
    match d.ensureDirectory here (name :: outer) with
    | .error .notFound => do
      let d ← d.ensureAll here outer
      d.ensureDirectory here (name :: outer)
    | result => result

/-- Makes a directory and all that it lies in. -/
def createDirectories (d : Disk) (path : String) : Except DiskError Disk := do
  if path.isEmpty then .ok d
  else
    checkPath path
    d.ensureAll (d.start path) (Path.names path).reverse

end Disk

end Profiling
