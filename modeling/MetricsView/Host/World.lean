import MetricsView.Catalog.Archive
import MetricsView.Host.Basic
import MetricsView.Settings.Basic

/-!
# Worlds

A host in the form of a value: variables that do not change, a tree of files and a clock.
-/
namespace MetricsView

open Text (Octets)

inductive Entry where
  | directory
  | file (content : Octets)
  deriving DecidableEq, Repr

def Entry.kind : Entry → EntryKind
  | .directory => .directory
  | .file _ => .file

/-- The entries below the root, each under the names of the steps that lead to it. -/
abbrev FileTree := List (List String × Entry)

namespace FileTree

def entry? (tree : FileTree) (position : List String) : Option Entry :=
  if position.isEmpty then some .directory
  else (tree.find? fun e => e.1 = position).map (·.2)

def isDirectoryAt (tree : FileTree) (position : List String) : Bool :=
  tree.entry? position = some .directory

def set (tree : FileTree) (position : List String) (e : Entry) : FileTree :=
  (position, e) :: tree.filter fun old => old.1 ≠ position

def erase (tree : FileTree) (position : List String) : FileTree :=
  tree.filter fun old => old.1 ≠ position

def longestName : Nat := 255

/-- Where the steps lead from a position. Each step is taken inside a directory. -/
def walk (tree : FileTree) (position : List String) : List String → Except FileFault (List String)
  | [] => .ok position
  | step :: steps =>
    if !tree.isDirectoryAt position then .error .notADirectory
    else if Path.isIdle step then walk tree position steps
    else if step = ".." then walk tree position.dropLast steps
    else if longestName < step.utf8ByteSize then .error .nameTooLong
    else if (tree.entry? (position ++ [step])).isSome then walk tree (position ++ [step]) steps
    else .error .notFound

def walkToNew (tree : FileTree) (position : List String) (path : List String) :
    Except FileFault (List String) :=
  match path.getLast? with
  | none => .error .notFound
  | some name =>
    match tree.walk position path.dropLast with
    | .error fault => .error fault
    | .ok directory =>
      if !tree.isDirectoryAt directory then .error .notADirectory
      else if Path.isIdle name || name = ".." then .error .isADirectory
      else if longestName < name.utf8ByteSize then .error .nameTooLong
      else .ok (directory ++ [name])

end FileTree

structure World where
  environment : Environment
  workingDirectory : List String
  files : FileTree
  clock : Instant

namespace World

def start (w : World) (path : String) : List String :=
  if Path.isAbsolute path then [] else w.workingDirectory

def longestPath : Nat := 4095

/-- Why a path leads nowhere in any world. -/
def pathFault? (path : String) : Option FileFault :=
  if path.toList.contains '\x00' then some .zeroOctet
  else if path = "" then some .notFound
  else if longestPath < path.utf8ByteSize then some .nameTooLong
  else none

def locate (w : World) (path : String) : Except FileFault (List String) :=
  match pathFault? path with
  | some fault => .error fault
  | none => w.files.walk (w.start path) (Path.steps path)

def locateNew (w : World) (path : String) : Except FileFault (List String) :=
  match pathFault? path with
  | some fault => .error fault
  | none => w.files.walkToNew (w.start path) (Path.steps path)

def look (w : World) (path : String) : Except FileFault EntryKind :=
  match w.locate path with
  | .error fault => .error fault
  | .ok position =>
    match w.files.entry? position with
    | some e => .ok e.kind
    | none => .error .notFound

def read (w : World) (path : String) : Except FileFault Octets :=
  match w.locate path with
  | .error fault => .error fault
  | .ok position =>
    match w.files.entry? position with
    | some (.file content) => .ok content
    | some .directory => .error .isADirectory
    | none => .error .notFound

def write (w : World) (path : String) (content : Octets) : Except FileFault World :=
  match w.locateNew path with
  | .error fault => .error fault
  | .ok position =>
    if w.files.isDirectoryAt position then .error .isADirectory
    else .ok { w with files := w.files.set position (.file content) }

def remove (w : World) (path : String) : Except FileFault World :=
  match w.locate path with
  | .error fault => .error fault
  | .ok position =>
    if w.files.isDirectoryAt position then .error .isADirectory
    else .ok { w with files := w.files.erase position }

def makeDirectory (w : World) (path : String) : Except FileFault World :=
  match w.locate path, w.locateNew path with
  | .ok _, _ => .error .alreadyExists
  | .error .notFound, .ok position => .ok { w with files := w.files.set position .directory }
  | .error fault, _ => .error fault

/-- Leaves the world as it is when there is a fault. -/
def attempt (change : World → Except FileFault World) : StateM World (Except FileFault Unit) :=
  fun w =>
    match change w with
    | .ok w => (.ok (), w)
    | .error fault => (.error fault, w)

def fileSystem : FileSystem (StateM World) where
  workingDirectory := fun w => ("/" ++ "/".intercalate w.workingDirectory, w)
  look path := fun w => (w.look path, w)
  read path := fun w => (w.read path, w)
  write path content := attempt (·.write path content)
  remove path := attempt (·.remove path)
  makeDirectory path := attempt (·.makeDirectory path)

abbrev hostWith (db : Database (StateM World)) : Host (StateM World) where
  toFileSystem := fileSystem
  lookUp name := fun w => (w.environment name, w)
  now := fun w => (w.clock, w)
  database := db

def host : Host (StateM World) := hostWith (Archive.database fileSystem)

end World
end MetricsView
