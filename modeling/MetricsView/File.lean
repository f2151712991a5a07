import MetricsView.Text.Basic

/-!
# Files

What may be found at a path, why a file or a directory can not be used, and what can be done with
them. A path is a text whose steps are divided by slashes. Empty steps and single dots lead nowhere,
except that a dot in front of a path is a step of its own.
-/
namespace MetricsView

open Text (Octets)

inductive EntryKind where
  | file | directory
  deriving DecidableEq, Repr

inductive FileFault where
  | notFound
  | alreadyExists
  | notADirectory
  | isADirectory
  | nameTooLong
  | zeroOctet
  | notText
  | other (reason : String)
  deriving DecidableEq, Repr

def FileFault.message : FileFault → String
  | .notFound => "No such file or directory (os error 2)"
  | .alreadyExists => "File exists (os error 17)"
  | .notADirectory => "Not a directory (os error 20)"
  | .isADirectory => "Is a directory (os error 21)"
  | .nameTooLong => "File name too long (os error 36)"
  | .zeroOctet => "file name contained an unexpected NUL byte"
  | .notText => "stream did not contain valid UTF-8"
  | .other reason => reason

namespace Path

def steps (path : String) : List String := (Text.parts '/' path.toList).map String.ofList

def isAbsolute (path : String) : Bool := path.toList.head? = some '/'

def isIdle (step : String) : Bool := step = "" || step = "."

/-- The path whose steps after the first are given in reverse. -/
def ofReverse (first : String) (steps : List String) : String :=
  match steps with
  | [] => if first = "" then "/" else first
  | steps => "/".intercalate (first :: steps.reverse)

def enclosingFrom (first : String) : List String → List String
  | [] => if first = "" then [] else [""]
  | step :: steps =>
    if isIdle step then enclosingFrom first steps
    else ofReverse first (steps.dropWhile isIdle) :: enclosingFrom first steps

/-- The directories that enclose a path, the nearest one first, each in the words of the path. The
last one is empty for a path that starts where one is. -/
def enclosing (path : String) : List String :=
  match steps path with
  | [] => []
  | first :: rest => enclosingFrom first rest.reverse

/-- Appends a step. A double dot takes back a step, if there is one that is no double dot. -/
def climb (absolute : Bool) (position : List String) (step : String) : List String :=
  if isIdle step then position
  else if step ≠ ".." then position ++ [step]
  else if position.getLast?.any (· ≠ "..") then position.dropLast
  else if absolute then position
  else position ++ [step]

def ofPosition (absolute : Bool) (position : List String) : String :=
  (if absolute then "/" else "") ++ "/".intercalate position

/-- The path without idle steps and, as far as possible, without double dots. -/
def normal (path : String) : String :=
  let absolute := isAbsolute path
  ofPosition absolute ((steps path).foldl (climb absolute) [])

/-- The positions that the given steps reach from a position, those left out that a double dot leads
back to. -/
def reached (absolute : Bool) (position : List String) : List String → List (List String)
  | [] => []
  | step :: steps =>
    let next := climb absolute position step
    let later := reached absolute next steps
    if position.length < next.length then next :: later else later

/-- The paths that one comes by on the way along a path, in their normal form. -/
def passed (path : String) : List String :=
  let absolute := isAbsolute path
  (reached absolute [] (steps path)).map (ofPosition absolute)

def join (directory path : String) : String :=
  if isAbsolute path then path
  else if directory = "" ∨ directory.toList.getLast? = some '/' then directory ++ path
  else directory ++ "/" ++ path

end Path

structure FileSystem (m : Type → Type) where
  /-- The absolute path where paths start that are not absolute. -/
  workingDirectory : m String
  look : String → m (Except FileFault EntryKind)
  read : String → m (Except FileFault Octets)
  /-- Makes a file with the given octets, or overwrites it. -/
  write : String → Octets → m (Except FileFault Unit)
  remove : String → m (Except FileFault Unit)
  /-- Makes a directory inside one that is there. -/
  makeDirectory : String → m (Except FileFault Unit)

namespace FileSystem

variable {m : Type → Type} [Monad m] (files : FileSystem m)

def isPresent (path : String) : m Bool := return (← files.look path).isOk

def readText (path : String) : m (Except FileFault String) := do
  match ← files.read path with
  | .error fault => return .error fault
  | .ok bytes =>
    match Text.ofUtf8? bytes with
    | some s => return .ok s
    | none => return .error .notText

/-- A directory that is already there is as good as a new one. -/
def ensureDirectory (path : String) : m (Except FileFault Unit) := do
  match ← files.makeDirectory path with
  | .ok () => return .ok ()
  | .error fault =>
    match ← files.look path with
    | .ok .directory => return .ok ()
    | _ => return .error fault

/-- Makes the first of some directories, each of which lies in the next one. The enclosing ones are
made when they turn out to be missing. -/
def ensureDirectories : List String → m (Except FileFault Unit)
  | [] => return .ok ()
  | path :: enclosing => do
    if path = "" then return .ok ()
    match ← files.ensureDirectory path with
    | .error .notFound =>
      match ← ensureDirectories enclosing with
      | .ok () => files.ensureDirectory path
      | .error fault => return .error fault
    | done => return done

/-- Makes the directories that a file at the path needs. A fault comes with the directory that was
asked for. -/
def ensureEnclosing (path : String) : m (Except (String × FileFault) Unit) := do
  match Path.enclosing path with
  | [] => return .ok ()
  | directory :: enclosing =>
    match ← files.ensureDirectories (directory :: enclosing) with
    | .ok () => return .ok ()
    | .error fault => return .error (directory, fault)

end FileSystem
end MetricsView
