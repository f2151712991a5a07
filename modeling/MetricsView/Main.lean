import MetricsView.Catalog.Archive
import MetricsView.Command.Run
import Std.Time.DateTime.Timestamp

/-!
# The program

The process as a host, and the entry point.
-/
namespace MetricsView

def FileFault.ofError : IO.Error → FileFault
  | .noFileOrDirectory .. => .notFound
  | .alreadyExists .. => .alreadyExists
  | .inappropriateType _ code details =>
    if code = 20 then .notADirectory
    else if code = 21 then .isADirectory
    else .other s!"{details} (os error {code})"
  | .invalidArgument _ code details =>
    if code = 36 then .nameTooLong else .other s!"{details} (os error {code})"
  | .permissionDenied _ code details => .other s!"{details} (os error {code})"
  | e => .other (toString e)

def attemptIn (action : IO α) : IO (Except FileFault α) :=
  try return .ok (← action) catch e => return .error (.ofError e)

def processFiles : FileSystem IO where
  workingDirectory := return (← IO.currentDir).toString
  look path := do
    match ← attemptIn do (← IO.FS.Handle.mk path .read).read 1 with
    | .ok _ => return .ok .file
    | .error .isADirectory => return .ok .directory
    | .error fault => return .error fault
  read path := attemptIn do return (← (← IO.FS.Handle.mk path .read).readBinToEnd).toList
  write path content := attemptIn (IO.FS.writeBinFile path ⟨content.toArray⟩)
  remove path := attemptIn (IO.FS.removeFile path)
  makeDirectory path := attemptIn (IO.FS.createDir path)

def processHost : Host IO where
  toFileSystem := processFiles
  lookUp name := IO.getEnv name
  now := do
    let nanos := (← Std.Time.Timestamp.now).toNanosecondsSinceUnixEpoch.val
    return ⟨nanos / 1000000000, (nanos % 1000000000).toNat⟩
  database := Archive.database processFiles

end MetricsView

open MetricsView in
def main (words : List String) : IO UInt32 := do
  let outcome ← program processHost words
  IO.print outcome.output
  IO.eprint outcome.errors
  return outcome.code.toUInt32
