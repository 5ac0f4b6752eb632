import Std.Time.DateTime.Timestamp
import Bindery.CommandLine

/-!
# The program

The command line on the real file system.  Everything that is decided is
decided by `Bindery.CommandLine.answer`; here files are read and written and
texts are printed.
-/

namespace Bindery

/-- The cause of a failed file operation. -/
def FileError.ofFailure : IO.Error → FileError
  | .noFileOrDirectory .. => .notFound
  | .inappropriateType .. => .isADirectory
  | error => .other (toString error)

/-- Do a file operation and keep its failure as a value. -/
def attempt {α : Type} (action : IO α) : IO (Except FileError α) := do
  try
    return .ok (← action)
  catch error =>
    return .error (.ofFailure error)

/-- The operations on real files.  A path that can be read, or that holds
something other than a directory, names a file. -/
def realFiles : FileSystem IO where
  read path := attempt (IO.FS.readFile path)
  isFile path := do
    match ← attempt (IO.FS.readFile path) with
    | .ok _ => return true
    | .error error => return error != .notFound && error != .isADirectory
  makeDirectories path := attempt (IO.FS.createDirAll path)
  write path contents := attempt (IO.FS.writeFile path contents)

end Bindery

/-- Answer the command line. -/
def main (arguments : List String) : IO UInt32 := do
  let now ← Std.Time.Timestamp.now
  let millis := now.toMillisecondsSinceUnixEpoch.val.toNat
  let answer ← Bindery.CommandLine.answer Bindery.realFiles millis arguments
  for line in answer.report do
    IO.eprintln line
  IO.print answer.output
  return answer.status.toUInt32
