import Bindery.Config
import Bindery.FileSystem
import Bindery.Package
import Bindery.SymbolTree.View

/-!
# Runs

Reading what is asked for, making a package of it and writing the package.  The
package is complete before the first file is written, so a run that fails
earlier leaves no trace.
-/

namespace Bindery

variable {m : Type → Type} [Monad m]

/-- A path below a directory. -/
def joinPath (directory name : String) : String :=
  if directory.isEmpty then name
  else if directory.toList.getLast? = some '/' then directory ++ name
  else directory ++ "/" ++ name

/-! ## Reading -/

/-- The section in a config file. -/
def readConfig (files : FileSystem m) (path : String) : m (Except RunError Section) := do
  match ← files.read path with
  | .error error => return .error (.unreadableConfig path error)
  | .ok text =>
      match Section.ofConfig? text with
      | some given => return .ok given
      | none => return .error (.malformedConfig path)

/-- The text of a symbols file. -/
def readSymbols (files : FileSystem m) (path : String) : m (Except RunError String) := do
  match ← files.read path with
  | .error _ => return .error (.unreadableSymbols path)
  | .ok text => return .ok text

/-! ## Writing -/

namespace Package

/-- The directory of a file below a folder. -/
def fileDirectory (folder : String) (file : PackageFile) : String :=
  file.path.dropLast.foldl joinPath folder

/-- Write files below a folder, one after another, up to the first failure. -/
def writeFiles (files : FileSystem m) (folder : String) :
    List PackageFile → m (Except RunError Unit)
  | [] => return .ok ()
  | file :: rest => do
      let directory := fileDirectory folder file
      match ← files.makeDirectories directory with
      | .error _ => return .error (.unwritable directory)
      | .ok () =>
          let path := joinPath folder file.pathText
          match ← files.write path file.contents with
          | .error _ => return .error (.unwritable path)
          | .ok () => writeFiles files folder rest

/-- The folder of a package in an output directory. -/
def folderIn (package : Package) (output : String) : String :=
  joinPath output package.folder

/-- Write a package into an output directory. -/
def write (files : FileSystem m) (package : Package) (output : String) :
    m (Except RunError Unit) :=
  writeFiles files (package.folderIn output) package.files

end Package

/-! ## Whole runs -/

namespace Options

/-- The package that options ask for, made of the symbols file at a time. -/
def generate (files : FileSystem m) (options : Options) (millis : Nat) :
    m (Except RunError Package) := do
  match options.problem? with
  | some error => return .error (.settings error)
  | none =>
      match ← readSymbols files options.symbols with
      | .error error => return .error error
      | .ok dump => return options.package dump millis

/-- Make the package that options ask for and write it.  The answer holds the
folder of the package. -/
def run (files : FileSystem m) (options : Options) (millis : Nat) :
    m (Except RunError (String × Package)) := do
  match ← options.generate files millis with
  | .error error => return .error error
  | .ok package =>
      match ← package.write files options.output with
      | .error error => return .error error
      | .ok () => return .ok (package.folderIn options.output, package)

end Options

/-- The view of a class in the text of a dump. -/
def viewOfDump (dump className : String) (depth : Nat) : Except RunError Json :=
  match SymbolTree.ofDump dump with
  | (.error error, _) => .error (.badDump error)
  | (.ok tree, _) =>
      match tree.findClass? className with
      | none => .error (.classNotFound className)
      | some owner => .ok (tree.view owner depth)

/-- The view of a class in a symbols file. -/
def viewClass (files : FileSystem m) (symbols className : String) (depth : Nat) :
    m (Except RunError Json) := do
  match ← readSymbols files symbols with
  | .error error => return .error error
  | .ok dump => return viewOfDump dump className depth

end Bindery
