import Bindery.Settings
import Bindery.SymbolTree.Resolution

/-!
# Failures of a run

What ends a run before its package is written.
-/

namespace Bindery

/-- Why a file cannot be used. -/
inductive FileError where
  | notFound
  | notADirectory
  | isADirectory
  | other (text : String)
  deriving DecidableEq, Repr

/-- The wording of a file error. -/
def FileError.message : FileError → String
  | .notFound => "No such file or directory (os error 2)"
  | .notADirectory => "Not a directory (os error 20)"
  | .isADirectory => "Is a directory (os error 21)"
  | .other text => text

/-- Why a run fails. -/
inductive RunError where
  | settings (error : SettingsError)
  | unreadableConfig (path : String) (error : FileError)
  | malformedConfig (path : String)
  | unreadableSymbols (path : String)
  | badDump (error : DumpError)
  | classNotFound (name : String)
  | unwritable (path : String)
  deriving DecidableEq, Repr

/-- The wording of a complaint about the configuration. -/
def invalidConfiguration (complaint : String) : String :=
  "Invalid configuration: " ++ complaint

/-- The wording of a settings error. -/
def SettingsError.message : SettingsError → String
  | .noSymbols => invalidConfiguration "no symbols file given"
  | .noClass => invalidConfiguration "no class name given"
  | .emptyClass => invalidConfiguration "class name is empty"
  | .genericClass name =>
      "'" ++ name ++ "' is a generic class name and needs an explicit JavaScript class name"
  | .invalidScriptName name =>
      invalidConfiguration ("JavaScript class name '" ++ name ++ "' is not a valid identifier")
  | .invalidLibrary name => invalidConfiguration ("invalid library name '" ++ name ++ "'")

/-- The wording of a failure. -/
def RunError.message : RunError → String
  | .settings error => error.message
  | .unreadableConfig path error =>
      invalidConfiguration ("cannot read " ++ path ++ ": " ++ error.message)
  | .malformedConfig path => invalidConfiguration (path ++ ": TOML parse error")
  | .unreadableSymbols path => "Failed to read symbols file " ++ path
  | .badDump error => "Failed to parse symbols: " ++ error.message
  | .classNotFound name => "Could not find object '" ++ name ++ "'"
  | .unwritable path => "Failed to write " ++ path

end Bindery
