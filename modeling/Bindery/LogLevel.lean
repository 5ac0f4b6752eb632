import Bindery.Text.LowerCase

/-!
# Log levels

How much a run tells about itself.  A level is chosen by name, in any letter
case.
-/

namespace Bindery

/-- How much a run tells about itself, from least to most. -/
inductive LogLevel where
  | error
  | warn
  | info
  | debug
  | trace
  deriving DecidableEq, Repr

namespace LogLevel

/-- The level with a name, which may be written in any letter case. -/
def ofName? (name : String) : Option LogLevel :=
  match Text.lowercase name with
  | "error" => some .error
  | "warn" | "warning" => some .warn
  | "info" => some .info
  | "debug" => some .debug
  | "trace" => some .trace
  | _ => none

/-- What is said about a name that no level has. -/
def unknownMessage (name : String) : String :=
  "Unknown log level: " ++ name ++ ". Use 'error', 'warn', 'info', 'debug', or 'trace'"

end LogLevel

end Bindery
