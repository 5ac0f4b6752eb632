/-!
# Diagnostics

Findings about the input that do not stop a run.  A function that reports
findings returns them, in the order in which they arose, beside its result.
-/

namespace Bindery

/-- A warning is worth the user's attention; a note is not counted. -/
inductive Severity where
  | warning
  | info
  deriving DecidableEq, Repr

/-- The word for a severity in a listing. -/
def Severity.word : Severity → String
  | .warning => "warning"
  | .info => "info"

/-- One finding. -/
structure Diagnostic where
  severity : Severity
  message : String
  /-- The line of the dump that the finding is about, counted from one. -/
  line : Option Nat := none
  help : Option String := none
  deriving DecidableEq, Repr

namespace Diagnostic

/-- A warning about no line in particular. -/
def warning (message : String) : Diagnostic :=
  { severity := .warning, message }

/-- A note about no line in particular. -/
def info (message : String) : Diagnostic :=
  { severity := .info, message }

/-- Place a finding on the line with an index counted from zero. -/
def atLine (diagnostic : Diagnostic) (index : Nat) : Diagnostic :=
  { diagnostic with line := some (index + 1) }

/-- Add advice to a finding. -/
def withHelp (diagnostic : Diagnostic) (help : String) : Diagnostic :=
  { diagnostic with help := some help }

/-- Whether a finding is a warning. -/
def isWarning (diagnostic : Diagnostic) : Bool :=
  diagnostic.severity = .warning

/-- Whether a finding is a note. -/
def isInfo (diagnostic : Diagnostic) : Bool :=
  diagnostic.severity = .info

end Diagnostic

/-- Findings in the order in which they arose. -/
abbrev Diagnostics := List Diagnostic

namespace Diagnostics

/-- The warnings, in order. -/
def warnings (diagnostics : Diagnostics) : List Diagnostic :=
  diagnostics.filter Diagnostic.isWarning

/-- The notes, in order. -/
def notes (diagnostics : Diagnostics) : List Diagnostic :=
  diagnostics.filter Diagnostic.isInfo

end Diagnostics

end Bindery
