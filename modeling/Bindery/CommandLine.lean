import Bindery.CommandLine.Grammar
import Bindery.Run

/-!
# Answers to the command line

What the program prints and the status that it ends with: zero after success,
one after a failed run, two after arguments that make no sense.
-/

namespace Bindery.CommandLine

/-- What the program leaves behind, apart from files. -/
structure Answer where
  status : UInt8
  /-- What is printed. -/
  output : String
  /-- What is reported beside the output. -/
  report : List String
  deriving DecidableEq, Repr

/-! ## Texts -/

/-- The answer to a question for the version. -/
def versionText : String :=
  "mbedwrap 0.1.0\n"

/-- The answer to a question for help. -/
def helpText : String :=
  Code.joined [
    "Generate JerryScript bindings for mbed C++ classes from objdump symbols",
    "",
    "Usage: mbedwrap [OPTIONS] <COMMAND>",
    "",
    "Commands:",
    "  generate  Generate a JerryScript wrapper package for a class",
    "  dump      Print a class subtree as JSON",
    "  help      Print this message or the help of the given subcommand(s)",
    "",
    "Options:",
    "  -v, --verbose            Log debug output",
    "      --log-level <LEVEL>  Log level: error, warn, info, debug or trace",
    "  -h, --help               Print help",
    "  -V, --version            Print version"]

/-- The wording of refused arguments. -/
def UsageError.message : UsageError → String
  | .unknownFlag argument => "unexpected argument '" ++ argument ++ "' found"
  | .repeatedFlag flag =>
      "the argument '--" ++ flag.long ++ "' cannot be used multiple times"
  | .missingValue flag => "a value is required for '--" ++ flag.long ++ "'"
  | .unexpectedValue flag => "unexpected value for '--" ++ flag.long ++ "'"
  | .invalidValue flag value =>
      "invalid value '" ++ value ++ "' for '--" ++ flag.long ++ "'"
  | .unexpectedOperand operand => "unexpected argument '" ++ operand ++ "' found"
  | .missingOperand => "required arguments were not provided"
  | .missingCommand => "a subcommand is required"

/-- The report of a member that is left out. -/
def skippedLine (dropped : Dropped) : String :=
  "Skipped " ++ dropped.name ++ ": " ++ dropped.reason.message

/-- The output after a package has been written to a folder. -/
def packageText (folder : String) (package : Package) : String :=
  let warnings := package.findings.warnings.length
  Code.joined (
    package.bindings.dropped.map skippedLine ++
      (if warnings > 0 then [toString warnings ++ " warning(s) reported"] else []) ++
      ["Done " ++ folder,
       "Do not forget to add 'mbed-js-" ++ package.library ++
         "' to your package.json dependencies"])

/-- The report of a finding. -/
def findingLine (finding : Diagnostic) : String :=
  let place :=
    match finding.line with
    | some line => " (line " ++ toString line ++ ")"
    | none => ""
  finding.severity.word ++ ": " ++ finding.message ++ place

/-- Whether a finding is reported at a log level. -/
def isReported (level : LogLevel) (finding : Diagnostic) : Bool :=
  match level with
  | .error => false
  | .warn | .info => finding.isWarning
  | .debug | .trace => true

/-! ## Answers -/

/-- The answer to arguments that were not read to the end. -/
def Stop.answer : Stop → Answer
  | .help => ⟨0, helpText, []⟩
  | .version => ⟨0, versionText, []⟩
  | .usage error => ⟨2, "", ["error: " ++ error.message]⟩

/-- The answer to a run that failed. -/
def failed (error : RunError) : Answer :=
  ⟨1, "", ["Error: " ++ error.message]⟩

/-- The answer to a run that wrote a package. -/
def written (level : LogLevel) (folder : String) (package : Package) : Answer :=
  ⟨0, packageText folder package,
    (package.findings.filter (isReported level)).map findingLine⟩

variable {m : Type → Type} [Monad m]

/-- The section of the config file that was named, or else of the default one if
it is there. -/
def configured (files : FileSystem m) (config : Option String) :
    m (Except RunError Section) := do
  match config with
  | some path => readConfig files path
  | none =>
      if ← files.isFile configFileName then readConfig files configFileName
      else return .ok {}

/-- Do what is asked for. -/
def fulfil (files : FileSystem m) (level : LogLevel) (millis : Nat) :
    Request → m Answer
  | .generate config given => do
      match ← configured files config with
      | .error error => return failed error
      | .ok base =>
          match (base.overlay given).options with
          | .error error => return failed (.settings error)
          | .ok options =>
              match ← options.run files millis with
              | .error error => return failed error
              | .ok (folder, package) => return written level folder package
  | .dump symbols className depth => do
      match ← viewClass files symbols className depth with
      | .error error => return failed error
      | .ok view => return ⟨0, view.sortKeys.pretty ++ "\n", []⟩

/-- Answer a command line, given without the name of the program, at a time. -/
def answer (files : FileSystem m) (millis : Nat) (arguments : List String) : m Answer :=
  match parse arguments with
  | .error stop => return stop.answer
  | .ok line => fulfil files line.logLevel millis line.request

end Bindery.CommandLine
