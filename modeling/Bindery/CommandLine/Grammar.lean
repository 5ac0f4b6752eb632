import Bindery.LogLevel
import Bindery.OrderedMap
import Bindery.Settings
import Bindery.Text.Numeral

/-!
# The command line

The arguments name a command, after flags that hold for every command:

```
mbedwrap [-v] [--log-level LEVEL] generate [SYMBOLS] [CLASS] [flags]
mbedwrap [-v] [--log-level LEVEL] dump SYMBOLS CLASS [--depth N]
```

Arguments are read from left to right.  A flag may be given once in each
part of the line; its value is the next argument or follows an equals sign, or,
after a single letter, follows directly.  A value that begins with a hyphen must
be attached, unless it is the hyphen alone.  Two hyphens end the flags.

Asking for help or for the version ends the reading there, with what stands
before it already checked.
-/

namespace Bindery.CommandLine

/-! ## Flags -/

/-- The flags of all commands. -/
inductive Flag where
  | verbose
  | help
  | version
  | logLevel
  | scriptName
  | library
  | output
  | config
  | depth
  deriving DecidableEq, Repr

namespace Flag

/-- The name of a flag after two hyphens. -/
def long : Flag → String
  | .verbose => "verbose"
  | .help => "help"
  | .version => "version"
  | .logLevel => "log-level"
  | .scriptName => "js-class-name"
  | .library => "library-name"
  | .output => "output"
  | .config => "config"
  | .depth => "depth"

/-- The letter of a flag after one hyphen. -/
def short? : Flag → Option Char
  | .verbose => some 'v'
  | .help => some 'h'
  | .version => some 'V'
  | .output => some 'o'
  | .config => some 'c'
  | .logLevel | .scriptName | .library | .depth => none

/-- Whether a flag has a value. -/
def takesValue : Flag → Bool
  | .verbose | .help | .version => false
  | .logLevel | .scriptName | .library | .output | .config | .depth => true

/-- Whether a text can be the value of a flag.  Paths must not be empty. -/
def accepts (flag : Flag) (value : String) : Bool :=
  match flag with
  | .logLevel => (LogLevel.ofName? value).isSome
  | .depth => (Text.count64? value.toList).isSome
  | .output | .config => !value.isEmpty
  | _ => true

end Flag

/-! ## Parts of the line -/

/-- The parts of a line: what stands before the command, and the commands. -/
inductive Part where
  | front
  | generate
  | dump
  deriving DecidableEq, Repr

namespace Part

/-- The flags that a part may hold. -/
def flags : Part → List Flag
  | .front => [.verbose, .logLevel, .help, .version]
  | .generate =>
      [.verbose, .logLevel, .help, .scriptName, .library, .output, .config]
  | .dump => [.verbose, .logLevel, .help, .depth]

/-- The command of a name. -/
def command? : String → Option Part
  | "generate" => some .generate
  | "dump" => some .dump
  | _ => none

/-- Whether a text can be the next operand of a part that already holds some.
The first operand is a path and must not be empty; there are two at most. -/
def acceptsOperand (part : Part) (held : Nat) (operand : String) : Bool :=
  match part, held with
  | .front, _ => false
  | _, 0 => !operand.isEmpty
  | _, 1 => true
  | _, _ => false

/-- The number of operands that a part must hold. -/
def requiredOperands : Part → Nat
  | .dump => 2
  | .front | .generate => 0

end Part

/-! ## Reading a part -/

/-- Why arguments are refused. -/
inductive UsageError where
  | unknownFlag (argument : String)
  | repeatedFlag (flag : Flag)
  | missingValue (flag : Flag)
  | unexpectedValue (flag : Flag)
  | invalidValue (flag : Flag) (value : String)
  | unexpectedOperand (operand : String)
  | missingOperand
  | missingCommand
  deriving DecidableEq, Repr

/-- What ends the reading before the last argument. -/
inductive Stop where
  | usage (error : UsageError)
  | help
  | version
  deriving DecidableEq, Repr

/-- What a part of the line holds. -/
structure Arguments where
  /-- The flags given, with their values; a flag without a value has none. -/
  flags : OrderedMap Flag String := {}
  operands : List String := []
  deriving DecidableEq, Repr

namespace Arguments

/-- The value of a flag. -/
def value? (arguments : Arguments) (flag : Flag) : Option String :=
  arguments.flags.get? flag

/-- Add a flag with its value. -/
def give (arguments : Arguments) (flag : Flag) (value : String) : Except Stop Arguments :=
  if !flag.accepts value then .error (.usage (.invalidValue flag value))
  else if arguments.flags.contains flag then .error (.usage (.repeatedFlag flag))
  else .ok { arguments with flags := arguments.flags.insert flag value }

/-- Add a flag that has no value.  Asking for help or for the version ends the
reading instead. -/
def switch (arguments : Arguments) : Flag → Except Stop Arguments
  | .help => .error .help
  | .version => .error .version
  | flag => arguments.give flag ""

/-- Add an operand. -/
def operand (arguments : Arguments) (part : Part) (text : String) : Except Stop Arguments :=
  if part.acceptsOperand arguments.operands.length text then
    .ok { arguments with operands := arguments.operands ++ [text] }
  else .error (.usage (.unexpectedOperand text))

end Arguments

/-- Whether an argument cannot be the value of the flag before it. -/
def looksLikeFlag (argument : String) : Bool :=
  argument.toList.head? = some '-' && argument != "-"

/-- A flag that still waits for its value, after some arguments. -/
abbrev Pending := Arguments × Option Flag

/-- Read the letters after one hyphen. -/
def letters (part : Part) (argument : String) (arguments : Arguments) :
    List Char → Except Stop Pending
  | [] => .ok (arguments, none)
  | letter :: rest =>
      match part.flags.find? fun flag => flag.short? = some letter with
      | none => .error (.usage (.unknownFlag argument))
      | some flag =>
          if flag.takesValue then
            match rest with
            | [] => .ok (arguments, some flag)
            | '=' :: value => do return (← arguments.give flag (String.ofList value), none)
            | value => do return (← arguments.give flag (String.ofList value), none)
          else do
            letters part argument (← arguments.switch flag) rest

/-- Read the characters after two hyphens. -/
def longFlag (part : Part) (argument : String) (arguments : Arguments)
    (chars : List Char) : Except Stop Pending :=
  let name := String.ofList (chars.takeWhile fun c => c != '=')
  match part.flags.find? fun flag => flag.long = name, chars.dropWhile fun c => c != '=' with
  | none, _ => .error (.usage (.unknownFlag argument))
  | some flag, [] =>
      if flag.takesValue then .ok (arguments, some flag)
      else do return (← arguments.switch flag, none)
  | some flag, _ :: value =>
      if flag.takesValue then do
        return (← arguments.give flag (String.ofList value), none)
      else .error (.usage (.unexpectedValue flag))

/-- Read one argument that is no value of a flag. -/
def argument (part : Part) (arguments : Arguments) (text : String) : Except Stop Pending :=
  match text.toList with
  | '-' :: '-' :: chars => longFlag part text arguments chars
  | '-' :: letter :: chars => letters part text arguments (letter :: chars)
  | _ => do return (← arguments.operand part text, none)

/-- Add operands after the flags have ended. -/
def operandsOnly (part : Part) (arguments : Arguments) : List String → Except Stop Arguments
  | [] => .ok arguments
  | text :: rest => do operandsOnly part (← arguments.operand part text) rest

/-- Read the arguments of a command to the end, with a flag that may wait for its
value. -/
def commandArguments (part : Part) : Pending → List String → Except Stop Arguments
  | (arguments, none), [] =>
      if arguments.operands.length < part.requiredOperands then
        .error (.usage .missingOperand)
      else .ok arguments
  | (_, some flag), [] => .error (.usage (.missingValue flag))
  | (arguments, some flag), text :: rest =>
      if looksLikeFlag text then .error (.usage (.missingValue flag))
      else do
        let next ← arguments.give flag text
        commandArguments part (next, none) rest
  | (arguments, none), text :: rest =>
      if text = "--" then do
        let last ← operandsOnly part arguments rest
        if last.operands.length < part.requiredOperands then
          .error (.usage .missingOperand)
        else return last
      else do
        commandArguments part (← argument part arguments text) rest

/-- A command line taken apart. -/
structure Line where
  front : Arguments
  command : Part
  arguments : Arguments
  deriving DecidableEq, Repr

/-- Read the names after the command `help`: at most one command, and none below
it. -/
def helpTopic : List String → Stop
  | [] => .help
  | ["help"] => .help
  | [name] =>
      if (Part.command? name).isSome then .help else .usage (.unexpectedOperand name)
  | name :: _ => .usage (.unexpectedOperand name)

/-- Read a line from its front, with a flag that may wait for its value. -/
def lineFrom : Pending → List String → Except Stop Line
  | (_, none), [] => .error (.usage .missingCommand)
  | (_, some flag), [] => .error (.usage (.missingValue flag))
  | (front, some flag), text :: rest =>
      if looksLikeFlag text then .error (.usage (.missingValue flag))
      else do
        let next ← front.give flag text
        lineFrom (next, none) rest
  | (front, none), text :: rest =>
      if text = "help" then .error (helpTopic rest)
      else
        match Part.command? text with
        | some command => do
            return { front, command, arguments := ← commandArguments command ({}, none) rest }
        | none =>
            if text = "--" then
              match rest with
              | [] => .error (.usage .missingCommand)
              | operand :: _ => .error (.usage (.unexpectedOperand operand))
            else do
              lineFrom (← argument .front front text) rest

/-! ## Requests -/

/-- What the command line asks for. -/
inductive Request where
  /-- Make a package, with the settings of the line over those of a config
  file. -/
  | generate (config : Option String) (given : Section)
  /-- Show a class. -/
  | dump (symbols className : String) (depth : Nat)
  deriving DecidableEq, Repr

namespace Line

/-- The depth to which types are shown when the line does not say. -/
def defaultDepth : Nat :=
  2

/-- What a line asks for. -/
def request (line : Line) : Request :=
  let arguments := line.arguments
  match line.command with
  | .dump =>
      .dump (arguments.operands[0]?.getD "") (arguments.operands[1]?.getD "")
        (((arguments.value? .depth).bind fun text => Text.count64? text.toList).getD
          defaultDepth)
  | _ =>
      .generate (arguments.value? .config) {
        symbols := arguments.operands[0]?
        className := arguments.operands[1]?
        scriptName := arguments.value? .scriptName
        library := arguments.value? .library
        output := arguments.value? .output
      }

/-- The log level that a line asks for.  A named level wins over `--verbose`,
and a flag of the command over one in front. -/
def logLevel (line : Line) : LogLevel :=
  let named := (line.arguments.value? .logLevel).or (line.front.value? .logLevel)
  let verbose := (line.arguments.value? .verbose).or (line.front.value? .verbose)
  match named.bind LogLevel.ofName? with
  | some level => level
  | none => if verbose.isSome then .debug else .warn

end Line

/-- Read a command line, given without the name of the program. -/
def parse (arguments : List String) : Except Stop Line :=
  lineFrom ({}, none) arguments

end Bindery.CommandLine
