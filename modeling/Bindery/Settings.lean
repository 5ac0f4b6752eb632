import Bindery.Text.Blank
import Bindery.Text.LowerCase

/-!
# Settings of a run

A run needs a symbols file and a class; the other settings have defaults.  A
*section* holds what one source of settings says and leaves the rest open, so
that sections can be laid over each other.  *Options* are complete; they are
checked before anything is read.
-/

namespace Bindery

/-! ## Sections -/

/-- The settings that one source gives. -/
structure Section where
  symbols : Option String := none
  className : Option String := none
  scriptName : Option String := none
  library : Option String := none
  output : Option String := none
  deriving DecidableEq, Repr

/-- The settings of both sections, where those of the second win. -/
def Section.overlay (base overrides : Section) : Section where
  symbols := overrides.symbols.or base.symbols
  className := overrides.className.or base.className
  scriptName := overrides.scriptName.or base.scriptName
  library := overrides.library.or base.library
  output := overrides.output.or base.output

/-! ## Options -/

/-- The complete settings of a run. -/
structure Options where
  /-- The path of the symbols file. -/
  symbols : String
  /-- The class as the dump names it, with its template arguments. -/
  className : String
  scriptName? : Option String := none
  library? : Option String := none
  /-- The directory that receives the package. -/
  output : String := "output"
  deriving DecidableEq, Repr

/-- What is wrong with settings. -/
inductive SettingsError where
  | noSymbols
  | noClass
  | emptyClass
  /-- A template instance has no name of its own for scripts. -/
  | genericClass (name : String)
  | invalidScriptName (name : String)
  | invalidLibrary (name : String)
  deriving DecidableEq, Repr

/-- The options that a section amounts to. -/
def Section.options (given : Section) : Except SettingsError Options :=
  match given.symbols, given.className with
  | none, _ => .error .noSymbols
  | some _, none => .error .noClass
  | some symbols, some className =>
      .ok {
        symbols
        className
        scriptName? := given.scriptName
        library? := given.library
        output := given.output.getD "output"
      }

/-- Whether a character may begin an identifier. -/
def isIdentifierStart (c : Char) : Bool :=
  c.isAlpha || c = '_'

/-- Whether a character may stand in an identifier. -/
def isIdentifierPart (c : Char) : Bool :=
  c.isAlphanum || c = '_'

/-- Whether a name is an identifier of ASCII letters, digits and underscores. -/
def isIdentifier (name : String) : Bool :=
  match name.toList with
  | [] => false
  | first :: rest => isIdentifierStart first && rest.all isIdentifierPart

namespace Options

/-- The class name for scripts, by default the one of the dump. -/
def scriptName (options : Options) : String :=
  options.scriptName?.getD options.className

/-- The library name, by default the class name for scripts in lower case. -/
def library (options : Options) : String :=
  match options.library? with
  | some name => name
  | none => Text.lowercase options.scriptName

/-- Whether a name can be part of a file name. -/
def isLibraryName (name : String) : Bool :=
  !name.isEmpty && name.toList.all fun c => c != '/' && c != '\\'

/-- The first thing that is wrong with the options, if anything is. -/
def problem? (options : Options) : Option SettingsError :=
  if (Text.trim options.className.toList).isEmpty then some .emptyClass
  else if options.className.toList.contains '<' && options.scriptName?.isNone then
    some (.genericClass options.className)
  else if !isIdentifier options.scriptName then
    some (.invalidScriptName options.scriptName)
  else if !isLibraryName options.library then some (.invalidLibrary options.library)
  else none

end Options

end Bindery
