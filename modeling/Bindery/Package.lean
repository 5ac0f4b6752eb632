import Bindery.ClassBindings
import Bindery.Json
import Bindery.RunError

/-!
# Packages

The bindings of a class as files: a header for the class, a header that
registers the library, the source, and two descriptors.  The names of the files
and the names inside them come from one place, so the files agree with each
other.
-/

namespace Bindery

/-! ## Names -/

/-- The names that the files of a package share. -/
structure PackageNames where
  library : String
  /-- The class as scripts call it. -/
  scriptClass : String
  /-- The class as native code calls it. -/
  nativeClass : String
  deriving DecidableEq, Repr

namespace PackageNames

/-- The name of the package, which is also that of the header directory. -/
def package (names : PackageNames) : String :=
  "mbed-js-" ++ names.library

/-- The header that declares the class. -/
def classHeader (names : PackageNames) : String :=
  "mbed-js-" ++ Text.lowercase names.scriptClass ++ ".h"

/-- The header that registers the library. -/
def libraryHeader (names : PackageNames) : String :=
  "mbed-js-" ++ names.library ++ "-lib.h"

/-- The source of the bindings. -/
def sourceFile (names : PackageNames) : String :=
  "mbed-js-" ++ Text.lowercase names.scriptClass ++ ".cpp"

end PackageNames

/-- A character as it stands in an include guard: ASCII letters as capitals,
digits as they are and an underscore for all else. -/
def guardChar (c : Char) : Char :=
  if c.isAlphanum then c.toUpper else '_'

/-- The include guard made of some names. -/
def includeGuard (parts : List String) : String :=
  "_JERRYSCRIPT_MBED_" ++
    String.ofList (("_".intercalate parts).toList.map guardChar) ++ "_H"

/-! ## Texts -/

/-- The first line of every generated file. -/
def banner : String :=
  "/* Generated by mbedwrap */"

/-- A line that includes a header. -/
def includeLine (path : String) : String :=
  "#include \"" ++ path ++ "\""

/-- The header of the registry that wrappers are registered in. -/
def wrapToolsHeader : String :=
  "jerryscript-mbed-library-registry/wrap_tools.h"

namespace PackageNames

/-- A header with its include guard. -/
def guardedHeader (guard : String) (lines : List String) : String :=
  Code.joined (
    [banner, "", "#ifndef " ++ guard, "#define " ++ guard, ""] ++ lines ++
      ["", "#endif // " ++ guard])

/-- The include guard of the class header. -/
def classGuard (names : PackageNames) : String :=
  includeGuard [names.library, names.scriptClass]

/-- The include guard of the registration header. -/
def libraryGuard (names : PackageNames) : String :=
  includeGuard ["lib", names.library]

/-- The path under which the class header is included. -/
def classInclude (names : PackageNames) : String :=
  names.package ++ "/" ++ names.classHeader

/-- The header that declares the constructor and the wrapping routine. -/
def classHeaderText (names : PackageNames) : String :=
  guardedHeader names.classGuard [
    includeLine wrapToolsHeader,
    "",
    "// Include the header that declares " ++ names.nativeClass ++ " before this point.",
    "",
    "DECLARE_CLASS_CONSTRUCTOR(" ++ names.scriptClass ++ ");",
    "jerry_value_t " ++ wrapRoutine ++ "(" ++ names.nativeClass ++ "* ptr);"]

/-- The header that registers the constructor and runs the setup routine. -/
def libraryHeaderText (names : PackageNames) : String :=
  let setup := EnumRegistry.setupName names.scriptClass
  guardedHeader names.libraryGuard [
    includeLine names.classInclude,
    includeLine wrapToolsHeader,
    "",
    "void " ++ setup ++ ";",
    "",
    "DECLARE_JS_WRAPPER_REGISTRATION (" ++ names.library ++ ")",
    "\x7b",
    "    REGISTER_CLASS_CONSTRUCTOR(" ++ names.scriptClass ++ ");",
    "    " ++ setup ++ ";",
    "\x7d"]

/-- The source with the generated bodies and the setup routine. -/
def sourceText (names : PackageNames) (bindings : ClassBindings) : String :=
  Code.joined [
    banner,
    "",
    includeLine "jerryscript-mbed-util/logging.h",
    includeLine wrapToolsHeader,
    includeLine names.classInclude,
    "",
    bindings.source,
    ""] ++ EnumRegistry.setupText bindings.enums names.scriptClass

/-- The descriptor that the build of the scripting system reads. -/
def buildDescriptor (names : PackageNames) : Json :=
  .object [
    ("source", .array [.string "."]),
    ("includes", .array [.string (names.package ++ "/" ++ names.libraryHeader)]),
    ("name", .string names.library)]

/-- The descriptor that the package manager reads. -/
def packageDescriptor (names : PackageNames) : Json :=
  .object [("name", .string names.package), ("version", .string "1.0.0")]

/-- A descriptor as a file. -/
def descriptorText (descriptor : Json) : String :=
  descriptor.pretty ++ "\n"

end PackageNames

/-! ## Files -/

/-- One file of a package. -/
structure PackageFile where
  /-- The directories below the package folder and the name of the file. -/
  path : List String
  contents : String
  deriving DecidableEq, Repr

/-- The path of a file as text. -/
def PackageFile.pathText (file : PackageFile) : String :=
  "/".intercalate file.path

/-- A package that is not written yet. -/
structure Package where
  /-- The name of the package folder. -/
  folder : String
  library : String
  files : List PackageFile
  bindings : ClassBindings
  findings : Diagnostics
  deriving DecidableEq, Repr

/-- The files of a package. -/
def PackageNames.files (names : PackageNames) (bindings : ClassBindings) :
    List PackageFile :=
  [⟨[names.package, names.classHeader], names.classHeaderText⟩,
   ⟨[names.package, names.libraryHeader], names.libraryHeaderText⟩,
   ⟨["source", names.sourceFile], names.sourceText bindings⟩,
   ⟨["mbedjs.json"], PackageNames.descriptorText names.buildDescriptor⟩,
   ⟨["package.json"], PackageNames.descriptorText names.packageDescriptor⟩]

/-- The folder of a library packaged at a time, which is counted in
milliseconds. -/
def packageFolder (library : String) (millis : Nat) : String :=
  "jerryscript-mbed-" ++ library ++ "-" ++ toString millis

/-- The package for a class of a tree. -/
def Options.packageOf (options : Options) (tree : SymbolTree) (owner : NodeId)
    (findings : Diagnostics) (millis : Nat) : Package :=
  let (bindings, found) := tree.bindings owner options.scriptName
  let names : PackageNames :=
    { library := options.library
      scriptClass := options.scriptName
      nativeClass := bindings.names.native }
  { folder := packageFolder options.library millis
    library := options.library
    files := names.files bindings
    bindings
    findings := findings ++ found }

/-- The package that options ask for, made of the text of a dump at a time.
Nothing is written. -/
def Options.package (options : Options) (dump : String) (millis : Nat) :
    Except RunError Package :=
  match options.problem? with
  | some error => .error (.settings error)
  | none =>
      match SymbolTree.ofDump dump with
      | (.error error, _) => .error (.badDump error)
      | (.ok tree, findings) =>
          match tree.findClass? options.className with
          | none => .error (.classNotFound options.className)
          | some owner => .ok (options.packageOf tree owner findings millis)

end Bindery
