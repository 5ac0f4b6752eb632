import Bindery.Proofs.PackagePaths
import Bindery.Proofs.SourcePieces

/-!
# Agreement of the files of a package

The files of a package name each other and each other's routines.  What one file
includes, calls, declares or lists is what another file is or defines.

The names are read back from the lines of the files.  The name of the library is
free text that stands in paths; where it holds a line feed, parts of it may look
like any other line.  Then the lines that are meant still stand there, only not
alone.
-/

namespace Bindery

/-! ## Forms of lines in a package -/

namespace LineForm

def inclusion : LineForm := ⟨"#include \"", "\""⟩

def constructorDeclared : LineForm := ⟨"DECLARE_CLASS_CONSTRUCTOR(", ");"⟩

def constructorRegistered : LineForm := ⟨"    REGISTER_CLASS_CONSTRUCTOR(", ");"⟩

def constructorDefined : LineForm := ⟨"DECLARE_CLASS_CONSTRUCTOR(", ") \x7b"⟩

def setupDeclared : LineForm := ⟨"void mbed_js_", "_setup();"⟩

def setupCalled : LineForm := ⟨"    mbed_js_", "_setup();"⟩

def setupDefined : LineForm := ⟨"void mbed_js_", "_setup() \x7b"⟩

def wrapDeclared : LineForm := ⟨"jerry_value_t mbed_js_wrap_native_object(", "* ptr);"⟩

def wrapDefined : LineForm := ⟨"jerry_value_t mbed_js_wrap_native_object(", "* ptr) \x7b"⟩

end LineForm

open LineForm

/-! ## What files say -/

namespace PackageFile

/-- A name stands in a file in a line of a form.  Where nothing can be taken for
another line, it is the only name in such lines. -/
structure Spells (file : PackageFile) (form : LineForm) (name : String) (plain : Prop) : Prop where
  stands : StandsIn (form.line name) file.contents
  only : plain → form.names file.contents = [name]

/-- A file includes a header under its path.  Where nothing can be taken for
another line, no other path in the file ends in the name of the header. -/
structure Includes (file header : PackageFile) (plain : Prop) : Prop where
  stands : StandsIn (inclusion.line header.pathText) file.contents
  only : plain → ∀ name ∈ header.path.getLast?,
    (inclusion.names file.contents).filter (fun path => name.toList.isSuffixOf path.toList) =
      [header.pathText]

end PackageFile

/-- The values under a key of an object. -/
def Json.valuesOf (key : String) : Json → List Json
  | .object members => (members.filter fun member => member.1 = key).map Prod.snd
  | _ => []

/-- A file holds one descriptor, which has one value under a key. -/
def PackageFile.Says (file : PackageFile) (key : String) (value : Json) : Prop :=
  ∃ descriptor : Json,
    (∀ other, file.contents = PackageNames.descriptorText other ↔ other = descriptor) ∧
      descriptor.valuesOf key = [value]

/-- The files of a package agree on paths, on routines and on the native type. -/
structure FilesAgree (script native : String) (plain : Prop)
    (classHeader libraryHeader source build manifest : PackageFile) : Prop where
  /-- The package has the name of the directory of both headers. -/
  directory : ∃ directory classFile libraryFile,
    classHeader.path = [directory, classFile] ∧ libraryHeader.path = [directory, libraryFile] ∧
      manifest.Says "name" (.string directory)
  /-- The build includes the registration header and nothing else. -/
  build : build.Says "includes" (.array [.string libraryHeader.pathText])
  inclusions : libraryHeader.Includes classHeader plain ∧ source.Includes classHeader plain
  setup : libraryHeader.Spells setupDeclared script plain ∧
    libraryHeader.Spells setupCalled script plain ∧ source.Spells setupDefined script plain
  constructor : classHeader.Spells constructorDeclared script True ∧
    libraryHeader.Spells constructorRegistered script plain ∧
    source.Spells constructorDefined script plain
  wrapping : classHeader.Spells wrapDeclared native True ∧ source.Spells wrapDefined native plain

/-! ## Descriptors -/

theorem says_descriptorText {path : List String} {descriptor : Json} {key : String} {value : Json}
    (held : descriptor.valuesOf key = [value]) :
    PackageFile.Says ⟨path, PackageNames.descriptorText descriptor⟩ key value := by
  refine ⟨descriptor, fun other => ⟨fun same => ?_, fun same => same ▸ rfl⟩, held⟩
  have texts : descriptor.pretty = other.pretty := (String.append_left_inj _).mp same
  exact (Json.pretty_injective texts).symm

/-! ## Include guards -/

/-- Only ASCII characters are kept in an include guard. -/
theorem toNat_lt_of_guardChar {c : Char} (kept : guardChar c ≠ '_') : c.toNat < 0x80 := by
  rw [guardChar] at kept
  split at kept
  · rename_i alphanumeric
    apply toNat_lt_of_isIdentifierPart
    rw [isIdentifierPart, alphanumeric, Bool.true_or]
  · contradiction

theorem feed_ne_guardChar (c : Char) : guardChar c ≠ '\n' := by
  by_cases replaced : guardChar c = '_'
  · rw [replaced]
    decide
  · exact of_forall_ascii (P := fun c => guardChar c ≠ '\n') (by decide)
      (toNat_lt_of_guardChar replaced)

theorem oneLine_append_guard {lead : String} (unbroken : Unbroken lead) (parts : List String) :
    Text.OneLine (lead ++ includeGuard parts) := by
  have guarded : Unbroken
      (String.ofList (("_".intercalate parts).toList.map guardChar)) := by
    rw [Unbroken, String.toList_ofList, List.mem_map]
    rintro ⟨c, _, same⟩
    exact feed_ne_guardChar c same
  unfold includeGuard
  rw [← String.append_assoc]
  apply Text.OneLine.closed _ rfl
  simp only [unbroken_append, unbroken, guarded, and_true, true_and]
  exact unbroken_literal rfl

/-! ## Headers -/

namespace PackageNames

variable {names : PackageNames} {text : String}

/-- The lines of the class header. -/
def classHeaderLines (names : PackageNames) : List String :=
  [banner, "", "#ifndef " ++ names.classGuard, "#define " ++ names.classGuard, "",
    includeLine wrapToolsHeader,
    "",
    "// Include the header that declares " ++ names.nativeClass ++ " before this point.",
    "",
    "DECLARE_CLASS_CONSTRUCTOR(" ++ names.scriptClass ++ ");",
    "jerry_value_t " ++ wrapRoutine ++ "(" ++ names.nativeClass ++ "* ptr);",
    "", "#endif // " ++ names.classGuard]

theorem classHeaderText_eq (names : PackageNames) :
    names.classHeaderText = Code.joined names.classHeaderLines :=
  rfl

theorem oneLine_of_mem_classHeaderLines (script : Unbroken names.scriptClass)
    (native : Unbroken names.nativeClass) (member : text ∈ names.classHeaderLines) :
    Text.OneLine text := by
  have guarded : ∀ lead, Unbroken lead → Text.OneLine (lead ++ names.classGuard) :=
    fun _ unbroken => oneLine_append_guard unbroken _
  have wrap : Text.OneLine ("jerry_value_t " ++ wrapRoutine ++ "(" ++ names.nativeClass ++
      "* ptr);") := by
    unfold wrapRoutine
    apply Text.OneLine.closed _ rfl
    simp only [unbroken_append, native, and_true]
    and_intros <;> exact unbroken_literal rfl
  have all : ∀ line ∈ names.classHeaderLines, Text.OneLine line := by
    simp only [classHeaderLines, List.forall_mem_cons]
    exact ⟨.literal rfl, .blank, guarded _ (unbroken_literal rfl), guarded _ (unbroken_literal rfl),
      .blank, oneLine_includeLine (unbroken_literal rfl), .blank, .around native rfl rfl, .blank,
      .around script rfl rfl, wrap, .blank, guarded _ (unbroken_literal rfl),
      List.forall_mem_nil _⟩
  exact all text member

/-- The lines of the registration header. -/
def libraryHeaderLines (names : PackageNames) : List String :=
  [banner, "", "#ifndef " ++ names.libraryGuard, "#define " ++ names.libraryGuard, "",
    includeLine names.classInclude,
    includeLine wrapToolsHeader,
    "",
    "void " ++ EnumRegistry.setupName names.scriptClass ++ ";",
    "",
    "DECLARE_JS_WRAPPER_REGISTRATION (" ++ names.library ++ ")",
    "\x7b",
    "    REGISTER_CLASS_CONSTRUCTOR(" ++ names.scriptClass ++ ");",
    "    " ++ EnumRegistry.setupName names.scriptClass ++ ";",
    "\x7d",
    "", "#endif // " ++ names.libraryGuard]

theorem libraryHeaderText_eq (names : PackageNames) :
    names.libraryHeaderText = Code.joined names.libraryHeaderLines :=
  rfl

theorem oneLine_of_mem_libraryHeaderLines (library : Unbroken names.library)
    (included : Unbroken names.classInclude) (script : Unbroken names.scriptClass)
    (member : text ∈ names.libraryHeaderLines) : Text.OneLine text := by
  have guarded : ∀ lead, Unbroken lead → Text.OneLine (lead ++ names.libraryGuard) :=
    fun _ unbroken => oneLine_append_guard unbroken _
  have setup : Unbroken (EnumRegistry.setupName names.scriptClass) := by
    unfold EnumRegistry.setupName
    exact (Text.OneLine.around script rfl rfl).noFeed
  have all : ∀ line ∈ names.libraryHeaderLines, Text.OneLine line := by
    simp only [libraryHeaderLines, List.forall_mem_cons]
    exact ⟨.literal rfl, .blank, guarded _ (unbroken_literal rfl), guarded _ (unbroken_literal rfl),
      .blank, oneLine_includeLine included, oneLine_includeLine (unbroken_literal rfl), .blank,
      .around setup rfl rfl, .blank, .around library rfl rfl, .literal rfl,
      .around script rfl rfl, .around setup rfl rfl, .literal rfl, .blank,
      guarded _ (unbroken_literal rfl), List.forall_mem_nil _⟩
  exact all text member

/-! ## The source -/

/-- A form that no line of a method has.  All its lines are indented or begin with
one of a few texts. -/
def OutsideMethods (form : LineForm) : Prop :=
  ∀ start ∈ [" ", "/", "\x7d", "DECLARE_CLASS_FUNCTION("],
    ¬ form.lead.toList <+: start.toList ∧ ¬ start.toList <+: form.lead.toList

instance : DecidablePred OutsideMethods := fun form =>
  inferInstanceAs (Decidable (∀ start ∈ [" ", "/", "\x7d", "DECLARE_CLASS_FUNCTION("],
    ¬ form.lead.toList <+: start.toList ∧ ¬ start.toList <+: form.lead.toList))

theorem OutsideMethods.atMargin {form : LineForm} (outside : OutsideMethods form) :
    form.AtMargin := by
  obtain ⟨notShorter, notLonger⟩ := outside " " List.mem_cons_self
  cases begins : form.lead.toList with
  | nil => exact absurd (begins ▸ List.nil_prefix) notShorter
  | cons first rest =>
      refine ⟨first, by rw [begins]; rfl, ?_⟩
      rintro rfl
      exact notLonger (begins ▸ ⟨rest, rfl⟩)

theorem OutsideMethods.marginNames {form : LineForm} (outside : OutsideMethods form)
    (names : ClassNames) (name : String) (overloads : OverloadSet) :
    form.marginNames (names.entryPieces .method name overloads) = [] := by
  have margin : (names.entryPieces .method name overloads).flatMap Code.margin =
      ["/**", " * " ++ names.script ++ "#" ++ name ++ " (native JavaScript method)", " */",
        "DECLARE_CLASS_FUNCTION(" ++ names.script ++ ", " ++ name ++ ") \x7b", "\x7d"] := rfl
  have starts : ∀ line ∈ (names.entryPieces .method name overloads).flatMap Code.margin,
      ∃ start ∈ [" ", "/", "\x7d", "DECLARE_CLASS_FUNCTION("],
        start.toList <+: line.toList := by
    rw [margin]
    simp
  rw [LineForm.marginNames, List.filterMap_eq_nil_iff]
  intro line member
  obtain ⟨start, isStart, begins⟩ := starts line member
  obtain ⟨notShorter, notLonger⟩ := outside start isStart
  apply read?_eq_none
  intro leads
  exact (List.prefix_or_prefix_of_prefix leads begins).elim notShorter notLonger

/-- The lines of the source at the margin, apart from the methods and from blank
lines between the parts.  Only the comment above the constructor depends on
whether scripts can construct the class. -/
def sourceMargin (names : PackageNames) (type note : String) : List String :=
  names.sourceTop ++
    (["/**", " * " ++ names.scriptClass ++ "#destructor", " *",
      " * Called if/when the " ++ names.scriptClass ++ " is GC'ed.", " */",
      "void NAME_FOR_CLASS_NATIVE_DESTRUCTOR(" ++ names.scriptClass ++
        ")(const uintptr_t native_handle) \x7b", "\x7d", "", "/**",
      " * Wrap a native " ++ names.scriptClass ++ " in a JavaScript object.", " */",
      "jerry_value_t " ++ wrapRoutine ++ "(" ++ type ++ "* ptr) \x7b", "\x7d"] ++
    (["/**", " * " ++ note, " */", "DECLARE_CLASS_CONSTRUCTOR(" ++ names.scriptClass ++ ") \x7b",
      "\x7d"] ++
    ["void " ++ EnumRegistry.setupName names.scriptClass ++ " \x7b", "\x7d"]))

theorem margin_constructorPieces (names : ClassNames) (overloads : OverloadSet) :
    ∃ note, (names.constructorPieces overloads).flatMap Code.margin =
      ["/**", " * " ++ note, " */", "DECLARE_CLASS_CONSTRUCTOR(" ++ names.script ++ ") \x7b",
        "\x7d"] := by
  unfold ClassNames.constructorPieces
  split
  · exact ⟨names.script ++ " (no constructor available from JavaScript)", rfl⟩
  · exact ⟨names.script ++ " (native JavaScript constructor)", rfl⟩

/-- What the source holds in lines of a form that no method has. -/
theorem marginNames_sourcePieces (names : PackageNames) {form : LineForm}
    (outside : OutsideMethods form) (tree : SymbolTree) (owner : NodeId)
    (registry : EnumRegistry) {found : List String}
    (read : ∀ note,
      (names.sourceMargin (tree.classNames owner names.scriptClass).native note).filterMap
        form.read? = found) :
    form.marginNames (names.sourcePieces (tree.sourceBlocks owner names.scriptClass) registry) =
      found := by
  have none : ∀ groups : List (String × OverloadSet),
      (groups.map fun group => (tree.classNames owner names.scriptClass).entryPieces .method group.1
        (OverloadSet.sorted group.2)).flatMap form.marginNames = [] := by
    intro groups
    rw [List.flatMap_map, List.flatMap_eq_nil_iff]
    exact fun group _ => outside.marginNames _ group.1 _
  obtain ⟨note, constructor⟩ := margin_constructorPieces (tree.classNames owner names.scriptClass)
    (OverloadSet.sorted (tree.draft owner names.scriptClass).constructors)
  have ending := congrArg (List.filterMap form.read?) constructor
  rw [← LineForm.marginNames] at ending
  rw [← read note, sourcePieces, marginNames_append, marginNames_append, marginNames_map_line,
    outside.atMargin.marginNames_flatMap, SymbolTree.sourceBlocks, List.flatMap_append, none,
    List.nil_append, List.flatMap_cons, List.flatMap_singleton, List.append_assoc,
    ending, sourceMargin,
    List.filterMap_append, List.filterMap_append, List.filterMap_append]
  rfl

/-! ## The names in the files -/

/-- What the class header declares. -/
theorem read_classHeaderLines (names : PackageNames) :
    names.classHeaderLines.filterMap constructorDeclared.read? = [names.scriptClass] ∧
      names.classHeaderLines.filterMap wrapDeclared.read? = [names.nativeClass] := by
  constructor
  · simp [classHeaderLines, banner, includeLine, wrapRoutine, constructorDeclared, read?,
      Text.after?]
  · simp [classHeaderLines, banner, includeLine, wrapRoutine, wrapDeclared, read?, Text.after?]

/-- What the registration header includes, declares, registers and calls. -/
structure ReadsLibraryHeader (names : PackageNames) : Prop where
  inclusions : names.libraryHeaderLines.filterMap inclusion.read? =
    [names.classInclude, wrapToolsHeader]
  setupDeclared : names.libraryHeaderLines.filterMap setupDeclared.read? = [names.scriptClass]
  registered : names.libraryHeaderLines.filterMap constructorRegistered.read? =
    [names.scriptClass]
  setupCalled : names.libraryHeaderLines.filterMap setupCalled.read? = [names.scriptClass]

theorem reads_libraryHeaderLines (names : PackageNames) : names.ReadsLibraryHeader where
  inclusions := by
    simp [libraryHeaderLines, banner, includeLine, EnumRegistry.setupName, inclusion, read?,
      Text.after?]
  setupDeclared := by
    simp [libraryHeaderLines, banner, includeLine, EnumRegistry.setupName, setupDeclared, read?,
      Text.after?]
  registered := by
    simp [libraryHeaderLines, banner, includeLine, EnumRegistry.setupName, constructorRegistered,
      read?, Text.after?]
  setupCalled := by
    simp [libraryHeaderLines, banner, includeLine, EnumRegistry.setupName, setupCalled, read?,
      Text.after?]

/-- What some pieces include and define at the margin. -/
structure ReadsSource (names : PackageNames) (type : String) (pieces : List Code) : Prop where
  inclusions : inclusion.marginNames pieces =
    ["jerryscript-mbed-util/logging.h", wrapToolsHeader, names.classInclude]
  wrap : wrapDefined.marginNames pieces = [type]
  constructor : constructorDefined.marginNames pieces = [names.scriptClass]
  setup : setupDefined.marginNames pieces = [names.scriptClass]

theorem reads_sourcePieces (names : PackageNames) (tree : SymbolTree) (owner : NodeId)
    (registry : EnumRegistry) :
    names.ReadsSource (tree.classNames owner names.scriptClass).native
      (names.sourcePieces (tree.sourceBlocks owner names.scriptClass) registry) where
  inclusions := by
    apply names.marginNames_sourcePieces (by decide)
    intro note
    simp [sourceMargin, sourceTop, EnumRegistry.setupName, banner, includeLine, wrapRoutine,
      inclusion, read?, Text.after?]
  wrap := by
    apply names.marginNames_sourcePieces (by decide)
    intro note
    simp [sourceMargin, sourceTop, EnumRegistry.setupName, banner, includeLine, wrapRoutine,
      wrapDefined, read?, Text.after?]
  constructor := by
    apply names.marginNames_sourcePieces (by decide)
    intro note
    simp [sourceMargin, sourceTop, EnumRegistry.setupName, banner, includeLine, wrapRoutine,
      constructorDefined, read?, Text.after?]
  setup := by
    apply names.marginNames_sourcePieces (by decide)
    intro note
    simp [sourceMargin, sourceTop, EnumRegistry.setupName, banner, includeLine, wrapRoutine,
      setupDefined, read?, Text.after?]

/-! ## Paths -/

theorem pathText_pair (directory file contents : String) :
    PackageFile.pathText ⟨[directory, file], contents⟩ = directory ++ "/" ++ file := by
  rw [PackageFile.pathText, String.intercalate_cons_cons, String.intercalate_singleton]

/-- Only a path with the mark of the package can end in the name of the class
header. -/
theorem not_suffix_of_foreign (names : PackageNames) {path : String}
    (foreign : Text.contains "mbed-js-".toList path.toList = false) :
    names.classHeader.toList.isSuffixOf path.toList = false := by
  rw [Bool.eq_false_iff, Ne, List.isSuffixOf_iff_suffix]
  intro suffix
  have marked : "mbed-js-".toList <:+: names.classHeader.toList := by
    rw [classHeader, String.append_assoc, String.toList_append]
    exact (List.prefix_append _ _).isInfix
  rw [Text.contains_iff_isInfix.mpr (marked.trans suffix.isInfix)] at foreign
  cases foreign

/-- Of the paths in a file the one of the class header is told by its end. -/
theorem filter_classHeader (names : PackageNames) {before after : List String}
    (foreign : ∀ path ∈ before ++ after, Text.contains "mbed-js-".toList path.toList = false) :
    (before ++ names.classInclude :: after).filter
        (fun path => names.classHeader.toList.isSuffixOf path.toList) = [names.classInclude] := by
  have none : ∀ paths : List String, paths ⊆ before ++ after →
      paths.filter (fun path => names.classHeader.toList.isSuffixOf path.toList) = [] := by
    intro paths within
    rw [List.filter_eq_nil_iff]
    intro path member
    rw [names.not_suffix_of_foreign (foreign path (within member))]
    exact Bool.false_ne_true
  have own : names.classHeader.toList.isSuffixOf names.classInclude.toList = true := by
    rw [List.isSuffixOf_iff_suffix, classInclude, String.toList_append]
    exact List.suffix_append _ _
  rw [List.filter_append, List.filter_cons, own, if_pos rfl,
    none before (List.subset_append_left _ _), none after (List.subset_append_right _ _),
    List.nil_append]

end PackageNames

/-! ## Agreement -/

namespace PackageFile

theorem spells_joined {path lines : List String} {form : LineForm} {name : String} {plain : Prop}
    (single : plain → ∀ line ∈ lines, Text.OneLine line)
    (read : lines.filterMap form.read? = [name]) :
    Spells ⟨path, Code.joined lines⟩ form name plain where
  stands := LineForm.standsIn_joined (read ▸ List.mem_singleton_self name)
  only := fun isPlain => (names_joined (single isPlain)).trans read

theorem spells_render {path : List String} {pieces : List Code} {form : LineForm} {name : String}
    {plain : Prop} (atMargin : form.AtMargin)
    (single : plain → ∀ text ∈ Code.allTexts pieces, Text.OneLine text)
    (read : form.marginNames pieces = [name]) :
    Spells ⟨path, Code.render pieces⟩ form name plain where
  stands := LineForm.standsIn_render (read ▸ List.mem_singleton_self name)
  only := fun isPlain => (atMargin.names_render (single isPlain)).trans read

/-- A file includes the class header once it holds its path among foreign ones. -/
theorem includes_classHeader {names : PackageNames} {file : PackageFile} {contents : String}
    {plain : Prop} (before after : List String)
    (foreign : ∀ path ∈ before ++ after, Text.contains "mbed-js-".toList path.toList = false)
    (stands : StandsIn (inclusion.line names.classInclude) file.contents)
    (read : plain → inclusion.names file.contents = before ++ names.classInclude :: after) :
    file.Includes ⟨[names.package, names.classHeader], contents⟩ plain where
  stands := by rwa [PackageNames.pathText_pair]
  only := by
    intro isPlain name isLast
    obtain rfl : names.classHeader = name := Option.some.inj isLast
    rw [read isPlain, names.filter_classHeader foreign, PackageNames.pathText_pair]
    rfl

end PackageFile

namespace PackageNames

variable {names : PackageNames} {tree : SymbolTree} {owner : NodeId}

/-- The files that are made of sound names agree. -/
theorem Valid.filesAgree (valid : names.Valid) (unbroken : tree.NamesUnbroken)
    (native : names.nativeClass = (tree.classNames owner names.scriptClass).native) :
    FilesAgree names.scriptClass names.nativeClass (Unbroken names.library)
      ⟨[names.package, names.classHeader], names.classHeaderText⟩
      ⟨[names.package, names.libraryHeader], names.libraryHeaderText⟩
      ⟨["source", names.sourceFile],
        names.sourceText (tree.bindings owner names.scriptClass).1⟩
      ⟨["mbedjs.json"], descriptorText names.buildDescriptor⟩
      ⟨["package.json"], descriptorText names.packageDescriptor⟩ := by
  have script : Unbroken names.scriptClass := fun member =>
    absurd (isIdentifierPart_of_mem valid.identifier member) (by decide)
  have lowered : Unbroken (Text.lowercase names.scriptClass) := fun member =>
    absurd (isIdentifierPart_of_mem_lowercase valid.identifier member) (by decide)
  have nativeUnbroken : Unbroken names.nativeClass := native ▸ unbroken.native owner _
  have inClass : True → ∀ line ∈ names.classHeaderLines, Text.OneLine line :=
    fun _ _ => oneLine_of_mem_classHeaderLines script nativeUnbroken
  have inLibrary : Unbroken names.library → ∀ line ∈ names.libraryHeaderLines, Text.OneLine line :=
    fun library _ => oneLine_of_mem_libraryHeaderLines library
      (unbroken_classInclude library lowered) script
  have inSource : Unbroken names.library → ∀ text ∈ Code.allTexts
      (names.sourcePieces (tree.sourceBlocks owner names.scriptClass)
        (tree.bindings owner names.scriptClass).1.enums), Text.OneLine text :=
    fun library _ => oneLine_of_mem_sourcePieces unbroken (unbroken_classInclude library lowered)
      script
  have declared := names.read_classHeaderLines
  have library := names.reads_libraryHeaderLines
  have source := names.reads_sourcePieces tree owner (tree.bindings owner names.scriptClass).1.enums
  rw [← native] at source
  rw [classHeaderText_eq, libraryHeaderText_eq, sourceText_eq]
  constructor
  case directory => exact ⟨_, _, _, rfl, rfl, says_descriptorText rfl⟩
  case build =>
    apply says_descriptorText
    rw [pathText_pair]
    rfl
  case inclusions =>
    have inHeader := library.inclusions
    have inSourceFile := source.inclusions
    constructor
    · refine PackageFile.includes_classHeader [] [wrapToolsHeader] (by decide) ?_ ?_
      · apply LineForm.standsIn_joined
        rw [inHeader]
        exact List.mem_cons_self
      · exact fun library => (names_joined (inLibrary library)).trans inHeader
    · refine PackageFile.includes_classHeader
        ["jerryscript-mbed-util/logging.h", wrapToolsHeader] [] (by decide) ?_ ?_
      · apply LineForm.standsIn_render
        rw [inSourceFile]
        exact List.mem_cons_of_mem _ (List.mem_cons_of_mem _ List.mem_cons_self)
      · intro library
        have atMargin : inclusion.AtMargin := ⟨'#', by decide, by decide⟩
        rw [atMargin.names_render (inSource library), inSourceFile]
        rfl
  case setup =>
    exact ⟨PackageFile.spells_joined inLibrary library.setupDeclared,
      PackageFile.spells_joined inLibrary library.setupCalled,
      PackageFile.spells_render ⟨'v', by decide, by decide⟩ inSource source.setup⟩
  case constructor =>
    exact ⟨PackageFile.spells_joined inClass declared.1,
      PackageFile.spells_joined inLibrary library.registered,
      PackageFile.spells_render ⟨'D', by decide, by decide⟩ inSource source.constructor⟩
  case wrapping =>
    exact ⟨PackageFile.spells_joined inClass declared.2,
      PackageFile.spells_render ⟨'j', by decide, by decide⟩ inSource source.wrap⟩

end PackageNames

/-- The files of every package agree. -/
theorem Options.package_filesAgree {options : Options} {dump : String} {millis : Nat}
    {package : Package} (made : options.package dump millis = .ok package) :
    ∃ classHeader libraryHeader source build manifest,
      package.files = [classHeader, libraryHeader, source, build, manifest] ∧
        FilesAgree options.scriptName package.bindings.names.native (Unbroken options.library)
          classHeader libraryHeader source build manifest := by
  obtain ⟨sound, tree, findings, owner, parsed, -, rfl⟩ := exists_of_package made
  rw [files_packageOf, bindings_packageOf]
  have native : (tree.bindings owner options.scriptName).1.names.native =
    (tree.classNames owner options.scriptName).native := rfl
  have unbroken := SymbolTree.namesUnbroken_ofDump parsed
  have valid := valid_of_problem? sound (tree.classNames owner options.scriptName).native
  rw [native]
  exact ⟨_, _, _, _, _, rfl, valid.filesAgree unbroken rfl⟩

theorem Options.package_filesAgree_lamp :
    let options : Options := {
      symbols := "symbols.txt", className := "Lamp", scriptName? := some "LED",
      library? := some "Desk" }
    let dump := "<0><b>:Abbrev Number:1 (DW_TAG_class_type)\n  <10>DW_AT_name:Lamp\n"
    ∃ package, options.package dump 7 = .ok package ∧ Unbroken options.library ∧
      ∃ classHeader libraryHeader source build manifest,
        package.files = [classHeader, libraryHeader, source, build, manifest] ∧
          FilesAgree "LED" "Lamp" (Unbroken options.library)
            classHeader libraryHeader source build manifest := by
  intro options dump
  have succeeds : (options.package dump 7).toOption.map (fun package =>
      package.bindings.names.native) = some "Lamp" := by
    decide +kernel
  cases made : options.package dump 7 with
  | error reason =>
      rw [made] at succeeds
      cases succeeds
  | ok package =>
      rw [made] at succeeds
      have native : package.bindings.names.native = "Lamp" := Option.some.inj succeeds
      have agree := package_filesAgree made
      rw [native] at agree
      exact ⟨package, rfl, by decide, agree⟩

end Bindery
