import Bindery.Proofs.Numeral
import Bindery.Proofs.Paths

/-!
# Paths of a package

Options are checked before anything is made of them: the class name for scripts
is an identifier, and the library name has no slash.  So every part of a path in
a package names a file or a directory, and no file of a package lies below
another one.
-/

namespace Bindery

/-! ## Identifiers -/

theorem isIdentifierPart_of_mem {name : String} (identifier : isIdentifier name = true) {c : Char}
    (member : c ∈ name.toList) : isIdentifierPart c = true := by
  unfold isIdentifier at identifier
  split at identifier
  · cases identifier
  · rename_i first rest split
    rw [Bool.and_eq_true, List.all_eq_true] at identifier
    obtain ⟨start, others⟩ := identifier
    rw [split] at member
    rcases List.mem_cons.mp member with rfl | inRest
    · simp only [isIdentifierStart, isIdentifierPart, Char.isAlphanum, Bool.or_eq_true] at start ⊢
      exact start.imp_left Or.inl
    · exact others c inRest

theorem toNat_lt_of_isIdentifierPart {c : Char} (part : isIdentifierPart c = true) :
    c.toNat < 0x80 := by
  have small : ∀ last : Char, last.toNat < 0x80 → c ≤ last → c.toNat < 0x80 :=
    fun last bound below => Nat.lt_of_le_of_lt below bound
  rcases Bool.or_eq_true_iff.mp part with alphanumeric | underscore
  · rcases Bool.or_eq_true_iff.mp alphanumeric with letter | digit
    · rcases Bool.or_eq_true_iff.mp letter with upper | lower
      · exact small 'Z' (by decide) (of_decide_eq_true upper).2
      · exact small 'z' (by decide) (of_decide_eq_true (Bool.and_eq_true_iff.mp lower).2)
    · exact small '9' (by decide) (Char.isDigit_iff_toNat.mp digit).2
  · rw [of_decide_eq_true underscore]
    decide

/-- What holds of each ASCII code holds of each ASCII character. -/
theorem of_forall_ascii {P : Char → Prop} (all : ∀ code < 0x80, P (Char.ofNat code)) {c : Char}
    (ascii : c.toNat < 0x80) : P c := by
  have here := all c.toNat ascii
  rwa [Char.ofNat_toNat] at here

theorem isIdentifierPart_toLower {c : Char} (part : isIdentifierPart c = true) :
    isIdentifierPart c.toLower = true := by
  have ascii := toNat_lt_of_isIdentifierPart part
  exact of_forall_ascii (P := fun c => isIdentifierPart c = true → isIdentifierPart c.toLower = true)
    (by decide) ascii part

/-- ASCII letters get small one by one. -/
theorem Text.lowerFrom_of_ascii (before : List Char) {chars : List Char}
    (ascii : ∀ c ∈ chars, c.toNat < 0x80) :
    Text.lowerFrom before chars = chars.map Char.toLower := by
  induction chars generalizing before with
  | nil => rfl
  | cons c rest ih =>
      obtain ⟨here, later⟩ := List.forall_mem_cons.mp ascii
      have notSigma : c.toNat ≠ 0x3a3 := by omega
      rw [Text.lowerFrom, if_neg notSigma, Text.lowerChar, if_pos here, ih _ later]
      rfl

/-- An identifier in lower case has the characters of an identifier. -/
theorem isIdentifierPart_of_mem_lowercase {name : String} (identifier : isIdentifier name = true)
    {c : Char} (member : c ∈ (Text.lowercase name).toList) : isIdentifierPart c = true := by
  rw [Text.lowercase, String.toList_ofList, Text.lowerFrom_of_ascii] at member
  · obtain ⟨capital, inName, rfl⟩ := List.mem_map.mp member
    exact isIdentifierPart_toLower (isIdentifierPart_of_mem identifier inName)
  · exact fun other inName => toNat_lt_of_isIdentifierPart (isIdentifierPart_of_mem identifier inName)

/-! ## Names that pass the checks -/

/-- The names of a package that come from options without a problem. -/
structure PackageNames.Valid (names : PackageNames) : Prop where
  identifier : isIdentifier names.scriptClass = true
  libraryName : Options.isLibraryName names.library = true

/-- A package is made of options without a problem, for a class of the tree in
the dump. -/
theorem Options.exists_of_package {options : Options} {dump : String} {millis : Nat}
    {package : Package} (made : options.package dump millis = .ok package) :
    options.problem? = none ∧ ∃ tree findings owner,
      SymbolTree.ofDump dump = (.ok tree, findings) ∧
        tree.findClass? options.className = some owner ∧
        package = options.packageOf tree owner findings millis := by
  unfold Options.package at made
  split at made
  · cases made
  · rename_i sound
    split at made
    · cases made
    · rename_i tree findings parsed
      split at made
      · cases made
      · rename_i owner found
        cases made
        exact ⟨sound, tree, findings, owner, parsed, found, rfl⟩

theorem Options.valid_of_problem? {options : Options} (sound : options.problem? = none)
    (nativeClass : String) :
    PackageNames.Valid ⟨options.library, options.scriptName, nativeClass⟩ := by
  unfold Options.problem? at sound
  split at sound
  · cases sound
  · split at sound
    · cases sound
    · split at sound
      · cases sound
      · split at sound
        · cases sound
        · rename_i identifier libraryName
          simp only [Bool.not_eq_true', Bool.not_eq_false] at identifier libraryName
          exact ⟨identifier, libraryName⟩

theorem Options.files_packageOf (options : Options) (tree : SymbolTree) (owner : NodeId)
    (findings : Diagnostics) (millis : Nat) :
    (options.packageOf tree owner findings millis).files =
      PackageNames.files
        ⟨options.library, options.scriptName,
          (tree.bindings owner options.scriptName).1.names.native⟩
        (tree.bindings owner options.scriptName).1 := by
  unfold Options.packageOf
  rcases tree.bindings owner options.scriptName with ⟨bindings, found⟩
  rfl

theorem Options.bindings_packageOf (options : Options) (tree : SymbolTree) (owner : NodeId)
    (findings : Diagnostics) (millis : Nat) :
    (options.packageOf tree owner findings millis).bindings =
      (tree.bindings owner options.scriptName).1 := by
  unfold Options.packageOf
  rcases tree.bindings owner options.scriptName with ⟨bindings, found⟩
  rfl

/-- A package has the names that its options give it. -/
theorem Options.exists_names {options : Options} {dump : String} {millis : Nat}
    {package : Package} (made : options.package dump millis = .ok package) :
    package.folder = packageFolder options.library millis ∧
      ∃ names : PackageNames, names.Valid ∧ package.files = names.files package.bindings ∧
        names = ⟨options.library, options.scriptName, package.bindings.names.native⟩ := by
  obtain ⟨sound, tree, findings, owner, -, -, rfl⟩ := exists_of_package made
  refine ⟨?_, _, valid_of_problem? sound _, ?_, rfl⟩
  · unfold Options.packageOf
    rcases tree.bindings owner options.scriptName with ⟨bindings, found⟩
    rfl
  · rw [files_packageOf, bindings_packageOf]

/-! ## Slashes -/

/-- Neither a slash nor a backslash stands in a text. -/
def SlashFree (text : String) : Prop :=
  ∀ c ∈ text.toList, c ≠ '/' ∧ c ≠ '\\'

instance (text : String) : Decidable (SlashFree text) :=
  List.decidableBAll (fun c => c ≠ '/' ∧ c ≠ '\\') text.toList

theorem SlashFree.append {first second : String} (free : SlashFree first)
    (also : SlashFree second) : SlashFree (first ++ second) := by
  intro c member
  rw [String.toList_append, List.mem_append] at member
  exact member.elim (free c) (also c)

theorem SlashFree.slash_not_mem {text : String} (free : SlashFree text) : '/' ∉ text.toList :=
  fun member => (free _ member).1 rfl

theorem slashFree_of_isLibraryName {name : String}
    (libraryName : Options.isLibraryName name = true) : SlashFree name := by
  intro c member
  rw [Options.isLibraryName, Bool.and_eq_true, List.all_eq_true] at libraryName
  simpa using libraryName.2 c member

theorem slashFree_lowercase {name : String} (identifier : isIdentifier name = true) :
    SlashFree (Text.lowercase name) := by
  intro c member
  have part := isIdentifierPart_of_mem_lowercase identifier member
  constructor <;> rintro rfl <;> exact absurd part (by decide)

theorem slashFree_toString (number : Nat) : SlashFree (toString number) := by
  intro c member
  have digit := Text.isDigit_of_mem_toString member
  constructor <;> rintro rfl <;> exact absurd digit (by decide)

/-! ## Names of files and directories -/

namespace Volume

/-- A text with which the name of a file or a directory can begin. -/
structure OpensName (lead : String) : Prop where
  head : ∃ first rest, lead.toList = first :: rest ∧ first ≠ '.'
  noSlash : '/' ∉ lead.toList

theorem OpensName.append {lead tail : String} (opens : OpensName lead)
    (noSlash : '/' ∉ tail.toList) : OpensName (lead ++ tail) where
  head := by
    obtain ⟨first, rest, begins, notDot⟩ := opens.head
    exact ⟨first, rest ++ tail.toList, by rw [String.toList_append, begins]; rfl, notDot⟩
  noSlash := by
    rw [String.toList_append, List.mem_append, not_or]
    exact ⟨opens.noSlash, noSlash⟩

theorem OpensName.isName {name : String} (opens : OpensName name) : IsName name := by
  obtain ⟨first, rest, begins, notDot⟩ := opens.head
  have different : ∀ other : String, (∀ last, other.toList = first :: last → False) →
      name ≠ other := by
    rintro _ impossible rfl
    exact impossible rest begins
  refine ⟨?_, ?_, opens.noSlash⟩
  · have nonempty := different "" fun last same => by simp at same
    have notSingle := different "." fun last same => notDot (List.cons.inj same).1.symm
    simp [staysInPlace, nonempty, notSingle]
  · exact different ".." fun last same => notDot (List.cons.inj same).1.symm

theorem opensName_mbed : OpensName "mbed-js-" where
  head := ⟨'m', "bed-js-".toList, by decide, by decide⟩
  noSlash := by decide

end Volume

open Volume (IsName opensName_mbed)

/-- A file whose path is made of names. -/
structure PackageFile.Named (file : PackageFile) : Prop where
  nonempty : file.path ≠ []
  names : ∀ part ∈ file.path, IsName part

theorem PackageFile.Named.splitPath_pathText {file : PackageFile} (named : file.Named) :
    Volume.splitPath file.pathText.toList = file.path :=
  Volume.splitPath_intercalate named.names named.nonempty

/-- The folder of a package is a name. -/
theorem isName_packageFolder {library : String} (libraryName : Options.isLibraryName library = true)
    (millis : Nat) : IsName (packageFolder library millis) := by
  have opens : Volume.OpensName "jerryscript-mbed-" :=
    ⟨⟨'j', "erryscript-mbed-".toList, by decide, by decide⟩, by decide⟩
  exact Volume.OpensName.isName
    (((opens.append (slashFree_of_isLibraryName libraryName).slash_not_mem).append
      (by decide)).append (slashFree_toString millis).slash_not_mem)

namespace PackageNames

variable {names : PackageNames}

theorem Valid.isName_package (valid : names.Valid) : IsName names.package :=
  (opensName_mbed.append (slashFree_of_isLibraryName valid.libraryName).slash_not_mem).isName

theorem Valid.isName_classHeader (valid : names.Valid) : IsName names.classHeader :=
  ((opensName_mbed.append (slashFree_lowercase valid.identifier).slash_not_mem).append
    (by decide)).isName

theorem Valid.isName_libraryHeader (valid : names.Valid) : IsName names.libraryHeader :=
  ((opensName_mbed.append (slashFree_of_isLibraryName valid.libraryName).slash_not_mem).append
    (by decide)).isName

theorem Valid.isName_sourceFile (valid : names.Valid) : IsName names.sourceFile :=
  ((opensName_mbed.append (slashFree_lowercase valid.identifier).slash_not_mem).append
    (by decide)).isName

/-- The class header and the registration header are two files, since no
identifier has a hyphen. -/
theorem Valid.classHeader_ne_libraryHeader (valid : names.Valid) :
    names.classHeader ≠ names.libraryHeader := by
  intro same
  have parts : (Text.lowercase names.scriptClass).toList ++ ".h".toList =
      names.library.toList ++ "-lib".toList ++ ".h".toList := by
    have chars := congrArg String.toList same
    simp only [classHeader, libraryHeader, String.toList_append, List.append_assoc,
      List.append_cancel_left_eq] at chars
    rw [chars, List.append_assoc]
    rfl
  have hyphen : '-' ∈ (Text.lowercase names.scriptClass).toList := by
    rw [List.append_cancel_right parts]
    simp
  exact absurd (isIdentifierPart_of_mem_lowercase valid.identifier hyphen) (by decide)

/-- No package has the name of one of the fixed files and directories. -/
theorem package_ne {other : String} (differs : ¬ "mbed-js-".toList <+: other.toList) :
    names.package ≠ other := by
  rintro rfl
  exact differs ⟨names.library.toList, String.toList_append.symm⟩

/-! ## The files of a package -/

/-- Neither of two files lies at the place of the other or below it. -/
def Apart (first second : PackageFile) : Prop :=
  ¬ first.path <+: second.path ∧ ¬ second.path <+: first.path

theorem nodup_paths {files : List PackageFile} (apart : files.Pairwise Apart) :
    (files.map PackageFile.path).Nodup := by
  refine List.pairwise_map.mpr (apart.imp ?_)
  intro first second apart same
  exact apart.1 (same ▸ List.prefix_rfl)

/-- Every part of a path in a package is a name. -/
theorem Valid.named_of_mem_files (valid : names.Valid) {bindings : ClassBindings}
    {file : PackageFile} (member : file ∈ names.files bindings) : file.Named := by
  have source : IsName "source" := ⟨by decide, by decide, by decide⟩
  have buildName : IsName "mbedjs.json" := ⟨by decide, by decide, by decide⟩
  have packageName : IsName "package.json" := ⟨by decide, by decide, by decide⟩
  simp only [files, List.mem_cons, List.not_mem_nil, or_false] at member
  rcases member with rfl | rfl | rfl | rfl | rfl <;> constructor <;>
    simp [valid.isName_package, valid.isName_classHeader, valid.isName_libraryHeader,
      valid.isName_sourceFile, source, buildName, packageName]

/-- No file of a package is in the way of another one. -/
theorem Valid.pairwise_apart (valid : names.Valid) (bindings : ClassBindings) :
    (names.files bindings).Pairwise Apart := by
  have notSource : names.package ≠ "source" := package_ne (by decide)
  have notBuild : names.package ≠ "mbedjs.json" := package_ne (by decide)
  have notPackage : names.package ≠ "package.json" := package_ne (by decide)
  simp [files, Apart, valid.classHeader_ne_libraryHeader, valid.classHeader_ne_libraryHeader.symm,
    notSource, notSource.symm, notBuild, notBuild.symm, notPackage, notPackage.symm]

end PackageNames

end Bindery
