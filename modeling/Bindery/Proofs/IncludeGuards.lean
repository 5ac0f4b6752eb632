import Bindery.Proofs.PackageAgreement

/-!
# Include guards

Both headers of a package are guarded by a name that is made of the names of the
library and of the class, the one as `<library>_<class>` and the other as
`LIB_<library>`.  The two agree for a few names of the class and the library.
Then the class header is passed over where the registration header includes it.
-/

namespace Bindery

/-! ## Reading a guard -/

namespace LineForm

def guardTested : LineForm := ⟨"#ifndef ", ""⟩

def guardDefined : LineForm := ⟨"#define ", ""⟩

end LineForm

open LineForm

/-- The first name that is tested in a line and, if so, defined in the next. -/
def guardIn? : List String → Option String
  | tested :: defined :: rest =>
      match guardTested.read? tested with
      | some guard => if guardDefined.read? defined = some guard then some guard else none
      | none => guardIn? (defined :: rest)
  | _ => none

/-- The include guard of a header. -/
def PackageFile.guard? (file : PackageFile) : Option String :=
  guardIn? (Text.lines file.contents)

theorem guardIn?_of_read {tested defined guard : String} (rest : List String)
    (tests : guardTested.read? tested = some guard)
    (defines : guardDefined.read? defined = some guard) :
    guardIn? (tested :: defined :: rest) = some guard := by
  rw [guardIn?, tests]
  exact if_pos defines

theorem guardIn?_of_other {first second : String} (rest : List String)
    (other : guardTested.read? first = none) :
    guardIn? (first :: second :: rest) = guardIn? (second :: rest) := by
  rw [guardIn?, other]

theorem guardTested_read? (guard : String) :
    guardTested.read? ("#ifndef " ++ guard) = some guard :=
  read?_eq_some_iff.mpr (String.append_empty).symm

theorem guardDefined_read? (guard : String) :
    guardDefined.read? ("#define " ++ guard) = some guard :=
  read?_eq_some_iff.mpr (String.append_empty).symm

/-- The guard of a header is found whatever the header holds. -/
theorem guard?_guardedHeader (path : List String) (parts lines : List String) :
    PackageFile.guard? ⟨path, PackageNames.guardedHeader (includeGuard parts) lines⟩ =
      some (includeGuard parts) := by
  have banner : Text.OneLine banner := .literal rfl
  have tested : Text.OneLine ("#ifndef " ++ includeGuard parts) :=
    oneLine_append_guard (unbroken_literal rfl) parts
  have defined : Text.OneLine ("#define " ++ includeGuard parts) :=
    oneLine_append_guard (unbroken_literal rfl) parts
  rw [PackageFile.guard?, PackageNames.guardedHeader]
  simp only [List.cons_append, List.nil_append, Code.joined_cons, Text.lines_append_feed banner,
    Text.lines_append_feed .blank, Text.lines_append_feed tested, Text.lines_append_feed defined]
  rw [guardIn?_of_other _ (read?_eq_none (by decide +kernel)),
    guardIn?_of_other _ (read?_eq_none (by decide +kernel))]
  exact guardIn?_of_read _ (guardTested_read? _) (guardDefined_read? _)

/-! ## Names in guards -/

/-- A name as it stands in a guard. -/
def guardForm (name : String) : List Char :=
  name.toList.map guardChar

/-- One `LIB`, or several with underscores in between. -/
inductive RepeatsLib : List Char → Prop
  | once : RepeatsLib ['L', 'I', 'B']
  | again {rest : List Char} (repeats : RepeatsLib rest) :
      RepeatsLib ('L' :: 'I' :: 'B' :: '_' :: rest)

theorem includeGuard_pair (first second : String) :
    includeGuard [first, second] =
      "_JERRYSCRIPT_MBED_" ++ String.ofList (guardForm first ++ '_' :: guardForm second) ++
        "_H" := by
  have chars : (first ++ "_" ++ second).toList.map guardChar =
      guardForm first ++ '_' :: guardForm second := by
    have underscore : "_".toList.map guardChar = ['_'] := by decide
    rw [String.toList_append, String.toList_append, List.map_append, List.map_append, underscore,
      List.append_assoc]
    rfl
  unfold includeGuard
  rw [String.intercalate_cons_cons, String.intercalate_singleton, chars]

/-- If a name and a further one behind it are the same as `LIB` and the name, the
name only repeats `LIB`, because each of its pieces is the one four characters
before. -/
theorem repeatsLib_of_shifted : ∀ {library script : List Char},
    library ++ '_' :: script = 'L' :: 'I' :: 'B' :: '_' :: library →
      RepeatsLib library ∧ script = ['L', 'I', 'B']
  | [], _, same => by simp at same
  | [_], _, same => by simp at same
  | [_, _], _, same => by simp at same
  | [_, _, _], _, same => by
      simp only [List.cons_append, List.nil_append, List.cons.injEq] at same
      obtain ⟨rfl, rfl, rfl, -, rfl⟩ := same
      exact ⟨.once, rfl⟩
  | _ :: _ :: _ :: _ :: rest, _, same => by
      simp only [List.cons_append, List.cons.injEq] at same
      obtain ⟨rfl, rfl, rfl, rfl, shifted⟩ := same
      obtain ⟨repeats, isLib⟩ := repeatsLib_of_shifted shifted
      exact ⟨.again repeats, isLib⟩

theorem RepeatsLib.shifted {library : List Char} (repeats : RepeatsLib library) :
    library ++ ['_', 'L', 'I', 'B'] = 'L' :: 'I' :: 'B' :: '_' :: library := by
  induction repeats with
  | once => rfl
  | again _ ih => simp only [List.cons_append, ih]

/-- For which names the two guards agree. -/
theorem includeGuard_eq_iff (library script : String) :
    includeGuard [library, script] = includeGuard ["lib", library] ↔
      guardForm script = ['L', 'I', 'B'] ∧ RepeatsLib (guardForm library) := by
  have lib : guardForm "lib" = ['L', 'I', 'B'] := by decide
  rw [includeGuard_pair, includeGuard_pair, String.append_left_inj, String.append_right_inj,
    String.ofList_inj, lib]
  constructor
  · intro same
    exact (repeatsLib_of_shifted same).symm
  · rintro ⟨isLib, repeats⟩
    rw [isLib]
    exact repeats.shifted

/-! ## Names by default -/

theorem guardChar_toLower {c : Char} (ascii : c.toNat < 0x80) :
    guardChar c.toLower = guardChar c :=
  of_forall_ascii (P := fun c => guardChar c.toLower = guardChar c) (by decide) ascii

/-- A name without an underscore in its guard has the same guard in lower case. -/
theorem guardForm_lowercase {name : String} (kept : '_' ∉ guardForm name) :
    guardForm (Text.lowercase name) = guardForm name := by
  have ascii : ∀ c ∈ name.toList, c.toNat < 0x80 := by
    intro c member
    apply toNat_lt_of_guardChar
    rintro same
    exact kept (same ▸ List.mem_map_of_mem member)
  rw [guardForm, Text.lowercase, String.toList_ofList, Text.lowerFrom_of_ascii [] ascii,
    List.map_map]
  exact List.map_congr_left fun c member => guardChar_toLower (ascii c member)

/-- A library that is named after a class called `lib` is called so as well. -/
theorem Options.repeatsLib_library {options : Options} (byDefault : options.library? = none)
    (isLib : guardForm options.scriptName = ['L', 'I', 'B']) :
    RepeatsLib (guardForm options.library) := by
  have same : guardForm (Text.lowercase options.scriptName) = ['L', 'I', 'B'] := by
    rw [guardForm_lowercase (by rw [isLib]; decide), isLib]
  rw [Options.library, byDefault]
  exact same ▸ .once

/-! ## The headers of a package -/

/-- The two headers of each package that is made of sound options have different
guards. -/
def Options.GuardsDiffer (options : Options) : Prop :=
  options.problem? = none → ∀ tree owner findings millis classHeader libraryHeader others,
    (options.packageOf tree owner findings millis).files =
        classHeader :: libraryHeader :: others →
      classHeader.guard? ≠ libraryHeader.guard?

/-- What is tested and defined at the top of the headers. -/
theorem Options.guard?_packageOf (options : Options) (tree : SymbolTree) (owner : NodeId)
    (findings : Diagnostics) (millis : Nat) :
    ∃ classHeader libraryHeader others,
      (options.packageOf tree owner findings millis).files =
          classHeader :: libraryHeader :: others ∧
        classHeader.guard? = some (includeGuard [options.library, options.scriptName]) ∧
        libraryHeader.guard? = some (includeGuard ["lib", options.library]) := by
  rw [files_packageOf]
  exact ⟨_, _, _, rfl, guard?_guardedHeader _ _ _, guard?_guardedHeader _ _ _⟩

/-- Each header of a package has a guard.  The two are the same only if the class
is called `lib` in the package, in letters of any case, and the library `lib` as
well or a repetition of it.  A library without a name of its own is always called
like the class. -/
theorem Options.guards_packageOf (options : Options) (tree : SymbolTree) (owner : NodeId)
    (findings : Diagnostics) (millis : Nat) :
    ∃ classHeader libraryHeader others classGuard libraryGuard,
      (options.packageOf tree owner findings millis).files =
          classHeader :: libraryHeader :: others ∧
        classHeader.guard? = some classGuard ∧ libraryHeader.guard? = some libraryGuard ∧
        (classGuard = libraryGuard ↔ guardForm options.scriptName = ['L', 'I', 'B'] ∧
          RepeatsLib (guardForm options.library)) ∧
        (options.library? = none →
          (classGuard = libraryGuard ↔ guardForm options.scriptName = ['L', 'I', 'B'])) := by
  obtain ⟨classHeader, libraryHeader, others, files, inClass, inLibrary⟩ :=
    options.guard?_packageOf tree owner findings millis
  refine ⟨classHeader, libraryHeader, others, _, _, files, inClass, inLibrary,
    includeGuard_eq_iff _ _, fun byDefault => ?_⟩
  rw [includeGuard_eq_iff]
  exact and_iff_left_of_imp (repeatsLib_library byDefault)

/-- A class named `Lib`, whose library is named after it. -/
theorem Options.not_guardsDiffer_lib :
    ¬ Options.GuardsDiffer { symbols := "symbols.txt", className := "Lib" } := by
  intro differ
  have sound : Options.problem? { symbols := "symbols.txt", className := "Lib" } = none := by
    decide +kernel
  obtain ⟨classHeader, libraryHeader, others, files, inClass, inLibrary⟩ :=
    Options.guard?_packageOf { symbols := "symbols.txt", className := "Lib" }
      { nodes := #[Node.root] } 0 [] 0
  apply differ sound _ _ _ _ _ _ _ files
  rw [inClass, inLibrary]
  decide +kernel

end Bindery
