import Bindery.Package
import Bindery.Proofs.HeaderForms

/-!
# What comes of a dump

Whether a package can be made of the text of a dump is settled in a fixed
order: by the options alone, by whether any line of the text is a header, and
by whether the tree holds a class of the name that is asked for.  Nothing else
stands in the way of a package.

Records that were dropped from the tree count for the second question but not
for the third.
-/

namespace Bindery

namespace SymbolTree

/-! ## Classes of a name -/

/-- An entry that is a class or a structure of a name. -/
structure IsClass (tree : SymbolTree) (name : String) (id : NodeId) : Prop where
  member : id ∈ tree.ids
  tag : (tree.node id).tag = .classType ∨ (tree.node id).tag = .structureType
  name : (tree.node id).name = some name

/-- The class that a name stands for.  It is no mere declaration unless all
classes of that name are, and among those that are as good it comes first. -/
structure StandsFor (tree : SymbolTree) (name : String) (owner : NodeId) : Prop where
  isClass : tree.IsClass name owner
  defines : (tree.node owner).isDeclaration = true →
    ∀ other, tree.IsClass name other → (tree.node other).isDeclaration = true
  first : ∀ other, tree.IsClass name other →
    (tree.node other).isDeclaration = (tree.node owner).isDeclaration → owner ≤ other

theorem isClass_iff (tree : SymbolTree) (name : String) (id : NodeId) :
    tree.IsClass name id ↔ id ∈ tree.ids ∧ tree.isClassNamed name id = true := by
  rw [isClassNamed, Bool.and_eq_true, decide_eq_true_eq, Tag.isRecord_iff]
  exact ⟨fun ⟨member, tag, name⟩ => ⟨member, tag, name⟩,
    fun ⟨member, tag, name⟩ => ⟨member, tag, name⟩⟩

/-- Entries are searched from the first to the last. -/
theorem find?_ids_eq_some_iff (tree : SymbolTree) (test : NodeId → Bool) (id : NodeId) :
    tree.ids.find? test = some id ↔
      (id ∈ tree.ids ∧ test id = true) ∧
        ∀ other ∈ tree.ids, test other = true → id ≤ other := by
  rw [ids, List.find?_range'_eq_some]
  constructor
  · rintro ⟨passes, member, before⟩
    refine ⟨⟨member, passes⟩, fun other inside otherPasses => ?_⟩
    by_contra earlier
    have fails := before other (List.mem_range'_1.mp inside).1 (Nat.lt_of_not_le earlier)
    simp [otherPasses] at fails
  · rintro ⟨⟨member, passes⟩, first⟩
    refine ⟨passes, member, fun other positive earlier => ?_⟩
    rw [Bool.not_eq_true', Bool.eq_false_iff]
    intro otherPasses
    have inside : other ∈ List.range' 1 tree.size :=
      List.mem_range'_1.mpr ⟨positive, Nat.lt_trans earlier (List.mem_range'_1.mp member).2⟩
    exact absurd (first other inside otherPasses) (Nat.not_le_of_lt earlier)

/-- The first class of a name among those that pass a test. -/
theorem find?_class_eq_some_iff (tree : SymbolTree) (name : String) (test : NodeId → Bool)
    (owner : NodeId) :
    tree.ids.find? (fun id => tree.isClassNamed name id && test id) = some owner ↔
      (tree.IsClass name owner ∧ test owner = true) ∧
        ∀ other, tree.IsClass name other → test other = true → owner ≤ other := by
  rw [find?_ids_eq_some_iff]
  simp only [isClass_iff, Bool.and_eq_true, and_assoc, and_imp]

theorem find?_class_eq_none_iff (tree : SymbolTree) (name : String) (test : NodeId → Bool) :
    tree.ids.find? (fun id => tree.isClassNamed name id && test id) = none ↔
      ∀ other, tree.IsClass name other → test other = false := by
  rw [List.find?_eq_none]
  simp only [isClass_iff, Bool.and_eq_true, not_and, Bool.not_eq_true, and_imp]

/-- Definitions are searched before anything else. -/
theorem findClass?_eq (tree : SymbolTree) (name : String) :
    tree.findClass? name =
      (tree.ids.find? fun id => tree.isClassNamed name id && !(tree.node id).isDeclaration).or
        (tree.ids.find? fun id => tree.isClassNamed name id && true) := by
  rw [findClass?, List.find?_filter, List.head?_filter]
  simp only [Bool.decide_and, Bool.decide_eq_true, Bool.and_true]

theorem findClass?_eq_none_iff (tree : SymbolTree) (name : String) :
    tree.findClass? name = none ↔ ∀ id, ¬ tree.IsClass name id := by
  rw [findClass?_eq, Option.or_eq_none_iff, find?_class_eq_none_iff, find?_class_eq_none_iff]
  constructor
  · rintro ⟨_, noClass⟩ id isClass
    cases noClass id isClass
  · intro noClass
    exact ⟨fun id isClass => absurd isClass (noClass id),
      fun id isClass => absurd isClass (noClass id)⟩

theorem findClass?_eq_some_iff (tree : SymbolTree) (name : String) (owner : NodeId) :
    tree.findClass? name = some owner ↔ tree.StandsFor name owner := by
  rw [findClass?_eq, Option.or_eq_some_iff, find?_class_eq_some_iff, find?_class_eq_some_iff,
    find?_class_eq_none_iff]
  simp only [Bool.not_eq_true', Bool.not_eq_false', and_true, forall_true_left]
  constructor
  · rintro (⟨⟨isClass, definition⟩, first⟩ | ⟨noDefinition, isClass, first⟩)
    · refine ⟨isClass, fun declared => ?_, fun other isOther same => ?_⟩
      · rw [definition] at declared
        cases declared
      · exact first other isOther (same.trans definition)
    · exact ⟨isClass, fun _ => noDefinition, fun other isOther _ => first other isOther⟩
  · rintro ⟨isClass, defines, first⟩
    cases declared : (tree.node owner).isDeclaration with
    | false =>
        exact Or.inl ⟨⟨isClass, rfl⟩, fun other isOther definition =>
          first other isOther (definition.trans declared.symm)⟩
    | true =>
        exact Or.inr ⟨defines declared, isClass, fun other isOther =>
          first other isOther ((defines declared other isOther).trans declared.symm)⟩

/-- A name stands for a class as soon as there is one of that name. -/
theorem exists_standsFor_iff (tree : SymbolTree) (name : String) :
    (∃ owner, tree.StandsFor name owner) ↔ ∃ id, tree.IsClass name id := by
  constructor
  · rintro ⟨owner, owns⟩
    exact ⟨owner, owns.isClass⟩
  · rintro ⟨id, isClass⟩
    cases found : tree.findClass? name with
    | none => exact absurd isClass ((findClass?_eq_none_iff tree name).mp found id)
    | some owner => exact ⟨owner, (findClass?_eq_some_iff tree name owner).mp found⟩

/-! ## Trees of dumps -/

/-- There is no tree exactly if no line is a header. -/
theorem ofDump_eq_error_iff (dump : String) (error : DumpError) :
    (ofDump dump).1 = .error error ↔
      ∀ line ∈ Text.lines dump, ¬ Record.WellFormedHeader line.toList := by
  rw [← Record.ofDump_eq_nil_iff, ofDump]
  cases error
  rcases Record.ofDump dump with ⟨_ | ⟨record, rest⟩, findings⟩ <;> simp

theorem exists_ofDump_iff (dump : String) :
    (∃ tree findings, ofDump dump = (.ok tree, findings)) ↔
      ∃ line ∈ Text.lines dump, Record.WellFormedHeader line.toList := by
  cases built : ofDump dump with
  | mk result findings =>
      cases result with
      | error error =>
          have noHeader := (ofDump_eq_error_iff dump error).mp (congrArg Prod.fst built)
          simpa using noHeader
      | ok tree =>
          refine ⟨fun _ => ?_, fun _ => ⟨tree, findings, rfl⟩⟩
          by_contra noHeader
          have failed := (ofDump_eq_error_iff dump .noRecords).mpr
            fun line member isHeader => noHeader ⟨line, member, isHeader⟩
          rw [built] at failed
          cases failed

end SymbolTree

/-! ## Outcomes -/

namespace Options

/-- What comes of options and of the text of a dump, question by question. -/
inductive Outcome (options : Options) (dump : String) (millis : Nat) :
    Except RunError Package → Prop where
  | settings {error : SettingsError} (invalid : options.problem? = some error) :
      Outcome options dump millis (.error (.settings error))
  | noRecords (valid : options.problem? = none)
      (noHeader : ∀ line ∈ Text.lines dump, ¬ Record.WellFormedHeader line.toList) :
      Outcome options dump millis (.error (.badDump .noRecords))
  | classNotFound {tree : SymbolTree} {findings : Diagnostics} (valid : options.problem? = none)
      (built : SymbolTree.ofDump dump = (.ok tree, findings))
      (noClass : ∀ id, ¬ tree.IsClass options.className id) :
      Outcome options dump millis (.error (.classNotFound options.className))
  | bound {tree : SymbolTree} {findings : Diagnostics} {owner : NodeId}
      (valid : options.problem? = none) (built : SymbolTree.ofDump dump = (.ok tree, findings))
      (owns : tree.StandsFor options.className owner) :
      Outcome options dump millis (.ok (options.packageOf tree owner findings millis))

theorem outcome_package (options : Options) (dump : String) (millis : Nat) :
    Outcome options dump millis (options.package dump millis) := by
  rw [Options.package]
  split
  · rename_i error invalid
    exact .settings invalid
  · rename_i valid
    split
    · rename_i error findings failed
      cases error
      exact .noRecords valid ((SymbolTree.ofDump_eq_error_iff dump .noRecords).mp
        (congrArg Prod.fst failed))
    · rename_i tree findings built
      split
      · rename_i missing
        exact .classNotFound valid built ((tree.findClass?_eq_none_iff _).mp missing)
      · rename_i owner found
        exact .bound valid built ((tree.findClass?_eq_some_iff _ _).mp found)

/-- The outcome is the one that the questions lead to. -/
theorem outcome_iff {options : Options} {dump : String} {millis : Nat}
    {result : Except RunError Package} :
    options.package dump millis = result ↔ Outcome options dump millis result := by
  constructor
  · rintro rfl
    exact outcome_package options dump millis
  · rintro (invalid | ⟨valid, noHeader⟩ | ⟨valid, built, noClass⟩ | ⟨valid, built, owns⟩)
    · simp only [Options.package, invalid]
    · have failed := (SymbolTree.ofDump_eq_error_iff dump .noRecords).mpr noHeader
      have built : SymbolTree.ofDump dump = (.error .noRecords, (SymbolTree.ofDump dump).2) :=
        Prod.ext failed rfl
      rw [Options.package, valid, built]
    · simp only [Options.package, valid, built, (SymbolTree.findClass?_eq_none_iff _ _).mpr noClass]
    · simp only [Options.package, valid, built, (SymbolTree.findClass?_eq_some_iff _ _ _).mpr owns]

/-- How the outcome is settled: by the options, then by the lines of the text,
then by the classes of its tree. -/
structure Settled (options : Options) (dump : String) (millis : Nat) : Prop where
  settings : ∀ error, options.package dump millis = .error (.settings error) ↔
    options.problem? = some error
  noRecords : options.package dump millis = .error (.badDump .noRecords) ↔
    options.problem? = none ∧
      ∀ line ∈ Text.lines dump, ¬ Record.WellFormedHeader line.toList
  /-- The text has a tree as soon as one of its lines is a header. -/
  built : (∃ tree findings, SymbolTree.ofDump dump = (.ok tree, findings)) ↔
    ∃ line ∈ Text.lines dump, Record.WellFormedHeader line.toList
  classNotFound : ∀ name, options.package dump millis = .error (.classNotFound name) ↔
    name = options.className ∧ options.problem? = none ∧
      ∃ tree findings, SymbolTree.ofDump dump = (.ok tree, findings) ∧
        ∀ id, ¬ tree.IsClass options.className id
  succeeds : (∃ package, options.package dump millis = .ok package) ↔
    options.problem? = none ∧
      ∃ tree findings, SymbolTree.ofDump dump = (.ok tree, findings) ∧
        ∃ id, tree.IsClass options.className id
  /-- What is packaged is the class that the name stands for. -/
  bound : ∀ package, options.package dump millis = .ok package ↔
    options.problem? = none ∧
      ∃ tree findings, SymbolTree.ofDump dump = (.ok tree, findings) ∧
        ∃ owner, tree.StandsFor options.className owner ∧
          package = options.packageOf tree owner findings millis
  noOther : ∀ error, options.package dump millis = .error error →
    (∃ complaint, error = .settings complaint) ∨ error = .badDump .noRecords ∨
      error = .classNotFound options.className

/-- Every outcome of options and a text is settled so, at any time. -/
theorem package_settled (options : Options) (dump : String) (millis : Nat) :
    options.Settled dump millis where
  settings := fun error => by
    rw [outcome_iff]
    exact ⟨fun | .settings invalid => invalid, .settings⟩
  noRecords := by
    rw [outcome_iff]
    exact ⟨fun | .noRecords valid noHeader => ⟨valid, noHeader⟩,
      fun ⟨valid, noHeader⟩ => .noRecords valid noHeader⟩
  built := SymbolTree.exists_ofDump_iff dump
  classNotFound := fun name => by
    rw [outcome_iff]
    constructor
    · rintro (_ | _ | ⟨valid, built, noClass⟩)
      exact ⟨rfl, valid, _, _, built, noClass⟩
    · rintro ⟨rfl, valid, tree, findings, built, noClass⟩
      exact .classNotFound valid built noClass
  succeeds := by
    simp only [outcome_iff]
    constructor
    · rintro ⟨_, _ | _ | _ | ⟨valid, built, owns⟩⟩
      exact ⟨valid, _, _, built, _, owns.isClass⟩
    · rintro ⟨valid, tree, findings, built, isClass⟩
      obtain ⟨owner, owns⟩ := (tree.exists_standsFor_iff _).mpr isClass
      exact ⟨_, .bound valid built owns⟩
  bound := fun package => by
    rw [outcome_iff]
    constructor
    · rintro (_ | _ | _ | ⟨valid, built, owns⟩)
      exact ⟨valid, _, _, built, _, owns, rfl⟩
    · rintro ⟨valid, tree, findings, built, owner, owns, rfl⟩
      exact .bound valid built owns
  noOther := fun error failed => by
    rcases outcome_iff.mp failed with _ | _ | _
    · exact Or.inl ⟨_, rfl⟩
    · exact Or.inr (Or.inl rfl)
    · exact Or.inr (Or.inr rfl)

end Options

end Bindery
