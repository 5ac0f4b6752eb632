import Bindery.Proofs.ExportedEnumerations

/-!
# Accounts of public members

Every public member is bound, left out with a warning or passed over with a
note, and none is counted twice.  The accounts are kept by the draft; sorting
and leaving out empty groups does not disturb them, and what is found about
enumerations and constructors comes after all that is said about members.
-/

namespace Bindery

/-- The bindings of a class and the findings account for its public members. -/
structure AccountsForMembers (tree : SymbolTree) (owner : NodeId) (scriptName : String)
    (bindings : ClassBindings) (findings : Diagnostics) : Prop where
  /-- Each member is an overload of an entry point, is left out or is noted. -/
  count : (tree.publicMembers owner).length =
    (bindings.functions.map fun function => function.arities.length).sum +
      bindings.dropped.length + findings.notes.length
  /-- The warnings are about the members left out, then about enumerations and
  last about a class that cannot be constructed. -/
  warnings : ∃ methods constructor, bindings.functions = methods ++ [constructor] ∧
    (∀ method ∈ methods, method.role = .method) ∧ constructor.role = .constructor ∧
    findings.warnings =
      bindings.dropped.map (fun entry => Diagnostic.warning
        (scriptName ++ "#" ++ entry.name ++ " not bound: " ++ entry.reason.message)) ++
      (tree.enumerationScan owner bindings.functions).filterMap
        (EnumRegistry.clash? tree bindings.enums) ++
      if constructor.arities = [] then
        [Diagnostic.warning (scriptName ++ " has no usable public constructor")]
      else []

namespace ClassNames

theorem severity_of_mem_constructorFindings {names : ClassNames} {group : OverloadSet} :
    ∀ finding ∈ names.constructorFindings group, finding.severity = .warning := by
  intro finding member
  rw [constructorFindings] at member
  split at member
  · cases List.mem_singleton.mp member
    rfl
  · cases member

/-- Scripts are warned when the entry point of the constructors takes no number
of arguments. -/
theorem constructorFindings_eq (names : ClassNames) (group : OverloadSet) :
    names.constructorFindings group =
      if (names.constructorBinding group).arities = [] then
        [Diagnostic.warning (names.script ++ " has no usable public constructor")]
      else [] := by
  have sameLength : (names.constructorBinding group).arities.length = group.size :=
    Draft.length_keys_sorted group
  rw [constructorFindings]
  simp only [← List.length_eq_zero_iff, sameLength, OrderedMap.isEmpty, OrderedMap.size,
    List.isEmpty_iff]

end ClassNames

namespace SymbolTree

variable (tree : SymbolTree) (owner : NodeId) (scriptName : String)

/-- The entry points take as many numbers of arguments as the draft holds
overloads. -/
theorem sum_arities_bindings :
    ((tree.bindings owner scriptName).1.functions.map fun function =>
        function.arities.length).sum =
      (tree.draft owner scriptName).overloadCount := by
  have sizes : ∀ group : String × OverloadSet,
      ((tree.classNames owner scriptName).methodBinding group).arities.length = group.2.size :=
    fun group => Draft.length_keys_sorted group.2
  have constructors : ((tree.classNames owner scriptName).constructorBinding
      (tree.draft owner scriptName).constructors).arities.length =
        (tree.draft owner scriptName).constructors.size :=
    Draft.length_keys_sorted _
  rw [functions_bindings, List.map_append, List.sum_append, List.map_map,
    Draft.overloadCount, ← Draft.sum_size_keptMethods]
  simp only [Function.comp_def, sizes, constructors, List.map_singleton, List.sum_singleton]

/-- All notes are about members. -/
theorem notes_bindings :
    (tree.bindings owner scriptName).2.notes = (tree.draft owner scriptName).findings.notes := by
  rw [findings_bindings, Diagnostics.notes_append, Diagnostics.notes_append,
    Diagnostics.notes_eq_nil (EnumRegistry.severity_of_mem_clashes tree),
    Diagnostics.notes_eq_nil ClassNames.severity_of_mem_constructorFindings,
    List.append_nil, List.append_nil]

/-- The bindings of every class account for its public members. -/
theorem bindings_accountForMembers :
    AccountsForMembers tree owner scriptName (tree.bindings owner scriptName).1
      (tree.bindings owner scriptName).2 where
  count := by
    rw [sum_arities_bindings, notes_bindings]
    have accounts := Draft.length_eq_of_ofVerdicts scriptName (tree.verdicts owner)
    rw [verdicts_eq, List.length_map] at accounts
    exact accounts
  warnings := by
    refine ⟨_, _, tree.functions_bindings owner scriptName, ?_, rfl, ?_⟩
    · intro method member
      obtain ⟨group, _, rfl⟩ := List.mem_map.mp member
      rfl
    · rw [findings_bindings, Diagnostics.warnings_append,
        Diagnostics.warnings_append,
        Diagnostics.warnings_eq_self (EnumRegistry.severity_of_mem_clashes tree),
        Diagnostics.warnings_eq_self ClassNames.severity_of_mem_constructorFindings,
        ClassNames.constructorFindings_eq, draft, Draft.warnings_findings_ofVerdicts]
      rfl

end SymbolTree

end Bindery
