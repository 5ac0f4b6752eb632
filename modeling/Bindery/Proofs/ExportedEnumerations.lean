import Bindery.Proofs.Registration
import Bindery.Proofs.Survivors

/-!
# Exported enumerations

A class exports the enumerations that its bound members use, and no other.  The
members that are left out are lowered like all others, so their enumerations are
known for a while; nothing of them remains once the survivors are scanned.
-/

namespace Bindery

/-- The entries of a class are made of the enumerations that its survivors use,
each name by its first use. -/
structure ExportsUsedEnumerations (tree : SymbolTree) (owner : NodeId) (scriptName : String)
    (bindings : ClassBindings) (findings : Diagnostics) : Prop where
  /-- The names are those of all enumerations that survivors use. -/
  mem_keys : ∀ name, name ∈ bindings.enums.keys ↔
    ∃ slot function, tree.Survives owner slot function ∧
      ∃ enumeration, tree.UsesEnumeration function enumeration ∧
        (tree.node enumeration).name = some name
  /-- An entry is made of the first enumeration of its name. -/
  entry : ∀ name, bindings.enums.get? name =
    (EnumRegistry.firstNamed? tree (tree.enumerationScan owner bindings.functions) name).map
      (EnumRegistry.entryFor tree name)
  /-- What no survivor uses is not registered. -/
  unused : ∀ enumeration,
    (∀ slot function, tree.Survives owner slot function →
      ¬ tree.UsesEnumeration function enumeration) →
    ∀ entry ∈ bindings.enums.values, entry.node ≠ enumeration
  /-- The uses are registered in the order of the scan. -/
  registered : bindings.enums =
    (EnumRegistry.registerAll {} tree (tree.enumerationScan owner bindings.functions)).1
  /-- A later use of another enumeration is refused with one warning. -/
  later : ∀ before enumeration after,
    tree.enumerationScan owner bindings.functions = before ++ enumeration :: after →
    ∀ registry, registry = (EnumRegistry.registerAll {} tree before).1 →
    ∀ name first, registry.get? name = some first → (tree.node enumeration).name = some name →
    first.node ≠ enumeration →
      registry.register tree enumeration =
          (registry, false, [EnumRegistry.clashWarning tree name enumeration first]) ∧
        bindings.enums.get? name = some first
  /-- There is one warning for each such use, and no other finding about
  enumerations. -/
  findings : findings =
    (tree.draft owner scriptName).findings ++
      (tree.enumerationScan owner bindings.functions).filterMap
        (EnumRegistry.clash? tree bindings.enums) ++
      (tree.classNames owner scriptName).constructorFindings
        (tree.draft owner scriptName).constructors
  /-- Every enumeration that is registered has a name. -/
  named : ∀ enumeration ∈ tree.enumerationScan owner bindings.functions,
    (tree.node enumeration).name.isSome

namespace SymbolTree

variable (tree : SymbolTree) (owner : NodeId) (scriptName : String)

theorem enums_bindings :
    (tree.bindings owner scriptName).1.enums =
      (EnumRegistry.registerAll {} tree
        (tree.enumerationScan owner (tree.bindings owner scriptName).1.functions)).1 := by
  rw [← enumerations_draft]
  rfl

theorem findings_bindings :
    (tree.bindings owner scriptName).2 =
      (tree.draft owner scriptName).findings ++
        (tree.enumerationScan owner (tree.bindings owner scriptName).1.functions).filterMap
          (EnumRegistry.clash? tree (tree.bindings owner scriptName).1.enums) ++
        (tree.classNames owner scriptName).constructorFindings
          (tree.draft owner scriptName).constructors := by
  have named : ∀ enumeration ∈
      tree.enumerationScan owner (tree.bindings owner scriptName).1.functions,
      (tree.node enumeration).name.isSome :=
    fun _ member => isSome_name_of_mem_enumerationScan member
  rw [enums_bindings, ← EnumRegistry.findings_registerAll tree {} named, ← enumerations_draft]
  rfl

/-- The entries of a class say what the first use of each name says. -/
theorem get?_enums_bindings (name : String) :
    (tree.bindings owner scriptName).1.enums.get? name =
      (EnumRegistry.firstNamed? tree
        (tree.enumerationScan owner (tree.bindings owner scriptName).1.functions) name).map
        (EnumRegistry.entryFor tree name) := by
  have vacant : OrderedMap.get? ({} : EnumRegistry) name = none := rfl
  rw [enums_bindings, EnumRegistry.get?_registerAll, vacant, Option.none_or]

/-- An entry is made of the first use of a name. -/
theorem exists_first_of_mem_values {entry : EnumBinding}
    (member : entry ∈ (tree.bindings owner scriptName).1.enums.values) :
    ∃ name enumeration,
      EnumRegistry.firstNamed? tree
        (tree.enumerationScan owner (tree.bindings owner scriptName).1.functions) name =
          some enumeration ∧
      entry = EnumRegistry.entryFor tree name enumeration := by
  obtain ⟨⟨name, _⟩, listed, rfl⟩ := List.mem_map.mp member
  have distinct : (tree.bindings owner scriptName).1.enums.keys.Nodup := by
    have none : (OrderedMap.keys ({} : EnumRegistry)).Nodup := List.nodup_nil
    rw [enums_bindings]
    exact EnumRegistry.nodup_keys_registerAll tree none _
  rw [OrderedMap.mem_entries_iff distinct, get?_enums_bindings, Option.map_eq_some_iff] at listed
  obtain ⟨enumeration, first, same⟩ := listed
  exact ⟨name, enumeration, first, same.symm⟩

/-- An entry stands for an enumeration that some survivor uses. -/
theorem exists_use_of_mem_values {entry : EnumBinding}
    (member : entry ∈ (tree.bindings owner scriptName).1.enums.values) :
    ∃ slot function, tree.Survives owner slot function ∧
      tree.UsesEnumeration function entry.node := by
  obtain ⟨name, enumeration, first, rfl⟩ := tree.exists_first_of_mem_values owner scriptName member
  rw [EnumRegistry.firstNamed?] at first
  have scanned := List.mem_of_find?_eq_some first
  rwa [mem_enumerationScan_iff] at scanned

/-- Every class exports the enumerations that its bound members use. -/
theorem bindings_exportUsedEnumerations :
    ExportsUsedEnumerations tree owner scriptName (tree.bindings owner scriptName).1
      (tree.bindings owner scriptName).2 where
  mem_keys := fun name => by
    rw [← OrderedMap.contains_iff_mem_keys, OrderedMap.contains, get?_enums_bindings,
      Option.isSome_map, EnumRegistry.firstNamed?, List.find?_isSome]
    simp only [mem_enumerationScan_iff, decide_eq_true_eq]
    constructor
    · rintro ⟨enumeration, ⟨slot, function, survives, used⟩, named⟩
      exact ⟨slot, function, survives, enumeration, used, named⟩
    · rintro ⟨slot, function, survives, enumeration, used, named⟩
      exact ⟨enumeration, ⟨slot, function, survives, used⟩, named⟩
  entry := tree.get?_enums_bindings owner scriptName
  unused := fun enumeration unused entry member same => by
    obtain ⟨slot, function, survives, used⟩ :=
      tree.exists_use_of_mem_values owner scriptName member
    exact unused slot function survives (same ▸ used)
  registered := tree.enums_bindings owner scriptName
  later := fun before enumeration after split registry reached name first found named other => by
    refine ⟨?_, ?_⟩
    · rw [EnumRegistry.register_of_taken named found, if_neg other]
    · rw [enums_bindings, split, EnumRegistry.registerAll_append, ← reached,
        EnumRegistry.get?_registerAll, found, Option.some_or]
  findings := tree.findings_bindings owner scriptName
  named := fun _ member => isSome_name_of_mem_enumerationScan member

end SymbolTree

end Bindery
