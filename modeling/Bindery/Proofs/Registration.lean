import Bindery.EnumRegistry
import Bindery.Proofs.Reports

/-!
# Registering enumerations

Registering uses of enumerations one after another keeps the first enumeration
of each name and reports every use of another one.  Both are said here by the
list of uses: an entry is made of the first use of its name, and the findings
are those uses, in order, whose node is not that of the entry.
-/

namespace Bindery.EnumRegistry

variable (tree : SymbolTree)

/-- The entry that an enumeration gets under a name. -/
def entryFor (name : String) (id : NodeId) : EnumBinding where
  name := name
  node := id
  address := (tree.node id).address
  values := tree.enumerators id

/-- The first of the uses that has a name. -/
def firstNamed? (uses : List NodeId) (name : String) : Option NodeId :=
  uses.find? fun id => (tree.node id).name = some name

/-- What is reported about the use of an enumeration whose name is taken. -/
def clashWarning (name : String) (id : NodeId) (first : EnumBinding) : Diagnostic :=
  Diagnostic.warning ("enumeration '" ++ name ++ "' at <0x" ++ (tree.node id).address ++
    "> clashes with <0x" ++ first.address ++ ">; keeping the first")

/-- The finding about a use, given the entries: there is one when the entry of
the name is for another enumeration. -/
def clash? (registry : EnumRegistry) (id : NodeId) : Option Diagnostic :=
  (tree.node id).name.bind fun name =>
    (registry.get? name).bind fun first =>
      if first.node = id then none else some (clashWarning tree name id first)

/-! ## One use -/

variable {tree} in
theorem register_of_taken {registry : EnumRegistry} {id : NodeId} {name : String}
    {first : EnumBinding} (named : (tree.node id).name = some name)
    (found : registry.get? name = some first) :
    registry.register tree id =
      (registry, false, if first.node = id then [] else [clashWarning tree name id first]) := by
  unfold register
  simp only [named, found]
  split <;> rfl

variable {tree} in
theorem register_of_new {registry : EnumRegistry} {id : NodeId} {name : String}
    (named : (tree.node id).name = some name) (vacant : registry.get? name = none) :
    registry.register tree id = (registry.insert name (entryFor tree name id), true, []) := by
  unfold register
  simp only [named, vacant]
  rfl

theorem get?_register (registry : EnumRegistry) (id : NodeId) (name : String) :
    (registry.register tree id).1.get? name =
      (registry.get? name).or
        (if (tree.node id).name = some name then some (entryFor tree name id) else none) := by
  cases named : (tree.node id).name with
  | none => simp [register, named]
  | some own =>
      cases found : registry.get? own with
      | some first =>
          rw [register_of_taken named found]
          by_cases same : own = name
          · subst same
            rw [found, Option.some_or]
          · simp [same]
      | none =>
          rw [register_of_new named found, OrderedMap.get?_insert]
          by_cases same : own = name
          · subst same
            simp [found]
          · simp [same]

/-! ## All uses -/

/-- The entry of a name that is not taken is made of its first use. -/
theorem get?_registerAll (registry : EnumRegistry) (uses : List NodeId) (name : String) :
    (registry.registerAll tree uses).1.get? name =
      (registry.get? name).or ((firstNamed? tree uses name).map (entryFor tree name)) := by
  induction uses generalizing registry with
  | nil => simp [registerAll, firstNamed?]
  | cons id rest ih =>
      rw [registerAll, ih, get?_register, Option.or_assoc]
      by_cases named : (tree.node id).name = some name
      · simp [firstNamed?, named]
      · simp [firstNamed?, named]

theorem nodup_keys_register {registry : EnumRegistry} (distinct : registry.keys.Nodup)
    (id : NodeId) : (registry.register tree id).1.keys.Nodup := by
  cases named : (tree.node id).name with
  | none =>
      rw [register, named]
      exact distinct
  | some name =>
      cases found : registry.get? name with
      | some first =>
          rw [register_of_taken named found]
          exact distinct
      | none =>
          rw [register_of_new named found]
          exact OrderedMap.nodup_keys_insert distinct name _

theorem nodup_keys_registerAll {registry : EnumRegistry} (distinct : registry.keys.Nodup)
    (uses : List NodeId) : (registry.registerAll tree uses).1.keys.Nodup := by
  induction uses generalizing registry with
  | nil => exact distinct
  | cons id rest ih => exact ih (nodup_keys_register tree distinct id)

/-! ## Findings -/

theorem registerAll_append (registry : EnumRegistry) (first second : List NodeId) :
    registry.registerAll tree (first ++ second) =
      (((registry.registerAll tree first).1.registerAll tree second).1,
        (registry.registerAll tree first).2 ++
          ((registry.registerAll tree first).1.registerAll tree second).2) := by
  induction first generalizing registry with
  | nil => rfl
  | cons id rest ih => simp only [List.cons_append, registerAll, ih, List.append_assoc]

/-- Registering a use reports what the entries then say about it. -/
theorem findings_register (registry : EnumRegistry) {id : NodeId} {name : String}
    (named : (tree.node id).name = some name) :
    (registry.register tree id).2.2 =
      (clash? tree (registry.register tree id).1 id).toList := by
  unfold clash?
  rw [named, Option.bind_some]
  cases found : registry.get? name with
  | some first =>
      rw [register_of_taken named found, found, Option.bind_some]
      split <;> rfl
  | none =>
      have own : (entryFor tree name id).node = id := rfl
      rw [register_of_new named found, OrderedMap.get?_insert, if_pos rfl, Option.bind_some,
        if_pos own]
      rfl

/-- Later uses change no entry, so the entries at the end say the same. -/
theorem clash?_registerAll (registry : EnumRegistry) (uses : List NodeId) {id : NodeId}
    {name : String} (named : (tree.node id).name = some name) :
    clash? tree ((registry.register tree id).1.registerAll tree uses).1 id =
      clash? tree (registry.register tree id).1 id := by
  unfold clash?
  rw [named, Option.bind_some, Option.bind_some, get?_registerAll, get?_register, if_pos named]
  cases registry.get? name <;> rfl

theorem findings_registerAll (registry : EnumRegistry) {uses : List NodeId}
    (named : ∀ id ∈ uses, (tree.node id).name.isSome) :
    (registry.registerAll tree uses).2 =
      uses.filterMap (clash? tree (registry.registerAll tree uses).1) := by
  induction uses generalizing registry with
  | nil => rfl
  | cons id rest ih =>
      obtain ⟨name, hasName⟩ := Option.isSome_iff_exists.mp (named id List.mem_cons_self)
      have later := ih (registry.register tree id).1 fun other member =>
        named other (List.mem_cons_of_mem id member)
      -- The entries asked about are those at the end, which already agree after this use.
      rw [List.filterMap_cons, registerAll]
      simp only [later, findings_register tree registry hasName,
        clash?_registerAll tree registry rest hasName]
      cases clash? tree (registry.register tree id).1 id <;> rfl

/-- All findings about named uses are warnings. -/
theorem severity_of_clash? {registry : EnumRegistry} {id : NodeId} {finding : Diagnostic}
    (found : clash? tree registry id = some finding) : finding.severity = .warning := by
  obtain ⟨name, _, found⟩ := Option.bind_eq_some_iff.mp found
  obtain ⟨first, _, found⟩ := Option.bind_eq_some_iff.mp found
  split at found
  · cases found
  · cases found
    rfl

theorem severity_of_mem_clashes {registry : EnumRegistry} {uses : List NodeId} :
    ∀ finding ∈ uses.filterMap (clash? tree registry), finding.severity = .warning := by
  intro finding member
  obtain ⟨_, _, found⟩ := List.mem_filterMap.mp member
  exact severity_of_clash? tree found

end Bindery.EnumRegistry
