import Bindery.Proofs.EnumerationUses
import Bindery.Proofs.MemberBindings

/-!
# Members that stay bound

Of the public members that are bound to one slot the last one survives.  The
enumerations that a draft gathers are those that the survivors use.  They come
in the order of the entry points and, within an entry point, in the order in
which the numbers of arguments were first taken; a member that replaces another
one is met in its place.
-/

namespace Bindery.SymbolTree

section Survivors

variable (tree : SymbolTree) (owner : NodeId)

/-- A function is the last public member that is bound to a slot. -/
def Survives (slot : Slot) (function : NodeId) : Prop :=
  ∃ before after, tree.publicMembers owner = before ++ function :: after ∧
    tree.slotOf? owner function = some slot ∧
    ∀ later ∈ after, tree.slotOf? owner later ≠ some slot

/-- The last public member that is bound to a slot. -/
def survivor? (slot : Slot) : Option NodeId :=
  (tree.publicMembers owner).reverse.find? fun function =>
    tree.slotOf? owner function = some slot

/-- The enumerations that the survivors of an entry point use. -/
def entryEnumerations (role : Role) (name : String) : List NodeId :=
  (aritiesTaken role name ((tree.publicMembers owner).filterMap (tree.slotOf? owner))).flatMap
    fun arity => ((tree.survivor? owner ⟨role, name, arity⟩).map tree.enumerationUses).getD []

/-- The enumerations that the survivors of all entry points use. -/
def enumerationScan (functions : List FunctionBinding) : List NodeId :=
  functions.flatMap fun function => tree.entryEnumerations owner function.role function.name

end Survivors

variable {tree : SymbolTree} {owner : NodeId}

theorem survivor?_eq_some_iff (slot : Slot) (function : NodeId) :
    tree.survivor? owner slot = some function ↔ tree.Survives owner slot function := by
  rw [survivor?, List.find?_eq_some_iff_append]
  simp only [decide_eq_true_eq, Bool.not_eq_true', decide_eq_false_iff_not]
  constructor
  · rintro ⟨bound, split⟩
    obtain ⟨before, after, split, last⟩ := exists_split_reverse_iff.mp split
    exact ⟨before, after, split, bound, last⟩
  · rintro ⟨before, after, split, bound, last⟩
    exact ⟨bound, exists_split_reverse_iff.mpr ⟨before, after, split, last⟩⟩

theorem Survives.mem_publicMembers {slot : Slot} {function : NodeId}
    (survives : tree.Survives owner slot function) : function ∈ tree.publicMembers owner := by
  obtain ⟨before, after, split, _⟩ := survives
  rw [split]
  exact List.mem_append_right before List.mem_cons_self

theorem Survives.slotOf?_eq {slot : Slot} {function : NodeId}
    (survives : tree.Survives owner slot function) : tree.slotOf? owner function = some slot := by
  obtain ⟨_, _, _, bound, _⟩ := survives
  exact bound

theorem lastBoundTo_iff (slot : Slot) (overload : Overload) :
    tree.LastBoundTo owner slot overload ↔
      ∃ function, tree.Survives owner slot function ∧
        tree.BoundTo owner slot function overload := by
  simp only [LastBoundTo, Survives, ne_eq, slotOf?_eq_some_iff, not_exists]
  constructor
  · rintro ⟨before, function, after, split, bound, last⟩
    exact ⟨function, ⟨before, after, split, ⟨overload, bound⟩, last⟩, bound⟩
  · rintro ⟨function, ⟨before, after, split, _, last⟩, bound⟩
    exact ⟨before, function, after, split, bound, last⟩

/-! ## The enumerations of a draft -/

/-- What stands in a slot lists the enumerations that its survivor uses. -/
theorem map_enumerations_get?_group (scriptName name : String) (role : Role) (arity : Nat) :
    (((tree.draft owner scriptName).group name role).get? arity).map Overload.enumerations =
      (tree.survivor? owner ⟨role, entryName role name, arity⟩).map tree.enumerationUses := by
  cases found : tree.survivor? owner ⟨role, entryName role name, arity⟩ with
  | none =>
      have vacant : ((tree.draft owner scriptName).group name role).get? arity = none := by
        rw [Option.eq_none_iff_forall_ne_some]
        intro overload held
        rw [get?_group_draft_iff, lastBoundTo_iff] at held
        obtain ⟨function, survives, _⟩ := held
        rw [(survivor?_eq_some_iff ..).mpr survives] at found
        cases found
      rw [vacant]
      rfl
  | some function =>
      have survives := (survivor?_eq_some_iff ..).mp found
      obtain ⟨overload, bound⟩ := (slotOf?_eq_some_iff ..).mp survives.slotOf?_eq
      have held := (get?_group_draft_iff tree owner scriptName name role arity overload).mpr
        ((lastBoundTo_iff ..).mpr ⟨function, survives, bound⟩)
      rw [held, Option.map_some, Option.map_some, enumerations_of_lower bound.kind bound.lowered]

theorem filterMap_slot?_verdicts :
    (tree.verdicts owner).filterMap slot? =
      (tree.publicMembers owner).filterMap (tree.slotOf? owner) := by
  rw [verdicts_eq, List.filterMap_map]
  apply List.filterMap_congr
  intro function _
  exact tree.slot?_declaration owner function

theorem enumerations_group_draft (scriptName name : String) (role : Role) :
    (((tree.draft owner scriptName).group name role).values.flatMap Overload.enumerations) =
      tree.entryEnumerations owner role (entryName role name) := by
  have keys := Draft.keys_group_ofVerdicts scriptName (tree.verdicts owner) name role
  rw [filterMap_slot?_verdicts] at keys
  rw [OrderedMap.flatMap_values _ ((tree.distinct_draft owner scriptName).group name role),
    draft, keys, entryEnumerations]
  simp only [← map_enumerations_get?_group scriptName]
  rfl

/-- The enumerations of a draft are those that the survivors use. -/
theorem enumerations_draft (scriptName : String) :
    (tree.draft owner scriptName).enumerations =
      tree.enumerationScan owner (tree.bindings owner scriptName).1.functions := by
  rw [Draft.enumerations, enumerationScan, functions_bindings, List.flatMap_append,
    List.flatMap_append, List.flatMap_map, List.flatMap_map, List.flatMap_singleton,
    List.flatMap_singleton]
  congr 1
  · -- A kept group is the one that the draft has under its name.
    rw [List.flatMap_def, List.flatMap_def]
    congr 1
    apply List.map_congr_left
    rintro ⟨name, group⟩ kept
    have distinct := tree.distinct_draft owner scriptName
    rw [((Draft.mem_keptMethods_iff distinct name group).mp kept).1]
    exact enumerations_group_draft scriptName name .method
  · exact enumerations_group_draft scriptName constructorName .constructor

/-! ## Scanned enumerations -/

theorem mem_entryEnumerations_iff (role : Role) (name : String) (enumeration : NodeId) :
    enumeration ∈ tree.entryEnumerations owner role name ↔
      ∃ arity function, tree.Survives owner ⟨role, name, arity⟩ function ∧
        tree.UsesEnumeration function enumeration := by
  simp only [entryEnumerations, List.mem_flatMap, mem_aritiesTaken_iff, List.mem_filterMap]
  constructor
  · rintro ⟨arity, _, used⟩
    cases found : tree.survivor? owner ⟨role, name, arity⟩ with
    | none => simp [found] at used
    | some function =>
        rw [found, Option.map_some, Option.getD_some, mem_enumerationUses_iff] at used
        exact ⟨arity, function, (survivor?_eq_some_iff ..).mp found, used⟩
  · rintro ⟨arity, function, survives, used⟩
    refine ⟨arity, ⟨function, survives.mem_publicMembers, survives.slotOf?_eq⟩, ?_⟩
    rw [(survivor?_eq_some_iff ..).mpr survives, Option.map_some, Option.getD_some,
      mem_enumerationUses_iff]
    exact used

/-- Every slot that is taken belongs to an entry point of the bindings. -/
theorem exists_function_of_slotOf? {function : NodeId} {slot : Slot}
    (member : function ∈ tree.publicMembers owner)
    (bound : tree.slotOf? owner function = some slot) (scriptName : String) :
    ∃ entry ∈ (tree.bindings owner scriptName).1.functions,
      entry.role = slot.role ∧ entry.name = slot.name := by
  rcases slot with ⟨role, name, arity⟩
  obtain ⟨overload, boundTo⟩ := (slotOf?_eq_some_iff ..).mp bound
  rw [functions_bindings]
  cases role with
  | constructor =>
      exact ⟨_, List.mem_append_right _ (List.mem_singleton.mpr rfl), rfl, boundTo.name⟩
  | method =>
      have arityIn : arity ∈ ((tree.draft owner scriptName).group name .method).keys :=
        (mem_keys_group_draft_iff ..).mpr ⟨function, member, overload, boundTo⟩
      have kept : (name, (tree.draft owner scriptName).group name .method) ∈
          (tree.draft owner scriptName).keptMethods :=
        (Draft.mem_keptMethods_iff (tree.distinct_draft owner scriptName) _ _).mpr
          ⟨rfl, (OrderedMap.isEmpty_eq_false_iff _).mpr ⟨arity, arityIn⟩⟩
      exact ⟨_, List.mem_append_left _ (List.mem_map_of_mem kept), rfl, rfl⟩

theorem mem_enumerationScan_iff (scriptName : String) (enumeration : NodeId) :
    enumeration ∈ tree.enumerationScan owner (tree.bindings owner scriptName).1.functions ↔
      ∃ slot function, tree.Survives owner slot function ∧
        tree.UsesEnumeration function enumeration := by
  simp only [enumerationScan, List.mem_flatMap, mem_entryEnumerations_iff]
  constructor
  · rintro ⟨entry, _, arity, function, survives, used⟩
    exact ⟨_, function, survives, used⟩
  · rintro ⟨slot, function, survives, used⟩
    obtain ⟨entry, listed, role, name⟩ :=
      exists_function_of_slotOf? survives.mem_publicMembers survives.slotOf?_eq scriptName
    refine ⟨entry, listed, slot.arity, function, ?_, used⟩
    rw [role, name]
    exact survives

/-- No enumeration without a name is ever met. -/
theorem isSome_name_of_mem_enumerationScan {scriptName : String} {enumeration : NodeId}
    (member : enumeration ∈
      tree.enumerationScan owner (tree.bindings owner scriptName).1.functions) :
    (tree.node enumeration).name.isSome := by
  obtain ⟨_, _, _, used⟩ := (mem_enumerationScan_iff scriptName enumeration).mp member
  exact used.isSome_name

end Bindery.SymbolTree
