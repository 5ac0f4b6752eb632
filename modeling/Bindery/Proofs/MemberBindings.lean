import Bindery.Proofs.Draft
import Bindery.Proofs.EntryPoint
import Bindery.Proofs.Lowering

/-!
# Public members and their bindings

The bindings of a class, said by its public members alone.  An entry point
exists for every name of a method that lowers, and one exists for the
constructors.  For each number of arguments it calls the last declaration that
lowers, whatever stands before, between and after.
-/

namespace Bindery

namespace SymbolTree

variable (tree : SymbolTree) (owner : NodeId)

/-! ## Slots of functions -/

/-- A function of a class is bound to a slot, where its lowering is put. -/
structure BoundTo (slot : Slot) (function : NodeId) (overload : Overload) : Prop where
  kind : tree.memberKind owner function = .bindable slot.role
  name : entryName slot.role (tree.declaredName function) = slot.name
  arity : ((tree.parameters function).drop 1).length = slot.arity
  lowered : tree.lower owner function slot.role = .ok overload

/-- The last public member that is bound to a slot has the given lowering. -/
def LastBoundTo (slot : Slot) (overload : Overload) : Prop :=
  ∃ before function after,
    tree.publicMembers owner = before ++ function :: after ∧
      tree.BoundTo owner slot function overload ∧
      ∀ later ∈ after, ∀ other, ¬ tree.BoundTo owner slot later other

/-- The slot that a function of a class is bound to. -/
def slotOf? (function : NodeId) : Option Slot :=
  match tree.memberKind owner function with
  | .bindable role =>
      match tree.lower owner function role with
      | .ok _ =>
          some ⟨role, entryName role (tree.declaredName function),
            ((tree.parameters function).drop 1).length⟩
      | .error _ => none
  | .skipped _ | .rejected _ => none

/-- A function as the draft takes it into account. -/
def declaration (function : NodeId) : String × Verdict :=
  (tree.declaredName function, tree.verdict owner function)

theorem slot?_declaration (function : NodeId) :
    slot? (tree.declaration owner function) = tree.slotOf? owner function := by
  unfold slot? placed? declaration verdict slotOf?
  cases tree.memberKind owner function with
  | skipped kind => rfl
  | rejected reason => rfl
  | bindable role =>
      cases lowered : tree.lower owner function role with
      | error reason => simp [lowered]
      | ok overload => simp only [lowered, Option.map_some, arity_of_lower lowered]

theorem placedIn?_declaration_iff (slot : Slot) (function : NodeId) (overload : Overload) :
    placedIn? slot (tree.declaration owner function) = some overload ↔
      tree.BoundTo owner slot function overload := by
  unfold placedIn? placed? declaration verdict
  constructor
  · intro placed
    cases kind : tree.memberKind owner function with
    | skipped _ | rejected _ => simp [kind] at placed
    | bindable role =>
        cases lowered : tree.lower owner function role with
        | error reason => simp [kind, lowered] at placed
        | ok bound =>
            simp only [kind, lowered, Option.bind_some, Option.ite_none_right_eq_some,
              Option.some.injEq] at placed
            obtain ⟨rfl, rfl⟩ := placed
            exact ⟨kind, rfl, (arity_of_lower lowered).symm, lowered⟩
  · rintro ⟨kind, name, arity, lowered⟩
    rcases slot with ⟨role, slotName, slotArity⟩
    dsimp only at kind name arity lowered
    subst name arity
    simp [kind, lowered, arity_of_lower lowered]

theorem slotOf?_eq_some_iff (slot : Slot) (function : NodeId) :
    tree.slotOf? owner function = some slot ↔
      ∃ overload, tree.BoundTo owner slot function overload := by
  rw [← slot?_declaration, ← placedIn?_isSome_iff, Option.isSome_iff_exists]
  simp only [placedIn?_declaration_iff]

theorem verdicts_eq :
    tree.verdicts owner = (tree.publicMembers owner).map (tree.declaration owner) :=
  rfl

theorem lastIn?_verdicts_iff (slot : Slot) (overload : Overload) :
    lastIn? slot (tree.verdicts owner) = some overload ↔
      tree.LastBoundTo owner slot overload := by
  rw [lastIn?, verdicts_eq, ← List.map_reverse, List.findSome?_map, List.findSome?_eq_some_iff]
  simp only [Function.comp_apply, placedIn?_declaration_iff, Option.eq_none_iff_forall_ne_some,
    ne_eq]
  constructor
  · rintro ⟨after, function, before, split, bound, last⟩
    obtain ⟨before, after, split, last⟩ := exists_split_reverse_iff.mp ⟨after, before, split, last⟩
    exact ⟨before, function, after, split, bound, last⟩
  · rintro ⟨before, function, after, split, bound, last⟩
    obtain ⟨after, before, split, last⟩ := exists_split_reverse_iff.mpr ⟨before, after, split, last⟩
    exact ⟨after, function, before, split, bound, last⟩

end SymbolTree

/-! ## Entry points of a class -/

/-- The names of the methods among the entry points. -/
def ClassBindings.methodNames (bindings : ClassBindings) : List String :=
  (bindings.functions.filter fun function => function.role = .method).map FunctionBinding.name

namespace SymbolTree

variable (tree : SymbolTree) (owner : NodeId) (scriptName : String)

/-- The draft of a class. -/
def draft : Draft :=
  Draft.ofVerdicts scriptName (tree.verdicts owner)

theorem distinct_draft : (tree.draft owner scriptName).Distinct :=
  Draft.distinct_ofVerdicts scriptName (tree.verdicts owner)

theorem functions_bindings :
    (tree.bindings owner scriptName).1.functions =
      (tree.draft owner scriptName).keptMethods.map
          (tree.classNames owner scriptName).methodBinding ++
        [(tree.classNames owner scriptName).constructorBinding
          (tree.draft owner scriptName).constructors] :=
  rfl

theorem role_of_mem_map_methodBinding {names : ClassNames} {groups : List (String × OverloadSet)}
    {function : FunctionBinding} (member : function ∈ groups.map names.methodBinding) :
    function.role = .method := by
  obtain ⟨group, _, rfl⟩ := List.mem_map.mp member
  rfl

theorem methodNames_bindings :
    (tree.bindings owner scriptName).1.methodNames =
      (tree.draft owner scriptName).keptMethods.map Prod.fst := by
  rw [ClassBindings.methodNames, functions_bindings, List.filter_append, List.filter_eq_self.mpr]
  · simp [ClassNames.methodBinding, ClassNames.constructorBinding]
  · intro function member
    exact decide_eq_true (role_of_mem_map_methodBinding member)

/-- A group holds the lowerings of the last members bound to its slots. -/
theorem get?_group_draft_iff (name : String) (role : Role) (arity : Nat) (overload : Overload) :
    ((tree.draft owner scriptName).group name role).get? arity = some overload ↔
      tree.LastBoundTo owner ⟨role, entryName role name, arity⟩ overload := by
  rw [draft, Draft.get?_group_ofVerdicts, lastIn?_verdicts_iff]

theorem mem_keys_group_draft_iff (name : String) (role : Role) (arity : Nat) :
    arity ∈ ((tree.draft owner scriptName).group name role).keys ↔
      ∃ member ∈ tree.publicMembers owner, ∃ overload,
        tree.BoundTo owner ⟨role, entryName role name, arity⟩ member overload := by
  rw [← OrderedMap.contains_iff_mem_keys, draft, Draft.contains_group_ofVerdicts]
  simp only [← slotOf?_eq_some_iff, ← slot?_declaration, verdicts_eq, List.mem_map,
    exists_exists_and_eq_and]

/-- Every entry point calls the sorted group of its name and role. -/
theorem of_mem_functions {function : FunctionBinding}
    (member : function ∈ (tree.bindings owner scriptName).1.functions) :
    entryName function.role function.name = function.name ∧
      ∃ group, group = (tree.draft owner scriptName).group function.name function.role ∧
        function.arities = (OverloadSet.sorted group).keys ∧
        function.text = (tree.classNames owner scriptName).entryText function.role function.name
          (OverloadSet.sorted group) := by
  rw [functions_bindings, List.mem_append, List.mem_map, List.mem_singleton] at member
  rcases member with ⟨⟨name, group⟩, kept, rfl⟩ | rfl
  · have groupEq :=
      ((Draft.mem_keptMethods_iff (tree.distinct_draft owner scriptName) _ _).mp kept).1
    exact ⟨rfl, group, groupEq, rfl, rfl⟩
  · exact ⟨rfl, _, rfl, rfl, rfl⟩

end SymbolTree

end Bindery
