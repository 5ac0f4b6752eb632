import Bindery.Overload

/-!
# Lowering a declaration

What a lowering that succeeded says about the declaration.
-/

namespace Bindery

universe u v w

theorem bind_eq_ok_iff {ε : Type u} {α : Type v} {β : Type v} {first : Except ε α}
    {next : α → Except ε β} {result : β} :
    (first >>= next) = .ok result ↔ ∃ value, first = .ok value ∧ next value = .ok result := by
  cases first with
  | error problem => simp [bind, Except.bind]
  | ok value => simp [bind, Except.bind]

theorem ok_bind {ε : Type u} {α : Type v} {β : Type v} (value : α) (next : α → Except ε β) :
    (Except.ok value >>= next) = next value :=
  rfl

/-- What comes after a result matters only for results that are given. -/
theorem bind_congr_of_ok {ε : Type u} {α : Type v} {β : Type v} {first : Except ε α}
    {next other : α → Except ε β} (same : ∀ value, first = .ok value → next value = other value) :
    first >>= next = first >>= other := by
  cases result : first with
  | error problem => rfl
  | ok value => exact same value result

namespace SymbolTree

variable {tree : SymbolTree} {owner function : NodeId} {role : Role} {overload : Overload}

/-! ## Parameters -/

/-- What the lowering of some parameters makes of the first one and of the rest. -/
theorem exists_of_lowerParameters_cons {index : Nat} {parameter : NodeId} {rest : List NodeId}
    {plans : List ArgumentPlan} {enumerations : List NodeId}
    (lowered : tree.lowerParameters index (parameter :: rest) = .ok (plans, enumerations)) :
    ∃ native plan restPlans restEnumerations,
      tree.nativeType (tree.node parameter).link = .ok native ∧
      tree.argumentPlan native index = .ok plan ∧
      tree.lowerParameters (index + 1) rest = .ok (restPlans, restEnumerations) ∧
      plans = plan :: restPlans ∧ enumerations = enumerationOf native ++ restEnumerations := by
  rw [lowerParameters, bind_eq_ok_iff] at lowered
  obtain ⟨native, typed, lowered⟩ := lowered
  obtain ⟨plan, planned, lowered⟩ := bind_eq_ok_iff.mp lowered
  obtain ⟨⟨restPlans, restEnumerations⟩, loweredRest, equal⟩ := bind_eq_ok_iff.mp lowered
  cases equal
  exact ⟨native, plan, restPlans, restEnumerations, typed, planned, loweredRest, rfl, rfl⟩

/-- Every parameter gets one plan. -/
theorem length_of_lowerParameters {index : Nat} {parameters : List NodeId}
    {plans : List ArgumentPlan} {enumerations : List NodeId}
    (lowered : tree.lowerParameters index parameters = .ok (plans, enumerations)) :
    plans.length = parameters.length := by
  induction parameters generalizing index plans enumerations with
  | nil =>
      cases lowered
      rfl
  | cons parameter rest ih =>
      obtain ⟨_, _, _, _, _, _, loweredRest, rfl, _⟩ := exists_of_lowerParameters_cons lowered
      simp [ih loweredRest]

/-! ## Declarations -/

/-- What a lowering was made of: the parameters after the receiver and, for a
method, its name and the plan for its result. -/
theorem cases_of_lower (lowered : tree.lower owner function role = .ok overload) :
    ∃ plans enumerations,
      tree.lowerParameters 0 ((tree.parameters function).drop 1) = .ok (plans, enumerations) ∧
      ((role = .constructor ∧
          overload = { arguments := plans, result := none, enumerations }) ∨
        role = .method ∧ ∃ name native plan,
          (tree.node function).name = some name ∧
          tree.nativeType (tree.node function).link = .ok native ∧
          tree.resultPlan owner native (methodCall name plans.length) = .ok plan ∧
          overload = {
            arguments := plans
            result := some plan
            enumerations := enumerations ++ enumerationOf native }) := by
  rw [lower, bind_eq_ok_iff] at lowered
  obtain ⟨⟨plans, enumerations⟩, loweredParameters, lowered⟩ := lowered
  refine ⟨plans, enumerations, loweredParameters, ?_⟩
  cases role with
  | constructor =>
      cases lowered
      exact Or.inl ⟨rfl, rfl⟩
  | method =>
      cases named : (tree.node function).name with
      | none => simp [named] at lowered
      | some name =>
          simp only [named, bind_eq_ok_iff] at lowered
          obtain ⟨native, typed, plan, planned, equal⟩ := lowered
          cases equal
          exact Or.inr ⟨rfl, name, native, plan, rfl, typed, planned, rfl⟩

/-- A script call takes one argument for each parameter after the receiver. -/
theorem arity_of_lower (lowered : tree.lower owner function role = .ok overload) :
    overload.arity = ((tree.parameters function).drop 1).length := by
  obtain ⟨plans, _, loweredParameters, ⟨_, rfl⟩ | ⟨_, _, _, _, _, _, _, rfl⟩⟩ :=
    cases_of_lower lowered
  · exact length_of_lowerParameters loweredParameters
  · exact length_of_lowerParameters loweredParameters

/-! ## Returns -/

/-- Only a pointer to the owner is returned, tested and then wrapped. -/
theorem exists_of_giveBack_handle {native : NativeType} {node : NodeId} {back : List Statement}
    (category : native.category = .handle node) (given : tree.giveBack owner native = .ok back) :
    tree.sameRecord node owner = true ∧ ∃ record, tree.spelling node = .ok record ∧
      back = [.returnNullIfNull, .returnWrapped (wrappedPointer native record)] := by
  simp only [giveBack, category] at given
  split at given
  · rename_i same
    obtain ⟨record, spelled, given⟩ := bind_eq_ok_iff.mp given
    cases given
    exact ⟨same, record, spelled, rfl⟩
  · cases given

/-- Only an object of the owner is returned, in a copy that is wrapped. -/
theorem exists_of_giveBack_object {native : NativeType} {node : NodeId} {back : List Statement}
    (category : native.category = .object node) (given : tree.giveBack owner native = .ok back) :
    tree.sameRecord node owner = true ∧ ∃ record, tree.spelling node = .ok record ∧
      back = [.returnWrapped (.copy record)] := by
  simp only [giveBack, category] at given
  split at given
  · rename_i same
    obtain ⟨record, spelled, given⟩ := bind_eq_ok_iff.mp given
    cases given
    exact ⟨same, record, spelled, rfl⟩
  · cases given

end SymbolTree

end Bindery
