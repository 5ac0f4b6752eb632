import Bindery.Proofs.EntryPieces
import Bindery.Proofs.Plans

/-!
# The parts of bodies

The body of an overload is told apart by its native call: what makes the native
values stands before it, and what undoes the conversions and gives the result
back stands after it.  Methods and constructors have bodies of one form.
-/

namespace Bindery

/-- A body, told apart by its native call. -/
structure BodyParts where
  /-- What makes the native values of the arguments. -/
  before : List Statement
  call : Statement
  /-- What undoes the conversions. -/
  undo : List Statement
  /-- What gives the result back. -/
  back : List Statement

namespace BodyParts

/-- The statements from the native call on. -/
def fromCall (parts : BodyParts) : List Statement :=
  parts.call :: (parts.undo ++ parts.back)

/-- All statements of a body. -/
def all (parts : BodyParts) : List Statement :=
  parts.before ++ parts.fromCall

/-- The pieces in which a body is written.  A blank line may stand before the
native call. -/
def Written (parts : BodyParts) (pieces : List Code) : Prop :=
  ∃ gap : List Code, (∀ piece ∈ gap, piece = .blank) ∧
    pieces = parts.before.map Statement.code ++ (gap ++ parts.fromCall.map Statement.code)

/-- The body made of the plans of its arguments, a call and a return. -/
def ofPlans (plans : List ArgumentPlan) (call : Statement) (back : List Statement) : BodyParts where
  before := plans.flatMap ArgumentPlan.conversion
  call := call
  undo := plans.flatMap ArgumentPlan.cleanup
  back := back

theorem written_method {overload : Overload} {call : Statement} {back : List Statement}
    (result : overload.result = some ⟨[call], back⟩) (names : ClassNames) (alone : Bool) :
    (ofPlans overload.arguments call back).Written (names.bodyCode .method alone overload) := by
  refine ⟨if overload.arguments.isEmpty then [] else [.blank], ?_, ?_⟩
  · intro piece member
    split at member
    · cases member
    · exact List.mem_singleton.mp member
  · simp only [ClassNames.bodyCode, Overload.callAndReturn, result,
      Overload.conversions, Overload.cleanups, ofPlans, fromCall, List.nil_append,
      List.append_assoc, List.cons_append]

/-- The statement with which a constructor makes a native object. -/
def making (names : ClassNames) (alone : Bool) (overload : Overload) : Statement :=
  if alone then .declareNew names.native overload.arity
  else .assignNew names.native overload.arity

variable {tree : SymbolTree} {parameters : List NodeId} {plans : List ArgumentPlan}
  {call : Statement} {back : List Statement} {statement : Statement}

/-- The statements before and after the call are those of the plans. -/
theorem mem_plans_of_mem (member : statement ∈ (ofPlans plans call back).before ∨
      statement ∈ (ofPlans plans call back).undo) :
    statement ∈ plans.flatMap fun plan => plan.conversion ++ plan.cleanup := by
  rcases member with before | undo
  · obtain ⟨plan, inPlans, here⟩ := List.mem_flatMap.mp before
    exact List.mem_flatMap.mpr ⟨plan, inPlans, List.mem_append_left _ here⟩
  · obtain ⟨plan, inPlans, here⟩ := List.mem_flatMap.mp undo
    exact List.mem_flatMap.mpr ⟨plan, inPlans, List.mem_append_right _ here⟩

theorem argument?_of_mem (planned : tree.Planned 0 parameters plans)
    (member : statement ∈ (ofPlans plans call back).before ∨
      statement ∈ (ofPlans plans call back).undo) :
    ∃ index, statement.argument? = some index := by
  obtain ⟨index, _, about⟩ := planned.argument?_of_mem (mem_plans_of_mem member)
  exact ⟨index, about⟩

/-- A statement of a body is one of a plan, calls native code or gives the result
back. -/
theorem mem_all (member : statement ∈ (ofPlans plans call back).all) :
    statement ∈ (plans.flatMap fun plan => plan.conversion ++ plan.cleanup) ∨
      statement = call ∨ statement ∈ back := by
  rcases List.mem_append.mp member with before | fromCall
  · exact Or.inl (mem_plans_of_mem (Or.inl before))
  · rcases List.mem_cons.mp fromCall with isCall | after
    · exact Or.inr (Or.inl isCall)
    · rcases List.mem_append.mp after with undo | inBack
      · exact Or.inl (mem_plans_of_mem (Or.inr undo))
      · exact Or.inr (Or.inr inBack)

end BodyParts

/-! ## Statements of an overload -/

/-- The statements of one overload. -/
def ClassNames.statements (names : ClassNames) :
    Role → (alone : Bool) → Overload → List Statement
  | .method, _, overload => overload.methodBody
  | .constructor, alone, overload => overload.construction names.native alone

theorem ClassNames.statements_method {overload : Overload} {call : Statement}
    {back : List Statement} (result : overload.result = some ⟨[call], back⟩) (names : ClassNames)
    (alone : Bool) : names.statements .method alone overload =
      (BodyParts.ofPlans overload.arguments call back).all := by
  simp only [statements, Overload.methodBody, Overload.callAndReturn, result,
    List.singleton_append]
  rfl

theorem ClassNames.statements_constructor (overload : Overload) (names : ClassNames)
    (alone : Bool) : names.statements .constructor alone overload =
      (BodyParts.ofPlans overload.arguments (BodyParts.making names alone overload) []).all := by
  simp only [statements, Overload.construction, List.append_assoc, List.singleton_append,
    BodyParts.all, BodyParts.fromCall, BodyParts.ofPlans, List.append_nil]
  rfl

/-- A statement of a bound member is one of a plan, makes the object of a
constructor, or calls a method or gives its result back. -/
theorem SymbolTree.BoundTo.cases_of_mem_statements {tree : SymbolTree} {owner : NodeId}
    {slot : Slot} {function : NodeId} {overload : Overload}
    (bound : tree.BoundTo owner slot function overload) {names : ClassNames} {alone : Bool}
    {statement : Statement} (member : statement ∈ names.statements slot.role alone overload) :
    (statement ∈ overload.arguments.flatMap fun plan => plan.conversion ++ plan.cleanup) ∨
      statement = BodyParts.making names alone overload ∨
      slot.role = .method ∧ ∃ name native back,
        (tree.node function).name = some name ∧
        tree.nativeType (tree.node function).link = .ok native ∧
        tree.giveBack owner native = .ok back ∧
        overload.result = some ⟨[callOf native (methodCall name overload.arity)], back⟩ ∧
        (statement = callOf native (methodCall name overload.arity) ∨ statement ∈ back) := by
  rcases slot with ⟨role, name, arity⟩
  cases role with
  | constructor =>
      rw [ClassNames.statements_constructor] at member
      rcases BodyParts.mem_all member with inPlans | making | inBack
      · exact Or.inl inPlans
      · exact Or.inr (Or.inl making)
      · cases inBack
  | method =>
      obtain ⟨declared, native, back, named, typed, given, result⟩ := result_of_lower bound.lowered
      rw [ClassNames.statements_method result] at member
      rcases BodyParts.mem_all member with inPlans | ofMethod
      · exact Or.inl inPlans
      · exact Or.inr (Or.inr ⟨rfl, declared, native, back, named, typed, given, result, ofMethod⟩)

end Bindery
