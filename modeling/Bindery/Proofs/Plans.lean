import Bindery.Proofs.Lowering

/-!
# What plans are made of

A plan speaks of its own argument only.  It declares the native value once, in
the conversion, and what it does with the buffer of a script string depends on
the category alone.  The call and the return are left to the result plan, so the
parts of a body can be told apart by their statements.
-/

namespace Bindery

/-! ## Statements -/

namespace Statement

/-- The argument that a statement is about. -/
def argument? : Statement → Option Nat
  | .bindNumber index _ | .bindBoolean index | .measureString index | .allocateBuffer index
  | .fillBuffer index | .terminateBuffer index | .bindOwnedString index _ | .bindCString index _
  | .freeBuffer index | .declareHandle index | .readHandle index | .bindPointer index _
  | .bindReference index _ => some index
  | .call _ | .callFor _ _ | .declareNew _ _ | .assignNew _ _ | .returnNullIfNull
  | .returnUndefined | .returnNumber | .returnBoolean | .returnOwnedString | .returnCString
  | .returnWrapped _ => none

/-- Whether a statement declares the native value of an argument. -/
def declares (index : Nat) : Statement → Bool
  | .bindNumber i _ | .bindBoolean i | .bindOwnedString i _ | .bindCString i _
  | .bindPointer i _ | .bindReference i _ => i = index
  | _ => false

/-- Whether a statement allocates or frees the buffer of an argument. -/
def managesBuffer (index : Nat) : Statement → Bool
  | .allocateBuffer i | .freeBuffer i => i = index
  | _ => false

/-- Whether a statement wraps an object. -/
def wraps : Statement → Bool
  | .returnWrapped _ => true
  | _ => false

/-- Whether a statement ends its body on some path. -/
def mayReturn (statement : Statement) : Bool :=
  statement = .returnNullIfNull || statement.returns

variable {statement : Statement} {index : Nat}

end Statement

/-! ## The plan of an argument -/

/-- The kind of script values that an argument of a category has to be.  No
argument is void. -/
def Category.scriptType? : Category → Option ScriptType
  | .void => none
  | .numeric | .enumeration _ => some .number
  | .boolean => some .boolean
  | .ownedString | .cString => some .string
  | .handle _ | .byReference _ | .object _ => some .object

/-- What the plan of the argument at an index does, by the category of its
type. -/
structure ArgumentPlan.Serves (plan : ArgumentPlan) (category : Category) (index : Nat) :
    Prop where
  check : category.scriptType? = some plan.check
  about : ∀ statement ∈ plan.conversion ++ plan.cleanup, statement.argument? = some index
  /-- The conversion declares the native value once, the cleanup does not. -/
  declares : plan.conversion.countP (Statement.declares index) = 1
  declares_cleanup : plan.cleanup.countP (Statement.declares index) = 0
  frees : ∀ statement ∈ plan.cleanup, statement = .freeBuffer index
  /-- The buffer of a string object is freed as soon as the string is made. -/
  ownedString : category = .ownedString →
    plan.conversion.filter (Statement.managesBuffer index) =
        [.allocateBuffer index, .freeBuffer index] ∧
      plan.cleanup.filter (Statement.managesBuffer index) = []
  /-- The buffer of a C string is freed in the cleanup. -/
  cString : category = .cString →
    plan.conversion.filter (Statement.managesBuffer index) = [.allocateBuffer index] ∧
      plan.cleanup.filter (Statement.managesBuffer index) = [.freeBuffer index]
  other : category ≠ .ownedString → category ≠ .cString →
    plan.conversion.filter (Statement.managesBuffer index) = [] ∧
      plan.cleanup.filter (Statement.managesBuffer index) = []

namespace SymbolTree

variable {tree : SymbolTree}

theorem serves_of_argumentPlan {native : NativeType} {index : Nat} {plan : ArgumentPlan}
    (planned : tree.argumentPlan native index = .ok plan) :
    plan.Serves native.category index := by
  unfold argumentPlan at planned
  cases category : native.category with
  | void => simp [category] at planned
  | numeric | boolean | ownedString | cString | enumeration node | handle node =>
      simp only [category, Except.ok.injEq] at planned
      subst planned
      constructor <;>
        simp [Category.scriptType?, bufferString, readPointer, Statement.argument?,
          Statement.declares, Statement.managesBuffer]
  | byReference node | object node =>
      simp only [category, bind_eq_ok_iff] at planned
      obtain ⟨record, _, planned⟩ := planned
      cases planned
      constructor <;>
        simp [Category.scriptType?, readPointer, Statement.argument?, Statement.declares,
          Statement.managesBuffer]

/-! ## The plans of all arguments -/

/-- Plans made of parameters, of which the first is the argument at an index. -/
inductive Planned (tree : SymbolTree) : Nat → List NodeId → List ArgumentPlan → Prop
  | nil {index : Nat} : Planned tree index [] []
  | cons {index : Nat} {parameter : NodeId} {rest : List NodeId} {native : NativeType}
      {plan : ArgumentPlan} {plans : List ArgumentPlan}
      (typed : tree.nativeType (tree.node parameter).link = .ok native)
      (planned : tree.argumentPlan native index = .ok plan)
      (others : Planned tree (index + 1) rest plans) :
      Planned tree index (parameter :: rest) (plan :: plans)

theorem planned_of_lowerParameters {index : Nat} {parameters enumerations : List NodeId}
    {plans : List ArgumentPlan}
    (lowered : tree.lowerParameters index parameters = .ok (plans, enumerations)) :
    tree.Planned index parameters plans := by
  induction parameters generalizing index plans enumerations with
  | nil =>
      cases lowered
      exact .nil
  | cons parameter rest ih =>
      obtain ⟨_, _, _, _, typed, planned, loweredRest, rfl, _⟩ :=
        exists_of_lowerParameters_cons lowered
      exact .cons typed planned (ih loweredRest)

namespace Planned

variable {start index : Nat} {parameters : List NodeId} {plans : List ArgumentPlan}

theorem length_eq (planned : tree.Planned start parameters plans) :
    plans.length = parameters.length := by
  induction planned with
  | nil => rfl
  | cons _ _ _ ih => rw [List.length_cons, List.length_cons, ih]

/-- Each plan serves the parameter at its own place. -/
theorem getElem? (planned : tree.Planned start parameters plans) {parameter : NodeId}
    (here : parameters[index]? = some parameter) :
    ∃ native plan, plans[index]? = some plan ∧
      tree.nativeType (tree.node parameter).link = .ok native ∧
      tree.argumentPlan native (start + index) = .ok plan := by
  induction planned generalizing index with
  | nil => simp at here
  | cons typed planned others ih =>
      cases index with
      | zero =>
          cases here
          exact ⟨_, _, rfl, typed, planned⟩
      | succ index =>
          obtain ⟨native, plan, at_, typed, planned⟩ := ih here
          refine ⟨native, plan, at_, typed, ?_⟩
          rwa [← Nat.add_right_comm] at planned

theorem argument?_of_mem (planned : tree.Planned start parameters plans) {statement : Statement}
    (member : statement ∈ plans.flatMap (fun plan => plan.conversion ++ plan.cleanup)) :
    ∃ index, start ≤ index ∧ statement.argument? = some index := by
  induction planned with
  | nil => cases member
  | cons _ planned _ ih =>
      rw [List.flatMap_cons, List.mem_append] at member
      rcases member with first | later
      · exact ⟨_, Nat.le_refl _, (serves_of_argumentPlan planned).about _ first⟩
      · obtain ⟨index, above, about⟩ := ih later
        exact ⟨index, Nat.le_of_succ_le above, about⟩

/-- Of all plans only that of an argument has statements about it. -/
theorem filter_flatMap (planned : tree.Planned start parameters plans)
    {part : ArgumentPlan → List Statement} {keep : Statement → Bool} {plan : ArgumentPlan}
    (within : ∀ plan, part plan ⊆ plan.conversion ++ plan.cleanup)
    (about : ∀ statement, keep statement = true → statement.argument? = some (start + index))
    (here : plans[index]? = some plan) :
    (plans.flatMap part).filter keep = (part plan).filter keep := by
  induction planned generalizing index with
  | nil => simp at here
  | @cons start _ _ _ first rest _ planned others ih =>
      rw [List.flatMap_cons, List.filter_append]
      cases index with
      | zero =>
          cases here
          have restEmpty : (rest.flatMap part).filter keep = [] := by
            rw [List.filter_eq_nil_iff]
            intro statement member kept
            obtain ⟨other, inOther, inPart⟩ := List.mem_flatMap.mp member
            obtain ⟨place, above, placed⟩ := others.argument?_of_mem
              (List.mem_flatMap.mpr ⟨other, inOther, within other inPart⟩)
            have same := Option.some.inj (placed.symm.trans (about statement kept))
            omega
          rw [restEmpty, List.append_nil]
      | succ index =>
          have firstEmpty : (part first).filter keep = [] := by
            rw [List.filter_eq_nil_iff]
            intro statement member kept
            have placed := (serves_of_argumentPlan planned).about statement (within first member)
            have same := Option.some.inj (placed.symm.trans (about statement kept))
            omega
          rw [firstEmpty, List.nil_append]
          apply ih _ here
          intro statement kept
          rw [about statement kept, Nat.add_right_comm]
          rfl

end Planned

/-! ## The plan of a result -/

/-- The statement that calls a native function with a type of result. -/
def callOf (native : NativeType) (expression : String) : Statement :=
  if native.category = .void then .call expression else .callFor native.spelling expression

/-- Every return ends in a statement that returns.  Before it there is at most
the test for a null pointer. -/
theorem exists_returns_of_giveBack {owner : NodeId} {native : NativeType} {back : List Statement}
    (given : tree.giveBack owner native = .ok back) :
    ∃ last : Statement, last.returns = true ∧
      (back = [last] ∨ back = [.returnNullIfNull, last]) := by
  cases category : native.category with
  | void | numeric | boolean | ownedString | enumeration node =>
      simp only [giveBack, category, Except.ok.injEq] at given
      exact ⟨_, rfl, Or.inl given.symm⟩
  | cString =>
      simp only [giveBack, category, Except.ok.injEq] at given
      exact ⟨_, rfl, Or.inr given.symm⟩
  | byReference node => simp [giveBack, category] at given
  | handle node =>
      obtain ⟨_, _, _, rfl⟩ := exists_of_giveBack_handle category given
      exact ⟨_, rfl, Or.inr rfl⟩
  | object node =>
      obtain ⟨_, _, _, rfl⟩ := exists_of_giveBack_object category given
      exact ⟨_, rfl, Or.inl rfl⟩

theorem mayReturn_of_mem_giveBack {owner : NodeId} {native : NativeType} {back : List Statement}
    (given : tree.giveBack owner native = .ok back) {statement : Statement}
    (member : statement ∈ back) : statement.mayReturn = true := by
  obtain ⟨last, returns, shape⟩ := exists_returns_of_giveBack given
  have lastMay : last.mayReturn = true := by
    rw [Statement.mayReturn, returns, Bool.or_true]
  rcases shape with rfl | rfl
  · exact List.mem_singleton.mp member ▸ lastMay
  · rcases List.mem_cons.mp member with rfl | isLast
    · rfl
    · exact List.mem_singleton.mp isLast ▸ lastMay

/-! ## Lowered declarations -/

theorem planned_of_lower {owner function : NodeId} {role : Role} {overload : Overload}
    (lowered : tree.lower owner function role = .ok overload) :
    tree.Planned 0 ((tree.parameters function).drop 1) overload.arguments := by
  obtain ⟨plans, _, loweredParameters, ⟨_, rfl⟩ | ⟨_, _, _, _, _, _, _, rfl⟩⟩ :=
    cases_of_lower lowered
  · exact planned_of_lowerParameters loweredParameters
  · exact planned_of_lowerParameters loweredParameters

/-- A method that lowers has a name and a type that can be returned.  Its call
passes all arguments. -/
theorem result_of_lower {owner function : NodeId} {overload : Overload}
    (lowered : tree.lower owner function .method = .ok overload) :
    ∃ name native back,
      (tree.node function).name = some name ∧
      tree.nativeType (tree.node function).link = .ok native ∧
      tree.giveBack owner native = .ok back ∧
      overload.result = some ⟨[callOf native (methodCall name overload.arity)], back⟩ := by
  obtain ⟨_, _, _, ⟨isConstructor, _⟩ | ⟨_, name, native, plan, named, typed, planned, rfl⟩⟩ :=
    cases_of_lower lowered
  · cases isConstructor
  · rw [resultPlan, bind_eq_ok_iff] at planned
    obtain ⟨back, given, equal⟩ := planned
    cases equal
    exact ⟨name, native, back, named, typed, given, rfl⟩

end SymbolTree

end Bindery
