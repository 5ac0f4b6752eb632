import Bindery.Proofs.MemberBindings
import Bindery.Proofs.Payload
import Bindery.Proofs.Reports

/-!
# Which declarations can be bound

Whether a declaration can be bound is a matter of its types alone.  The plans
for arguments and results never fail for a reason of their own: what they have
to spell again was spelled when the type was read.

Of several reasons the first one counts, parameters before the result.
-/

namespace Bindery

namespace SymbolTree

section Conditions

variable (tree : SymbolTree)

/-- The type of a parameter can be that of an argument. -/
def AcceptsParameter (parameter : NodeId) : Prop :=
  ∃ native, tree.nativeType (tree.node parameter).link = .ok native ∧ native.category ≠ .void

/-- Why the type of a parameter cannot be that of the argument at an index. -/
def RefusesParameter (index : Nat) (parameter : NodeId) (reason : Unbindable) : Prop :=
  tree.nativeType (tree.node parameter).link = .error reason ∨
    (∃ native, tree.nativeType (tree.node parameter).link = .ok native ∧
      native.category = .void) ∧ reason = .missingParameterType index

/-- Values of a category can be returned by the members of a class.  Records
can if they are the class itself, of which a dump may hold several nodes. -/
def Returnable (owner : NodeId) : Category → Prop
  | .byReference _ => False
  | .handle record | .object record =>
      record = owner ∨
        ∃ name, tree.qualifiedName? record = some name ∧ tree.qualifiedName? owner = some name
  | .void | .numeric | .boolean | .ownedString | .cString | .enumeration _ => True

/-- The type of a function can be that of its result. -/
def AcceptsResult (owner function : NodeId) : Prop :=
  ∃ native, tree.nativeType (tree.node function).link = .ok native ∧
    tree.Returnable owner native.category

/-- Why the type of a function cannot be that of its result. -/
def RefusesResult (owner function : NodeId) (reason : Unbindable) : Prop :=
  tree.nativeType (tree.node function).link = .error reason ∨
    ∃ native, tree.nativeType (tree.node function).link = .ok native ∧
      ¬ tree.Returnable owner native.category ∧ reason = .unsupportedReturn native.spelling

/-- Parameters and, for a method, the result have types that can be bound. -/
def AcceptsTypes (owner function : NodeId) (role : Role) : Prop :=
  (∀ parameter ∈ (tree.parameters function).drop 1, tree.AcceptsParameter parameter) ∧
    (role = .method → tree.AcceptsResult owner function)

/-- The first parameter whose type cannot be bound gives the reason. -/
def RefusesParameters (parameters : List NodeId) (reason : Unbindable) : Prop :=
  ∃ before parameter after, parameters = before ++ parameter :: after ∧
    (∀ earlier ∈ before, tree.AcceptsParameter earlier) ∧
    tree.RefusesParameter before.length parameter reason

/-- Why the types of a function cannot be bound.  The type of the result gives
the reason only after those of all parameters. -/
def RefusesTypes (owner function : NodeId) (role : Role) (reason : Unbindable) : Prop :=
  tree.RefusesParameters ((tree.parameters function).drop 1) reason ∨
    (∀ parameter ∈ (tree.parameters function).drop 1, tree.AcceptsParameter parameter) ∧
      role = .method ∧ tree.RefusesResult owner function reason

end Conditions

variable {tree : SymbolTree}

/-! ## Plans -/

/-- Every type but `void` has a plan for an argument. -/
theorem exists_argumentPlan {link : Link} {native : NativeType}
    (found : tree.nativeType link = .ok native) (filled : native.category ≠ .void)
    (index : Nat) : ∃ plan, tree.argumentPlan native index = .ok plan := by
  unfold argumentPlan
  cases category : native.category with
  | void => exact absurd category filled
  | numeric | boolean | ownedString | cString | enumeration | handle => exact ⟨_, rfl⟩
  | byReference record =>
      obtain ⟨spelling, spells⟩ := exists_spelling_of_nativeType found (Or.inr category)
      simp only [spells]
      exact ⟨_, rfl⟩
  | object record =>
      obtain ⟨spelling, spells⟩ := exists_spelling_of_nativeType found (Or.inl category)
      simp only [spells]
      exact ⟨_, rfl⟩

theorem argumentPlan_of_void {native : NativeType} (void : native.category = .void)
    (index : Nat) : tree.argumentPlan native index = .error (.missingParameterType index) := by
  unfold argumentPlan
  rw [void]

theorem sameRecord_iff {first second : NodeId} :
    tree.sameRecord first second = true ↔ first = second ∨
      ∃ name, tree.qualifiedName? first = some name ∧ tree.qualifiedName? second = some name := by
  unfold sameRecord
  cases tree.qualifiedName? first <;> simp

/-- The class itself can be spelled, whichever of its nodes a type names. -/
theorem exists_spelling_of_sameRecord {owner record : NodeId}
    (named : (tree.node owner).name.isSome) (isRecord : (tree.node record).tag.isRecord = true)
    (same : tree.sameRecord record owner = true) :
    ∃ spelling, tree.spelling record = .ok spelling := by
  apply exists_spelling_of_isRecord isRecord
  rcases sameRecord_iff.mp same with rfl | ⟨name, qualifies, _⟩
  · exact named
  · exact (isSome_qualifiedName?_iff record).mp (Option.isSome_of_eq_some qualifies)

theorem exists_resultPlan {owner : NodeId} {link : Link} {native : NativeType}
    (found : tree.nativeType link = .ok native) (named : (tree.node owner).name.isSome)
    (returnable : tree.Returnable owner native.category) (expression : String) :
    ∃ plan, tree.resultPlan owner native expression = .ok plan := by
  suffices given : ∃ statements, tree.giveBack owner native = .ok statements by
    obtain ⟨statements, given⟩ := given
    rw [resultPlan, given]
    exact ⟨_, rfl⟩
  unfold giveBack
  cases category : native.category with
  | void | numeric | boolean | ownedString | cString | enumeration => exact ⟨_, rfl⟩
  | byReference =>
      rw [category] at returnable
      exact returnable.elim
  | handle record | object record =>
      rw [category] at returnable
      have same := sameRecord_iff.mpr returnable
      obtain ⟨spelling, spells⟩ := exists_spelling_of_sameRecord named
        (isRecord_of_nativeType found (by rw [category]; rfl)) same
      simp only [same, if_true, spells]
      exact ⟨_, rfl⟩

theorem resultPlan_of_not_returnable {owner : NodeId} {native : NativeType}
    (refused : ¬ tree.Returnable owner native.category) (expression : String) :
    tree.resultPlan owner native expression = .error (.unsupportedReturn native.spelling) := by
  suffices given : tree.giveBack owner native = .error (.unsupportedReturn native.spelling) by
    rw [resultPlan, given]
    rfl
  unfold giveBack
  cases category : native.category with
  | void | numeric | boolean | ownedString | cString | enumeration =>
      rw [category] at refused
      exact absurd trivial refused
  | byReference => rfl
  | handle record | object record =>
      rw [category] at refused
      have different : ¬ tree.sameRecord record owner = true :=
        fun same => refused (sameRecord_iff.mp same)
      simp only [different, Bool.false_eq_true, if_false]

/-! ## Parameters -/

theorem lowerParameters_of_refused {index : Nat} {parameter : NodeId} {reason : Unbindable}
    (refused : tree.RefusesParameter index parameter reason) (rest : List NodeId) :
    tree.lowerParameters index (parameter :: rest) = .error reason := by
  rw [lowerParameters]
  rcases refused with failed | ⟨⟨native, found, void⟩, rfl⟩
  · rw [failed]
    rfl
  · rw [found, ok_bind, argumentPlan_of_void void]
    rfl

/-- A parameter that is accepted leaves the matter to those after it. -/
theorem lowerParameters_of_accepted {parameter : NodeId}
    (accepted : tree.AcceptsParameter parameter) (index : Nat) (rest : List NodeId) :
    ∃ plan enumerations, tree.lowerParameters index (parameter :: rest) =
      (tree.lowerParameters (index + 1) rest).map fun lowered =>
        (plan :: lowered.1, enumerations ++ lowered.2) := by
  obtain ⟨native, found, filled⟩ := accepted
  obtain ⟨plan, planned⟩ := exists_argumentPlan found filled index
  refine ⟨plan, enumerationOf native, ?_⟩
  rw [lowerParameters, found, ok_bind, planned, ok_bind]
  cases tree.lowerParameters (index + 1) rest <;> rfl

theorem exists_lowerParameters {parameters : List NodeId}
    (accepted : ∀ parameter ∈ parameters, tree.AcceptsParameter parameter) (index : Nat) :
    ∃ lowered, tree.lowerParameters index parameters = .ok lowered := by
  induction parameters generalizing index with
  | nil => exact ⟨_, rfl⟩
  | cons parameter rest ih =>
      obtain ⟨first, others⟩ := List.forall_mem_cons.mp accepted
      obtain ⟨plan, enumerations, step⟩ := lowerParameters_of_accepted first index rest
      obtain ⟨lowered, loweredRest⟩ := ih others (index + 1)
      rw [step, loweredRest]
      exact ⟨_, rfl⟩

theorem lowerParameters_of_first_refused {before after : List NodeId} {parameter : NodeId}
    {index : Nat} {reason : Unbindable}
    (accepted : ∀ earlier ∈ before, tree.AcceptsParameter earlier)
    (refused : tree.RefusesParameter (index + before.length) parameter reason) :
    tree.lowerParameters index (before ++ parameter :: after) = .error reason := by
  induction before generalizing index with
  | nil => exact lowerParameters_of_refused refused after
  | cons earlier rest ih =>
      obtain ⟨first, others⟩ := List.forall_mem_cons.mp accepted
      obtain ⟨plan, enumerations, step⟩ :=
        lowerParameters_of_accepted first index (rest ++ parameter :: after)
      rw [List.length_cons, Nat.add_comm rest.length, ← Nat.add_assoc] at refused
      rw [List.cons_append, step, ih others refused]
      rfl

/-! ## Declarations -/

/-- Functions of unnamed classes and functions without a name are rejected. -/
theorem isSome_names_of_memberKind {owner function : NodeId} {role : Role}
    (kind : tree.memberKind owner function = .bindable role) :
    (tree.node owner).name.isSome ∧ (tree.node function).name.isSome := by
  unfold memberKind at kind
  cases className : (tree.node owner).name with
  | none => simp [className] at kind
  | some _ =>
      cases functionName : (tree.node function).name with
      | none => simp [className, functionName] at kind
      | some _ => exact ⟨rfl, rfl⟩

theorem exists_lower {owner function : NodeId} {role : Role}
    (kind : tree.memberKind owner function = .bindable role)
    (accepted : tree.AcceptsTypes owner function role) :
    ∃ overload, tree.lower owner function role = .ok overload := by
  obtain ⟨ownerNamed, functionNamed⟩ := isSome_names_of_memberKind kind
  obtain ⟨parameters, result⟩ := accepted
  obtain ⟨lowered, loweredParameters⟩ := exists_lowerParameters parameters 0
  rw [lower, loweredParameters, ok_bind]
  cases role with
  | constructor => exact ⟨_, rfl⟩
  | method =>
      obtain ⟨native, found, returnable⟩ := result rfl
      obtain ⟨name, hasName⟩ := Option.isSome_iff_exists.mp functionNamed
      obtain ⟨plan, planned⟩ := exists_resultPlan found ownerNamed returnable
        (methodCall name lowered.1.length)
      simp only [hasName, found, ok_bind, planned]
      exact ⟨_, rfl⟩

theorem lower_of_refused {owner function : NodeId} {role : Role} {reason : Unbindable}
    (kind : tree.memberKind owner function = .bindable role)
    (refused : tree.RefusesTypes owner function role reason) :
    tree.lower owner function role = .error reason := by
  rcases refused with ⟨before, parameter, after, split, accepted, refused⟩ |
    ⟨parameters, rfl, refused⟩
  · rw [← Nat.zero_add before.length] at refused
    rw [lower, split, lowerParameters_of_first_refused accepted refused]
    rfl
  · obtain ⟨lowered, loweredParameters⟩ := exists_lowerParameters parameters 0
    obtain ⟨name, hasName⟩ :=
      Option.isSome_iff_exists.mp (isSome_names_of_memberKind kind).2
    rw [lower, loweredParameters, ok_bind]
    rcases refused with failed | ⟨native, found, refused, rfl⟩
    · simp only [hasName, failed]
      rfl
    · simp only [hasName, found, ok_bind, resultPlan_of_not_returnable refused]
      rfl

/-! ## No third case -/

theorem accepts_or_refuses_parameter (index : Nat) (parameter : NodeId) :
    tree.AcceptsParameter parameter ∨
      ∃ reason, tree.RefusesParameter index parameter reason := by
  cases found : tree.nativeType (tree.node parameter).link with
  | error reason => exact Or.inr ⟨reason, Or.inl found⟩
  | ok native =>
      by_cases void : native.category = .void
      · exact Or.inr ⟨_, Or.inr ⟨⟨native, found, void⟩, rfl⟩⟩
      · exact Or.inl ⟨native, found, void⟩

theorem accepts_or_refuses_parameters (parameters : List NodeId) :
    (∀ parameter ∈ parameters, tree.AcceptsParameter parameter) ∨
      ∃ reason, tree.RefusesParameters parameters reason := by
  -- From the end, because the first refusal stays the first when a parameter follows.
  induction parameters using List.reverseRecOn with
  | nil => exact Or.inl fun _ member => absurd member List.not_mem_nil
  | append_singleton earlier parameter ih =>
      rcases ih with accepted | ⟨reason, before, first, after, rfl, accepted, refused⟩
      · rcases accepts_or_refuses_parameter earlier.length parameter with last | ⟨reason, refused⟩
        · exact Or.inl (List.forall_mem_append.mpr ⟨accepted, List.forall_mem_singleton.mpr last⟩)
        · exact Or.inr ⟨reason, earlier, parameter, [], rfl, accepted, refused⟩
      · refine Or.inr ⟨reason, before, first, after ++ [parameter], ?_, accepted, refused⟩
        rw [List.append_assoc, List.cons_append]

theorem accepts_or_refuses_result (owner function : NodeId) :
    tree.AcceptsResult owner function ∨ ∃ reason, tree.RefusesResult owner function reason := by
  cases found : tree.nativeType (tree.node function).link with
  | error reason => exact Or.inr ⟨reason, Or.inl found⟩
  | ok native =>
      by_cases returnable : tree.Returnable owner native.category
      · exact Or.inl ⟨native, found, returnable⟩
      · exact Or.inr ⟨_, Or.inr ⟨native, found, returnable, rfl⟩⟩

theorem accepts_or_refuses_types (owner function : NodeId) (role : Role) :
    tree.AcceptsTypes owner function role ∨
      ∃ reason, tree.RefusesTypes owner function role reason := by
  rcases accepts_or_refuses_parameters ((tree.parameters function).drop 1) with
    parameters | ⟨reason, refused⟩
  · cases role with
    | constructor => exact Or.inl ⟨parameters, nofun⟩
    | method =>
        rcases accepts_or_refuses_result owner function with result | ⟨reason, refused⟩
        · exact Or.inl ⟨parameters, fun _ => result⟩
        · exact Or.inr ⟨reason, Or.inr ⟨parameters, rfl, refused⟩⟩
  · exact Or.inr ⟨reason, Or.inl refused⟩

/-! ## The decision -/

/-- Whether a member of a class can be bound, and if not the reason, is decided
by its types. -/
structure DecidedByTypes (tree : SymbolTree) (owner function : NodeId) (role : Role) :
    Prop where
  succeeds : (∃ overload, tree.lower owner function role = .ok overload) ↔
    tree.AcceptsTypes owner function role
  fails : ∀ reason, tree.lower owner function role = .error reason ↔
    tree.RefusesTypes owner function role reason
  /-- A public member that cannot be bound is left out with the reason. -/
  recorded : function ∈ tree.publicMembers owner → ∀ reason scriptName,
    tree.RefusesTypes owner function role reason →
      ⟨tree.declaredName function, .unbindable reason⟩ ∈
        (tree.bindings owner scriptName).1.dropped
  /-- No plan for an argument fails but that for `void`. -/
  argumentPlan : ∀ link native, tree.nativeType link = .ok native → native.category ≠ .void →
    ∀ index, ∃ plan, tree.argumentPlan native index = .ok plan
  /-- No plan for a result fails but that for a type which cannot be returned. -/
  resultPlan : ∀ link native, tree.nativeType link = .ok native → ∀ expression reason,
    tree.resultPlan owner native expression = .error reason ↔
      ¬ tree.Returnable owner native.category ∧ reason = .unsupportedReturn native.spelling

/-- The types decide about every function that is a method or a constructor. -/
theorem decidedByTypes {owner function : NodeId} {role : Role}
    (kind : tree.memberKind owner function = .bindable role) :
    tree.DecidedByTypes owner function role where
  succeeds := by
    refine ⟨fun ⟨overload, lowered⟩ => ?_, exists_lower kind⟩
    rcases accepts_or_refuses_types owner function role with accepted | ⟨reason, refused⟩
    · exact accepted
    · exact absurd (lowered.symm.trans (lower_of_refused kind refused)) nofun
  fails := fun reason => by
    -- There is no third case, so an error is that of a refusal and of no other one.
    refine ⟨fun failed => ?_, lower_of_refused kind⟩
    rcases accepts_or_refuses_types owner function role with accepted | ⟨first, refused⟩
    · obtain ⟨overload, lowered⟩ := exists_lower kind accepted
      exact absurd (lowered.symm.trans failed) nofun
    · cases failed.symm.trans (lower_of_refused kind refused)
      exact refused
  recorded := fun member reason scriptName refused => by
    have unbindable : tree.verdict owner function = .unbindable role reason := by
      simp only [verdict, kind, lower_of_refused kind refused]
    have declared : (tree.declaredName function, .unbindable role reason) ∈
        tree.verdicts owner := by
      rw [← unbindable]
      exact List.mem_map_of_mem member
    exact Draft.mem_dropped_ofVerdicts scriptName declared
  argumentPlan := fun _ _ found filled => exists_argumentPlan found filled
  resultPlan := fun link native found expression reason => by
    by_cases returnable : tree.Returnable owner native.category
    · obtain ⟨plan, planned⟩ :=
        exists_resultPlan found (isSome_names_of_memberKind kind).1 returnable expression
      simp [planned, returnable]
    · rw [resultPlan_of_not_returnable returnable, Except.error.injEq]
      simp only [returnable, not_false_eq_true, true_and, eq_comm]

/-- A structure with a method whose only parameter has no type. -/
def dimmer : SymbolTree where
  nodes := #[
    .root,
    { Node.root with tag := .structureType, name := some "Lamp", children := #[2] },
    { Node.root with
      tag := .subprogram, name := some "dim", children := #[3, 4], parent := some 1 },
    { Node.root with tag := .formalParameter, name := some "this", link := .target 5 },
    { Node.root with tag := .formalParameter, name := some "level" },
    { Node.root with tag := .pointerType, link := .target 1 }]

theorem decidedByTypes_dimmer :
    dimmer.publicMembers 1 = [2] ∧ dimmer.memberKind 1 2 = .bindable .method ∧
      dimmer.DecidedByTypes 1 2 .method ∧
      dimmer.lower 1 2 .method = .error (.missingParameterType 0) :=
  ⟨by decide +kernel, by decide +kernel, decidedByTypes (by decide +kernel), rfl⟩

end SymbolTree

end Bindery
