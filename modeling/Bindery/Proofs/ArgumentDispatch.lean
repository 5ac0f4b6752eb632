import Bindery.Proofs.ChosenBodies
import Bindery.Proofs.CountConditions
import Bindery.Proofs.EntryLines

/-!
# Dispatch by the number of arguments

The checks of an entry point and the choice among its overloads are written by
different loops and in two layouts.  They agree: a number of arguments that
passes the check is that of one overload, the types of its parameters are the
ones that are checked, and its body is the one that is run.
-/

namespace Bindery

theorem OverloadSet.Arranged.mem_keys_iff {overloads : OverloadSet}
    (arranged : overloads.Arranged) (number : Nat) :
    number ∈ overloads.keys ↔ ∃! overload, (number, overload) ∈ overloads.entries := by
  constructor
  · intro isKey
    obtain ⟨⟨_, overload⟩, entry, rfl⟩ := List.mem_map.mp isKey
    refine ⟨overload, entry, ?_⟩
    intro other again
    rw [OrderedMap.mem_entries_iff arranged.nodup_keys] at entry again
    exact Option.some.inj (again.symm.trans entry)
  · rintro ⟨overload, entry, _⟩
    exact List.mem_map.mpr ⟨_, entry, rfl⟩

/-! ## The checks of types -/

/-- The checks of the types of arguments, for all overloads. -/
def OverloadSet.typeChecks (overloads : OverloadSet) : List Guard :=
  overloads.values.flatMap (typeGuards (overloads.size = 1))

/-- Whether the type of an argument is checked when there is a number of
arguments. -/
def Guard.inForce (count : Nat) : Guard → Bool
  | .count _ => false
  | .always _ _ => true
  | .onCount _ _ arity => meets count ("args_count == " ++ toString arity)

namespace OverloadSet

variable {overloads : OverloadSet}

theorem guards_eq (overloads : OverloadSet) :
    overloads.guards = .count overloads.keys :: overloads.typeChecks :=
  rfl

theorem not_count_of_mem_typeChecks {guard : Guard} (member : guard ∈ overloads.typeChecks)
    (arities : List Nat) : guard ≠ .count arities := by
  obtain ⟨overload, _, inOverload⟩ := List.mem_flatMap.mp member
  obtain ⟨⟨plan, index⟩, _, rfl⟩ := List.mem_map.mp inOverload
  dsimp only
  split <;> nofun

theorem inForce_typeGuards {single : Bool} {overload : Overload} {guard : Guard}
    (member : guard ∈ typeGuards single overload) (count : Nat) :
    guard.inForce count = (single || decide (overload.arity = count)) := by
  obtain ⟨⟨plan, index⟩, _, rfl⟩ := List.mem_map.mp member
  cases single with
  | true => rfl
  | false => exact meets_countTest count overload.arity

/-- The checks in force for a number of arguments are those of its overload. -/
theorem filter_inForce_typeChecks (arranged : overloads.Arranged) {number : Nat}
    {overload : Overload} (entry : (number, overload) ∈ overloads.entries) :
    overloads.typeChecks.filter (Guard.inForce number) =
      typeGuards (overloads.size = 1) overload := by
  have arity : overload.arity = number := arranged.arity number overload entry
  have inValues : overload ∈ overloads.values := List.mem_map.mpr ⟨_, entry, rfl⟩
  have own : (typeGuards (overloads.size = 1) overload).filter (Guard.inForce number) =
      typeGuards (overloads.size = 1) overload := by
    rw [List.filter_eq_self]
    intro guard member
    rw [inForce_typeGuards member, decide_eq_true arity, Bool.or_true]
  have others : ∀ other ∈ overloads.values, other.arity ≠ overload.arity →
      (typeGuards (overloads.size = 1) other).filter (Guard.inForce number) = [] := by
    intro other inOthers different
    have several : overloads.size ≠ 1 := by
      intro single
      have length : overloads.values.length = 1 := (List.length_map _).trans single
      obtain ⟨only, values⟩ := List.length_eq_one_iff.mp length
      rw [values, List.mem_singleton] at inValues inOthers
      rw [inValues, inOthers] at different
      exact different rfl
    rw [List.filter_eq_nil_iff]
    intro guard member
    rw [inForce_typeGuards member]
    simp [several, arity ▸ different]
  rw [typeChecks, List.filter_flatMap, flatMap_eq_of_nodup arranged.nodup_arities inValues others,
    own]

end OverloadSet

/-! ## The lines of the checks -/

namespace ClassNames

/-- The line that checks the number of arguments. -/
def countLine (names : ClassNames) (role : Role) (name : String) (arities : List Nat) : String :=
  "    " ++ ("CHECK_ARGUMENT_COUNT(" ++ names.script ++ ", " ++ entryName role name ++ ", (" ++
    countCondition arities ++ "));")

/-- The lines that check the types of arguments. -/
def typeLines (names : ClassNames) (role : Role) (name : String) (overloads : OverloadSet) :
    List String :=
  overloads.typeChecks.map fun guard =>
    "    " ++ guard.wording names.script (entryName role name)

/-- The lines after the checks. -/
def otherLines (names : ClassNames) (role : Role) (overloads : OverloadSet) : List String :=
  Code.allLinesAt 1 (names.afterGuards role overloads) ++ ["\x7d"]

theorem allLinesAt_guardCode (names : ClassNames) (role : Role) (name : String)
    (overloads : OverloadSet) :
    Code.allLinesAt 1 (names.guardCode role name overloads) =
      names.countLine role name overloads.keys :: names.typeLines role name overloads := by
  have single : ∀ guard : Guard, (guard.code names (entryName role name)).linesAt 1 =
      ["    " ++ guard.wording names.script (entryName role name)] := by
    intro guard
    rw [guard.code_eq_line, Code.linesAt, Code.lineAt_one (guard.wording_ne_empty _ _)]
  rw [guardCode, OverloadSet.guards_eq, Code.allLinesAt_map single]
  rfl

theorem not_checksCount_of_mem_typeLines {names : ClassNames} {role : Role} {name : String}
    {overloads : OverloadSet} {line : String}
    (member : line ∈ names.typeLines role name overloads) : ¬ ChecksCount line := by
  obtain ⟨guard, inTypes, rfl⟩ := List.mem_map.mp member
  exact Guard.not_checksCount (OverloadSet.not_count_of_mem_typeChecks inTypes) 4 _ _

end ClassNames

/-! ## Entry points -/

/-- The plans of arguments check the types of parameters, each that of the
parameter at its own place. -/
def SymbolTree.ChecksTypes (tree : SymbolTree) (parameters : List NodeId)
    (plans : List ArgumentPlan) : Prop :=
  plans.length = parameters.length ∧
    ∀ (index : Nat) (parameter : NodeId), parameters[index]? = some parameter →
      ∃ native plan, plans[index]? = some plan ∧
        tree.nativeType (tree.node parameter).link = .ok native ∧
        native.category.scriptType? = some plan.check

theorem SymbolTree.Planned.checksTypes {tree : SymbolTree} {start : Nat} {parameters : List NodeId}
    {plans : List ArgumentPlan} (planned : tree.Planned start parameters plans) :
    tree.ChecksTypes parameters plans := by
  refine ⟨planned.length_eq, fun index parameter here => ?_⟩
  obtain ⟨native, plan, at_, typed, made⟩ := planned.getElem? here
  exact ⟨native, plan, at_, typed, (serves_of_argumentPlan made).check⟩

/-- What an entry point checks, and where. -/
structure ChecksFirst (names : ClassNames) (function : FunctionBinding)
    (overloads : OverloadSet) : Prop where
  /-- The checks stand before all other code. -/
  lines : Text.lines function.text =
    names.entryTop function.role function.name ++
      (names.countLine function.role function.name function.arities ::
        (names.typeLines function.role function.name overloads ++
          names.otherLines function.role overloads))
  other : ∀ line ∈ names.entryTop function.role function.name ++
    names.otherLines function.role overloads, ¬ ChecksArguments line
  /-- The number of arguments is checked once. -/
  once : ∀ line ∈ names.typeLines function.role function.name overloads, ¬ ChecksCount line
  passes : ∀ count,
    meets count (countCondition function.arities) = true ↔ count ∈ function.arities
  /-- The types checked for a number of arguments are those of the parameters of
  its overload, one after another. -/
  inForce : ∀ number overload, (number, overload) ∈ overloads.entries →
    overloads.typeChecks.filter (Guard.inForce number) =
      overload.arguments.zipIdx.map fun (plan, index) =>
        if overloads.size = 1 then .always index plan.check
        else .onCount index plan.check number

/-- An entry point checks and runs, for each of its numbers of arguments, one
public member. -/
structure DispatchesByCount (tree : SymbolTree) (owner : NodeId) (names : ClassNames)
    (function : FunctionBinding) (overloads : OverloadSet) : Prop where
  arities : overloads.keys = function.arities
  nonempty : function.arities ≠ []
  /-- There is one overload for each number of arguments. -/
  chosen : ∀ number, number ∈ function.arities ↔
    ∃! overload, (number, overload) ∈ overloads.entries
  /-- An overload is made of the parameters of a public member. -/
  members : ∀ number overload, (number, overload) ∈ overloads.entries →
    overload.arguments.length = number ∧ ∃ member ∈ tree.publicMembers owner,
      tree.BoundTo owner ⟨function.role, function.name, number⟩ member overload ∧
      tree.Planned 0 ((tree.parameters member).drop 1) overload.arguments ∧
      tree.ChecksTypes ((tree.parameters member).drop 1) overload.arguments
  checks : ChecksFirst names function overloads
  bodies : RunsOneBody names function.role overloads

/-- The entry points of a class dispatch by the number of arguments, unless there
is nothing to construct. -/
structure DispatchesCalls (tree : SymbolTree) (owner : NodeId) (scriptName : String)
    (bindings : ClassBindings) : Prop where
  functions : ∀ function ∈ bindings.functions,
    (function.role = .constructor → function.arities ≠ []) →
      ∃ overloads : OverloadSet,
        DispatchesByCount tree owner (tree.classNames owner scriptName) function overloads

namespace SymbolTree

variable {tree : SymbolTree} {owner : NodeId} {names : ClassNames} {scriptName : String}
  {function : FunctionBinding} {overloads : OverloadSet}

theorem arities_ne_nil_of_method
    (member : function ∈ (tree.bindings owner scriptName).1.functions)
    (isMethod : function.role = .method) : function.arities ≠ [] := by
  rw [functions_bindings, List.mem_append, List.mem_map, List.mem_singleton] at member
  rcases member with ⟨⟨name, group⟩, kept, rfl⟩ | rfl
  · have nonempty :=
      ((Draft.mem_keptMethods_iff (tree.distinct_draft owner scriptName) _ _).mp kept).2
    obtain ⟨arity, hasArity⟩ := (OrderedMap.isEmpty_eq_false_iff group).mp nonempty
    exact List.ne_nil_of_mem ((OverloadSet.mem_keys_sorted_iff group arity).mpr hasArity)
  · cases isMethod

/-- The name of an entry point is that of a member or the one of all
constructors. -/
theorem AllBound.unbroken_name {role : Role} {name : String} (unbroken : tree.NamesUnbroken)
    (bound : tree.AllBound owner role name overloads) (nonempty : overloads.keys ≠ []) :
    Unbroken name := by
  obtain ⟨number, isKey⟩ := List.exists_mem_of_ne_nil _ nonempty
  obtain ⟨⟨_, overload⟩, entry, rfl⟩ := List.mem_map.mp isKey
  obtain ⟨member, boundTo⟩ := bound _ overload entry
  have named : entryName role (tree.declaredName member) = name := boundTo.name
  rw [← named]
  cases role with
  | method => exact unbroken.declaredName member
  | constructor => exact (by decide : Unbroken constructorName)

theorem checksFirst (unbroken : UnbrokenEntry tree names function.name)
    (arranged : overloads.Arranged) (arities : overloads.keys = function.arities)
    (nonempty : function.arities ≠ [])
    (bound : tree.AllBound owner function.role function.name overloads)
    (text : function.text = names.entryText function.role function.name overloads) :
    ChecksFirst names function overloads where
  lines := by
    have filled : overloads.isEmpty = false := by
      obtain ⟨number, inArities⟩ := List.exists_mem_of_ne_nil _ nonempty
      exact (OrderedMap.isEmpty_eq_false_iff overloads).mpr ⟨number, arities ▸ inArities⟩
    rw [text, ClassNames.entryText_eq function.name fun _ => filled,
      unbroken.lines_entryPieces bound, ClassNames.allLinesAt_guardCode, arities]
    rfl
  other := fun line member => unbroken.not_checksArguments bound member
  once := fun line member => ClassNames.not_checksCount_of_mem_typeLines member
  passes := meets_countCondition_iff nonempty
  inForce := by
    intro number overload entry
    rw [OverloadSet.filter_inForce_typeChecks arranged entry, OverloadSet.typeGuards,
      arranged.arity number overload entry]
    simp only [decide_eq_true_eq]

/-- The bindings of every class dispatch calls by their number of arguments. -/
theorem bindings_dispatchesCalls (unbroken : tree.NamesUnbroken) (script : Unbroken scriptName) :
    DispatchesCalls tree owner scriptName (tree.bindings owner scriptName).1 where
  functions := by
    intro function inFunctions constructs
    obtain ⟨overloads, arranged, arities, text, last⟩ :=
      tree.overloads_of_mem_functions owner scriptName inFunctions
    have nonempty : function.arities ≠ [] := by
      cases role : function.role with
      | method => exact arities_ne_nil_of_method inFunctions role
      | constructor => exact constructs role
    have bound := allBound_of_last last
    have entry : UnbrokenEntry tree (tree.classNames owner scriptName) function.name :=
      ⟨unbroken, script, unbroken.native owner scriptName,
        bound.unbroken_name unbroken (arities ▸ nonempty)⟩
    refine ⟨overloads, arities, nonempty, ?_, ?_,
      checksFirst entry arranged arities nonempty bound text, runsOneBody arranged bound⟩
    · intro number
      rw [← arities, arranged.mem_keys_iff]
    · intro number overload inEntries
      obtain ⟨member, isPublic, boundTo⟩ := (last number overload inEntries).exists_bound
      have planned := planned_of_lower boundTo.lowered
      exact ⟨arranged.arity number overload inEntries, member, isPublic, boundTo, planned,
        planned.checksTypes⟩

/-- A structure with a method that takes one number or none. -/
def blinker : SymbolTree where
  nodes := #[
    .root,
    { Node.root with tag := .structureType, name := some "Lamp", children := #[2, 4] },
    { Node.root with
      tag := .subprogram, name := some "blink", children := #[3], parent := some 1 },
    { Node.root with tag := .formalParameter, name := some "this", link := .target 7 },
    { Node.root with
      tag := .subprogram, name := some "blink", children := #[5, 6], parent := some 1 },
    { Node.root with tag := .formalParameter, name := some "this", link := .target 7 },
    { Node.root with tag := .formalParameter, name := some "times", link := .target 8 },
    { Node.root with tag := .pointerType, link := .target 1 },
    { Node.root with tag := .baseType, name := some "int" }]

theorem bindings_dispatchesCalls_blinker :
    blinker.NamesUnbroken ∧ Unbroken "Lamp" ∧
      (blinker.bindings 1 "Lamp").1.methodNames = ["blink"] ∧
      DispatchesCalls blinker 1 "Lamp" (blinker.bindings 1 "Lamp").1 :=
  ⟨by decide +kernel, by decide, by decide +kernel,
    bindings_dispatchesCalls (by decide +kernel) (by decide)⟩

end SymbolTree

end Bindery
