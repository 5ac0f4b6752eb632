import Bindery.Proofs.MemberBindings
import Bindery.Proofs.Trimming

/-!
# The pieces of entry points

An entry point is a comment and a block.  The block holds the checks, a few
lines that do not depend on the overloads, the choice among the overloads and,
in a constructor, the lines that wrap the new object.  The entry points of
methods and of constructors are one layout with different pieces.
-/

namespace Bindery

/-! ## Closed texts -/

theorem trimmedEnd_closed (lines : List String) :
    Text.trimmedEnd (Code.joined (lines ++ ["\x7d"])) = Code.joined lines ++ "\x7d" := by
  have split : (Code.joined (lines ++ ["\x7d"])).toList =
      (Code.joined lines ++ "\x7d").toList ++ ['\n'] := by
    have last : Code.joined ["\x7d"] = "\x7d" ++ "\n" := rfl
    rw [Code.joined_append, last, ← String.append_assoc, String.toList_append]
    rfl
  rw [Text.trimmedEnd, split, Text.trimEnd_append_of_blank, Text.trimEnd_eq_self,
    String.ofList_toList]
  · intro last isLast
    rw [String.toList_append, List.getLast?_append] at isLast
    cases isLast
    rfl
  · intro c member
    rw [List.mem_singleton.mp member]
    rfl

theorem Code.lineAt_zero (text : String) : Code.lineAt 0 text = text := by
  unfold Code.lineAt
  split
  · rename_i empty
    exact (String.isEmpty_iff.mp empty).symm
  · exact String.empty_append

/-! ## Checks as they are written -/

/-- The word with which a check asks for a kind of script values. -/
def ScriptType.asked : ScriptType → String
  | .number => "number"
  | .boolean => "boolean"
  | .string => "string"
  | .object => "object"

/-- A check as it stands in the entry point of a name. -/
def Guard.wording (script name : String) : Guard → String
  | .count arities =>
      "CHECK_ARGUMENT_COUNT(" ++ script ++ ", " ++ name ++ ", (" ++
        " || ".intercalate (arities.map fun arity => "args_count == " ++ toString arity) ++ "));"
  | .always index kind =>
      "CHECK_ARGUMENT_TYPE_ALWAYS(" ++ script ++ ", " ++ name ++ ", " ++ toString index ++ ", " ++
        kind.asked ++ ");"
  | .onCount index kind arity =>
      "CHECK_ARGUMENT_TYPE_ON_CONDITION(" ++ script ++ ", " ++ name ++ ", " ++ toString index ++
        ", " ++ kind.asked ++ ", (" ++ ("args_count == " ++ toString arity) ++ "));"

theorem Guard.code_eq_line (names : ClassNames) (name : String) (guard : Guard) :
    guard.code names name = .line (guard.wording names.script name) := by
  cases guard with
  | count arities => rfl
  | always index kind | onCount index kind arity => cases kind <;> rfl

theorem Guard.wording_ne_empty (script name : String) (guard : Guard) :
    guard.wording script name ≠ "" := by
  rw [wording.eq_def]
  cases guard <;> simp

namespace ClassNames

variable (names : ClassNames)

/-! ## Pieces by role -/

/-- The code of one overload.  The pointer of a constructor is declared there
when the overload stands alone. -/
def bodyCode : Role → (alone : Bool) → Overload → List Code
  | .method, _, overload =>
      overload.conversions.map Statement.code ++
        (if overload.arguments.isEmpty then [] else [.blank]) ++
        overload.callAndReturn.map Statement.code
  | .constructor, alone, overload =>
      (overload.construction names.native alone).map Statement.code

/-- What stands before the blocks of several overloads. -/
def beforeBlocks : Role → List Code
  | .method => []
  | .constructor => [.line (names.native ++ "* native_ptr = NULL;")]

/-- What stands after the blocks of several overloads. -/
def afterBlocks : Role → List Code
  | .method => [.blank, Statement.returnUndefined.code]
  | .constructor => []

/-- The choice among overloads. -/
def dispatch (role : Role) (overloads : OverloadSet) : List Code :=
  match overloads.values with
  | [overload] => names.bodyCode role true overload
  | several =>
      names.beforeBlocks role ++
        (several.map (fun overload =>
          OverloadSet.countBlock overload (names.bodyCode role false overload)) ++
        afterBlocks role)

/-- The lines between the checks and the choice among overloads. -/
def opening : Role → List Code
  | .method =>
      [.blank,
        .line "uintptr_t ptr_val;",
        .line "jerry_get_object_native_handle(this_obj, &ptr_val);",
        .line (names.native ++ "* native_ptr = reinterpret_cast<" ++ names.native ++
          "*>(ptr_val);"),
        .blank]
  | .constructor => [.blank]

/-- The lines after the choice among overloads. -/
def closing : Role → List Code
  | .method => []
  | .constructor => [.blank, .line ("return " ++ wrapRoutine ++ "(native_ptr);")]

/-- What an entry point does after the checks. -/
def afterGuards (role : Role) (overloads : OverloadSet) : List Code :=
  names.opening role ++ (names.dispatch role overloads ++ closing role)

/-- What is said of an entry point above it. -/
def entryNote (name : String) : Role → String
  | .method => " * " ++ names.script ++ "#" ++ name ++ " (native JavaScript method)"
  | .constructor => " * " ++ names.script ++ " (native JavaScript constructor)"

/-- The line that opens an entry point. -/
def entryHeader (name : String) : Role → String
  | .method => "DECLARE_CLASS_FUNCTION(" ++ names.script ++ ", " ++ name ++ ") \x7b"
  | .constructor => OverloadSet.constructorHeader names

theorem entryHeader_method (name : String) : names.entryHeader name .method =
    "DECLARE_CLASS_FUNCTION(" ++ names.script ++ ", " ++ name ++ ") \x7b" :=
  rfl

theorem entryHeader_constructor (name : String) : names.entryHeader name .constructor =
    "DECLARE_CLASS_CONSTRUCTOR(" ++ names.script ++ ") \x7b" :=
  rfl

/-- The lines before the checks of an entry point. -/
def entryTop (role : Role) (name : String) : List String :=
  ["/**", names.entryNote name role, " */", names.entryHeader name role]

/-- The checks of an entry point. -/
def guardCode (role : Role) (name : String) (overloads : OverloadSet) : List Code :=
  overloads.guards.map (Guard.code names (entryName role name))

/-- The pieces of an entry point. -/
def entryPieces (role : Role) (name : String) (overloads : OverloadSet) : List Code :=
  OverloadSet.comment [names.entryNote name role] ++
    [.block (names.entryHeader name role) "\x7d"
      (names.guardCode role name overloads ++ names.afterGuards role overloads)]

theorem methodDispatch_eq (overloads : OverloadSet) :
    overloads.methodDispatch = names.dispatch .method overloads := by
  unfold OverloadSet.methodDispatch dispatch
  rcases overloads.values with _ | ⟨first, _ | ⟨second, rest⟩⟩ <;> rfl

theorem constructorDispatch_eq (overloads : OverloadSet) :
    overloads.constructorDispatch names.native = names.dispatch .constructor overloads := by
  unfold OverloadSet.constructorDispatch dispatch
  rcases overloads.values with _ | ⟨first, _ | ⟨second, rest⟩⟩
  · rfl
  · rfl
  · simp only [beforeBlocks, afterBlocks, List.append_nil, List.singleton_append]
    rfl

variable {names}

/-- Both kinds of entry points are written from the same layout. -/
theorem entryText_eq {role : Role} {overloads : OverloadSet} (name : String)
    (some_overload : role = .constructor → overloads.isEmpty = false) :
    names.entryText role name overloads =
      Text.trimmedEnd (Code.render (names.entryPieces role name overloads)) := by
  cases role with
  | method =>
      simp only [entryText, OverloadSet.methodText, entryPieces, afterGuards, guardCode, entryName,
        names.methodDispatch_eq, closing, opening, List.append_nil, List.append_assoc]
      rfl
  | constructor =>
      simp only [entryText, some_overload rfl, OverloadSet.constructorText, entryPieces,
        afterGuards, guardCode, entryName, names.constructorDispatch_eq, closing, opening,
        List.append_assoc]
      rfl

theorem allLinesAt_entryPieces (names : ClassNames) (role : Role) (name : String)
    (overloads : OverloadSet) :
    Code.allLinesAt 0 (names.entryPieces role name overloads) =
      names.entryTop role name ++ (Code.allLinesAt 1 (names.guardCode role name overloads) ++
        (Code.allLinesAt 1 (names.afterGuards role overloads) ++ ["\x7d"])) := by
  simp only [entryPieces, entryTop, OverloadSet.comment, Code.allLinesAt_append, Code.allLinesAt,
    Code.linesAt, Code.lineAt_zero, List.map_cons, List.map_nil, List.append_assoc,
    List.cons_append, List.nil_append, List.append_nil, Nat.zero_add]

/-- The choice among overloads holds a body for one of them: by itself if there
is no other, in the block for its number of arguments otherwise. -/
def Holds (names : ClassNames) (role : Role) (overloads : OverloadSet) (overload : Overload)
    (body : List Code) : Prop :=
  if overloads.size = 1 then names.dispatch role overloads = body
  else OverloadSet.countBlock overload body ∈ names.dispatch role overloads

theorem holds_of_mem {role : Role} {overloads : OverloadSet} {number : Nat} {overload : Overload}
    (entry : (number, overload) ∈ overloads.entries) :
    names.Holds role overloads overload
      (names.bodyCode role (overloads.size = 1) overload) := by
  have value : overload ∈ overloads.values := List.mem_map.mpr ⟨_, entry, rfl⟩
  have length : overloads.size = overloads.values.length := (List.length_map _).symm
  unfold Holds dispatch
  rw [length]
  generalize overloads.values = values at value
  rcases values with _ | ⟨first, _ | ⟨second, rest⟩⟩
  · cases value
  · rw [List.mem_singleton.mp value]
    rfl
  · have several : (first :: second :: rest).length ≠ 1 := by simp
    simp only [several, if_false, decide_false]
    exact List.mem_append_right _ (List.mem_append_left _ (List.mem_map_of_mem value))

end ClassNames

/-! ## The overloads of an entry point -/

/-- Overloads that stand at their own number of arguments. -/
structure OverloadSet.Arranged (overloads : OverloadSet) : Prop where
  nodup_keys : overloads.keys.Nodup
  arity : ∀ number overload, (number, overload) ∈ overloads.entries → overload.arity = number

namespace SymbolTree

variable (tree : SymbolTree) (owner : NodeId) (scriptName : String)

variable {tree owner} in
theorem LastBoundTo.exists_bound {slot : Slot} {overload : Overload}
    (last : tree.LastBoundTo owner slot overload) :
    ∃ member ∈ tree.publicMembers owner, tree.BoundTo owner slot member overload := by
  obtain ⟨before, member, after, split, bound, _⟩ := last
  refine ⟨member, ?_, bound⟩
  rw [split]
  exact List.mem_append_right before List.mem_cons_self

/-- The overloads of an entry point are members bound to its name and role. -/
def AllBound (role : Role) (name : String) (overloads : OverloadSet) : Prop :=
  ∀ number overload, (number, overload) ∈ overloads.entries →
    ∃ function, tree.BoundTo owner ⟨role, name, number⟩ function overload

variable {tree owner} in
theorem allBound_of_last {role : Role} {name : String} {overloads : OverloadSet}
    (last : ∀ number overload, (number, overload) ∈ overloads.entries →
      tree.LastBoundTo owner ⟨role, name, number⟩ overload) :
    tree.AllBound owner role name overloads := by
  intro number overload entry
  obtain ⟨function, _, bound⟩ := (last number overload entry).exists_bound
  exact ⟨function, bound⟩

/-- What stands in a sorted group is the last member bound to its name, role and
number of arguments. -/
theorem lastBoundTo_of_mem_sorted {name : String} {role : Role} {number : Nat}
    {overload : Overload}
    (entry : (number, overload) ∈
      (OverloadSet.sorted ((tree.draft owner scriptName).group name role)).entries) :
    tree.LastBoundTo owner ⟨role, entryName role name, number⟩ overload := by
  rwa [OverloadSet.mem_entries_sorted_iff ((tree.distinct_draft owner scriptName).group name role),
    get?_group_draft_iff] at entry

/-- Every entry point calls, for each of its numbers of arguments, a public
member that is bound to it. -/
theorem overloads_of_mem_functions {function : FunctionBinding}
    (member : function ∈ (tree.bindings owner scriptName).1.functions) :
    ∃ overloads : OverloadSet,
      overloads.Arranged ∧ overloads.keys = function.arities ∧
      function.text = (tree.classNames owner scriptName).entryText function.role function.name
        overloads ∧
      ∀ number overload, (number, overload) ∈ overloads.entries →
        tree.LastBoundTo owner ⟨function.role, function.name, number⟩ overload := by
  obtain ⟨name, group, rfl, arities, text⟩ := tree.of_mem_functions owner scriptName member
  have called : ∀ number overload, (number, overload) ∈ (OverloadSet.sorted
      ((tree.draft owner scriptName).group function.name function.role)).entries →
      tree.LastBoundTo owner ⟨function.role, function.name, number⟩ overload := by
    intro number overload entry
    exact name ▸ tree.lastBoundTo_of_mem_sorted owner scriptName entry
  refine ⟨_, ⟨?_, ?_⟩, arities.symm, text, called⟩
  · exact (OverloadSet.keys_sorted_pairwise
      ((tree.distinct_draft owner scriptName).group _ _)).imp Nat.ne_of_lt
  · intro number overload entry
    obtain ⟨_, _, _, _, bound, _⟩ := called number overload entry
    exact (arity_of_lower bound.lowered).trans bound.arity

end SymbolTree

end Bindery
