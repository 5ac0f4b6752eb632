import Bindery.Proofs.EntryPieces

/-!
# Members grouped by entry point

The bindings of a class group its public members by name and role, and within a
group by number of arguments.  The text of an entry point holds one body for
each of its numbers of arguments, made of the last member bound to it.
-/

namespace Bindery

/-! ## Bodies in a text -/

namespace ClassNames

/-- A text holds the body of an overload.  Alone it stands by itself, among
several in the block for its number of arguments. -/
def BodyIn (names : ClassNames) (text : String) (role : Role) (alone : Bool)
    (overload : Overload) : Prop :=
  ∃ before after, text = Code.joined (before ++ (
    (if alone then Code.allLinesAt 1 (names.bodyCode role true overload)
     else ("    if (args_count == " ++ toString overload.arity ++ ") \x7b") ::
        (Code.allLinesAt 2 (names.bodyCode role false overload) ++ ["    \x7d"])) ++
    after)) ++ "\x7d"

variable {names : ClassNames} {role : Role} {overloads : OverloadSet} {number : Nat}
  {overload : Overload}

theorem linesAt_countBlock (overload : Overload) (body : List Code) :
    (OverloadSet.countBlock overload body).linesAt 1 =
      ("    if (args_count == " ++ toString overload.arity ++ ") \x7b") ::
        (Code.allLinesAt 2 body ++ ["    \x7d"]) := by
  have header : Code.lineAt 1 ("if (" ++ countTest overload.arity ++ ") \x7b") =
      "    if (args_count == " ++ toString overload.arity ++ ") \x7b" := by
    have indented : "    if (args_count == " = "    " ++ ("if (" ++ "args_count == ") := rfl
    rw [Code.lineAt_one (by simp), indented, countTest]
    simp only [String.append_assoc]
  rw [OverloadSet.countBlock, Code.linesAt, header]
  rfl

/-- The text of an entry point holds the bodies of all its overloads. -/
theorem bodyIn_entryText (name : String) (entry : (number, overload) ∈ overloads.entries) :
    names.BodyIn (names.entryText role name overloads) role (overloads.size = 1) overload := by
  have filled : overloads.isEmpty = false :=
    (OrderedMap.isEmpty_eq_false_iff overloads).mpr ⟨number, List.mem_map.mpr ⟨_, entry, rfl⟩⟩
  have text : names.entryText role name overloads =
      Code.joined (names.entryTop role name ++ (Code.allLinesAt 1 (names.guardCode role name
        overloads) ++ Code.allLinesAt 1 (names.afterGuards role overloads))) ++ "\x7d" := by
    rw [entryText_eq name fun _ => filled, Code.render, allLinesAt_entryPieces,
      ← trimmedEnd_closed]
    simp only [List.append_assoc]
  have held : names.Holds role overloads overload _ := holds_of_mem entry
  rw [text, BodyIn, afterGuards]
  by_cases single : overloads.size = 1
  · rw [Holds, if_pos single] at held
    simp only [single, decide_true, if_true] at held ⊢
    rw [held]
    refine ⟨names.entryTop role name ++ (Code.allLinesAt 1 (names.guardCode role name
      overloads) ++ Code.allLinesAt 1 (names.opening role)),
      Code.allLinesAt 1 (closing role), ?_⟩
    simp only [Code.allLinesAt_append, List.append_assoc]
  · rw [Holds, if_neg single] at held
    obtain ⟨before, after, split⟩ := List.append_of_mem held
    simp only [single, decide_false, Bool.false_eq_true, if_false] at split ⊢
    rw [split]
    refine ⟨names.entryTop role name ++ (Code.allLinesAt 1 (names.guardCode role name
      overloads) ++ (Code.allLinesAt 1 (names.opening role) ++ Code.allLinesAt 1 before)),
      Code.allLinesAt 1 after ++ Code.allLinesAt 1 (closing role), ?_⟩
    rw [← linesAt_countBlock]
    simp only [Code.allLinesAt_append, Code.allLinesAt, List.append_assoc]

end ClassNames

/-! ## Entry points of a class -/

/-- The bindings group the public members of a class by entry point and number
of arguments. -/
structure GroupsMembers (tree : SymbolTree) (owner : NodeId) (scriptName : String)
    (bindings : ClassBindings) : Prop where
  /-- There is an entry point for each name under which a method lowers. -/
  mem_methodNames : ∀ name, name ∈ bindings.methodNames ↔
    ∃ member ∈ tree.publicMembers owner, ∃ arity overload,
      tree.BoundTo owner ⟨.method, name, arity⟩ member overload
  nodup_methodNames : bindings.methodNames.Nodup
  /-- The support text attaches each of the names once, and no other. -/
  attached : ∀ name,
    ((tree.classNames owner scriptName).supportLines bindings.methodNames).count
        ((tree.classNames owner scriptName).attachLine name) =
      if name ∈ bindings.methodNames then 1 else 0
  /-- One entry point for all constructors comes last, after the support text. -/
  source : ∃ methods constructor,
    bindings.functions = methods ++ [constructor] ∧
      (∀ method ∈ methods, method.role = .method) ∧
      constructor.role = .constructor ∧ constructor.name = constructorName ∧
      bindings.source = "\n\n".intercalate (methods.map FunctionBinding.text ++
        [Text.trimmedEnd (Code.joined
          ((tree.classNames owner scriptName).supportLines bindings.methodNames)),
        constructor.text])
  ascending : ∀ function ∈ bindings.functions, function.arities.Pairwise (· < ·)
  /-- An entry point takes the numbers of arguments of the members bound to it. -/
  mem_arities : ∀ function ∈ bindings.functions, ∀ arity, arity ∈ function.arities ↔
    ∃ member ∈ tree.publicMembers owner, ∃ overload,
      tree.BoundTo owner ⟨function.role, function.name, arity⟩ member overload
  /-- For each number of arguments the last member bound to it is called.  Its
  body stands in the text. -/
  text : ∀ function ∈ bindings.functions, ∃ overloads : OverloadSet,
    overloads.keys = function.arities ∧
      (∀ arity overload, (arity, overload) ∈ overloads.entries ↔
        tree.LastBoundTo owner ⟨function.role, function.name, arity⟩ overload) ∧
      (∀ arity overload, (arity, overload) ∈ overloads.entries → overload.arity = arity) ∧
      function.text =
        (tree.classNames owner scriptName).entryText function.role function.name overloads ∧
      ∀ arity overload, (arity, overload) ∈ overloads.entries →
        (tree.classNames owner scriptName).BodyIn function.text function.role
          (overloads.size = 1) overload
  /-- The members that find their slot taken are named as replacing. -/
  replaced :
    bindings.dropped.filter (fun entry => entry.reason.message =
        "replaced by a later overload with the same argument count") =
      (repeating (tree.slotOf? owner) [] (tree.publicMembers owner)).map fun member =>
        ⟨tree.declaredName member, .replaced⟩
  /-- Of the members bound to a slot all but one give rise to a replacement. -/
  replacements : ∀ slot,
    (repeating (tree.slotOf? owner) [] (tree.publicMembers owner)).countP
        (fun member => tree.slotOf? owner member = some slot) =
      (tree.publicMembers owner).countP (fun member => tree.slotOf? owner member = some slot) - 1

/-! ## The wording of a replacement -/

theorem head?_append_of_head? {lead rest : String} {first : Char}
    (starts : lead.toList.head? = some first) : (lead ++ rest).toList.head? = some first := by
  rw [String.toList_append, List.head?_append, starts]
  rfl

/-- The reasons that a declaration cannot be bound begin with other characters
than that of a replacement. -/
theorem Unbindable.head?_message (reason : Unbindable) :
    ∃ first ∈ ['u', 't', 'c', 'p'], reason.message.toList.head? = some first := by
  cases reason with
  | unknownTag tag => exact ⟨'u', by decide, head?_append_of_head? rfl⟩
  | wrapsNothing tag =>
      exact ⟨'u', by decide, head?_append_of_head? (head?_append_of_head? rfl)⟩
  | unknownBaseType name =>
      exact ⟨'u', by decide, head?_append_of_head? (head?_append_of_head? rfl)⟩
  | unresolvedType reference => exact ⟨'u', by decide, head?_append_of_head? rfl⟩
  | opaqueTypedef name =>
      exact ⟨'t', by decide, head?_append_of_head? (head?_append_of_head? rfl)⟩
  | unsupportedPointer spelling =>
      exact ⟨'u', by decide, head?_append_of_head? (head?_append_of_head? rfl)⟩
  | unsupportedReference spelling =>
      exact ⟨'u', by decide, head?_append_of_head? (head?_append_of_head? rfl)⟩
  | unsupportedReturn spelling =>
      exact ⟨'c', by decide, head?_append_of_head? (head?_append_of_head? rfl)⟩
  | missingParameterType index =>
      exact ⟨'p', by decide, head?_append_of_head? (head?_append_of_head? rfl)⟩
  | tooDeep => exact ⟨'t', by decide, head?_append_of_head? (head?_append_of_head? rfl)⟩
  | anonymous => exact ⟨'u', by decide, rfl⟩

theorem DropReason.message_eq_replaced_iff (reason : DropReason) :
    reason.message = "replaced by a later overload with the same argument count" ↔
      reason = .replaced := by
  constructor
  · intro same
    have starts : reason.message.toList.head? = some 'r' :=
      congrArg (fun text : String => text.toList.head?) same
    cases reason with
    | replaced => rfl
    | rejected reason => cases reason <;> exact absurd starts (by decide)
    | unbindable reason =>
        obtain ⟨first, member, otherStart⟩ := reason.head?_message
        rw [DropReason.message, otherStart, Option.some.injEq] at starts
        subst starts
        exact absurd member (by decide)
  · rintro rfl
    rfl

/-! ## The grouping -/

namespace SymbolTree

variable (tree : SymbolTree) (owner : NodeId) (scriptName : String)

/-- The bindings of every class group its public members. -/
theorem bindings_groupsMembers :
    GroupsMembers tree owner scriptName (tree.bindings owner scriptName).1 where
  mem_methodNames := fun name => by
    have distinct := tree.distinct_draft owner scriptName
    rw [methodNames_bindings, List.mem_map]
    constructor
    · rintro ⟨⟨_, group⟩, kept, rfl⟩
      obtain ⟨groupEq, nonempty⟩ := (Draft.mem_keptMethods_iff distinct _ _).mp kept
      obtain ⟨arity, hasArity⟩ := (OrderedMap.isEmpty_eq_false_iff group).mp nonempty
      rw [groupEq, mem_keys_group_draft_iff] at hasArity
      obtain ⟨member, isPublic, overload, bound⟩ := hasArity
      exact ⟨member, isPublic, arity, overload, bound⟩
    · rintro ⟨member, isPublic, arity, overload, bound⟩
      refine ⟨(name, (tree.draft owner scriptName).group name .method),
        (Draft.mem_keptMethods_iff distinct _ _).mpr ⟨rfl, ?_⟩, rfl⟩
      rw [OrderedMap.isEmpty_eq_false_iff]
      exact ⟨arity, (mem_keys_group_draft_iff ..).mpr ⟨member, isPublic, overload, bound⟩⟩
  nodup_methodNames := by
    rw [methodNames_bindings]
    exact Draft.nodup_keptMethods (tree.distinct_draft owner scriptName)
  attached := fun name => by
    have distinct := Draft.nodup_keptMethods (tree.distinct_draft owner scriptName)
    rw [ClassNames.count_attachLine, methodNames_bindings, distinct.count]
  source := by
    rw [methodNames_bindings]
    simp only [← ClassNames.supportText_eq]
    exact ⟨_, _, tree.functions_bindings owner scriptName,
      fun method => role_of_mem_map_methodBinding, rfl, rfl, rfl⟩
  ascending := fun function member => by
    obtain ⟨_, group, rfl, arities, _⟩ := tree.of_mem_functions owner scriptName member
    rw [arities]
    exact OverloadSet.keys_sorted_pairwise ((tree.distinct_draft owner scriptName).group _ _)
  mem_arities := fun function member arity => by
    obtain ⟨name, group, rfl, arities, _⟩ := tree.of_mem_functions owner scriptName member
    rw [arities, OverloadSet.mem_keys_sorted_iff, mem_keys_group_draft_iff, name]
  text := fun function member => by
    obtain ⟨name, group, groupEq, arities, text⟩ := tree.of_mem_functions owner scriptName member
    have distinct : group.keys.Nodup :=
      groupEq ▸ (tree.distinct_draft owner scriptName).group _ _
    have called : ∀ arity overload, (arity, overload) ∈ (OverloadSet.sorted group).entries ↔
        tree.LastBoundTo owner ⟨function.role, function.name, arity⟩ overload := by
      intro arity overload
      rw [OverloadSet.mem_entries_sorted_iff distinct, groupEq, get?_group_draft_iff, name]
    have placed : ∀ arity overload, (arity, overload) ∈ (OverloadSet.sorted group).entries →
        overload.arity = arity := by
      intro arity overload entry
      obtain ⟨_, _, _, _, bound, _⟩ := (called arity overload).mp entry
      exact (arity_of_lower bound.lowered).trans bound.arity
    refine ⟨OverloadSet.sorted group, arities.symm, called, placed, text, ?_⟩
    intro arity overload entry
    rw [text]
    exact ClassNames.bodyIn_entryText function.name entry
  replaced := by
    simp only [DropReason.message_eq_replaced_iff]
    change (tree.draft owner scriptName).dropped.filter _ = _
    rw [draft, Draft.replaced_ofVerdicts, verdicts_eq, repeating_map, List.map_map]
    simp only [slot?_declaration]
    rfl
  replacements := fun slot => by
    rw [countP_repeating]
    rfl

end SymbolTree

end Bindery
