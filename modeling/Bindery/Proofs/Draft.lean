import Bindery.Proofs.Grouping

/-!
# The draft of a class

What a draft holds, said by the declarations that it was made of.  Each fact is
first shown for one more declaration and then for all of them, adding the
declarations at the end.
-/

namespace Bindery.Draft

theorem ofVerdicts_concat (scriptName : String) (earlier : List (String × Verdict))
    (declaration : String × Verdict) :
    ofVerdicts scriptName (earlier ++ [declaration]) =
      (ofVerdicts scriptName earlier).add scriptName declaration :=
  List.foldl_concat ..

/-! ## Parts that a step leaves alone -/

theorem group_drop (draft : Draft) (scriptName dropped : String) (reason : DropReason)
    (name : String) (role : Role) :
    (draft.drop scriptName dropped reason).group name role = draft.group name role := by
  cases role <;> rfl

theorem dropped_drop (draft : Draft) (scriptName name : String) (reason : DropReason) :
    (draft.drop scriptName name reason).dropped = draft.dropped ++ [⟨name, reason⟩] :=
  rfl

theorem dropped_withGroup (draft : Draft) (name : String) (role : Role) (group : OverloadSet) :
    (draft.withGroup name role group).dropped = draft.dropped := by
  cases role <;> rfl

/-- Only the group of the same entry point changes. -/
theorem group_withGroup (draft : Draft) (name other : String) (role otherRole : Role)
    (group : OverloadSet) :
    (draft.withGroup name role group).group other otherRole =
      if role = otherRole ∧ entryName role name = entryName otherRole other then group
      else draft.group other otherRole := by
  cases role <;> cases otherRole <;> try rfl
  simp only [withGroup, Draft.group, methodGroup, OrderedMap.get?_insert, entryName, true_and]
  split <;> rfl

/-- A group is looked up by the name of its entry point. -/
theorem group_congr (draft : Draft) {role : Role} {name other : String}
    (same : entryName role name = entryName role other) :
    draft.group name role = draft.group other role := by
  cases role with
  | constructor => rfl
  | method => exact congrArg draft.methodGroup same

theorem group_withGroup_self (draft : Draft) (name other : String) (role otherRole : Role) :
    (draft.withGroup name role (draft.group name role)).group other otherRole =
      draft.group other otherRole := by
  rw [group_withGroup]
  split
  · rename_i same
    rcases same with ⟨rfl, sameName⟩
    exact draft.group_congr sameName
  · rfl

/-! ## What the groups hold -/

/-- A declaration changes the group of its entry point alone. -/
theorem group_add (scriptName : String) (draft : Draft) (declaration : String × Verdict)
    (name : String) (role : Role) :
    (draft.add scriptName declaration).group name role =
      match placed? declaration with
      | none => draft.group name role
      | some (slot, overload) =>
          if slot.role = role ∧ slot.name = entryName role name then
            (draft.group name role).insert slot.arity overload
          else draft.group name role := by
  rcases declaration with ⟨declared, verdict⟩
  cases verdict with
  | skipped kind => cases role <;> rfl
  | rejected reason => exact draft.group_drop ..
  | unbindable ofRole reason =>
      change (Draft.drop _ _ _ _).group name role = _
      rw [group_drop, group_withGroup_self]
      rfl
  | bound ofRole overload =>
      have placedGroup : ((draft.add scriptName (declared, .bound ofRole overload)).group
          name role) = (draft.withGroup declared ofRole
            ((draft.group declared ofRole).insert overload.arity overload)).group name role := by
        simp only [add]
        split
        · exact group_drop ..
        · rfl
      rw [placedGroup, group_withGroup]
      simp only [placed?]
      split
      · rename_i same
        rcases same with ⟨rfl, sameName⟩
        rw [draft.group_congr sameName]
      · rfl

/-- A declaration puts its overload in its slot and changes no other. -/
theorem get?_group_add (scriptName : String) (draft : Draft)
    (declaration : String × Verdict) (name : String) (role : Role) (arity : Nat) :
    ((draft.add scriptName declaration).group name role).get? arity =
      (placedIn? ⟨role, entryName role name, arity⟩ declaration).or
        ((draft.group name role).get? arity) := by
  rw [group_add, placedIn?]
  cases placed? declaration with
  | none => rfl
  | some placed =>
      rcases placed with ⟨⟨ofRole, ofName, ofArity⟩, overload⟩
      by_cases same : ofRole = role ∧ ofName = entryName role name
      · rcases same with ⟨rfl, rfl⟩
        by_cases sameArity : ofArity = arity <;> simp [OrderedMap.get?_insert, sameArity]
      · have otherSlot : (⟨ofRole, ofName, ofArity⟩ : Slot) ≠
            ⟨role, entryName role name, arity⟩ := by
          intro equal
          exact same ⟨congrArg Slot.role equal, congrArg Slot.name equal⟩
        simp [same, otherSlot]

/-- Each slot holds what its last declaration put there. -/
theorem get?_group_ofVerdicts (scriptName : String) (declarations : List (String × Verdict))
    (name : String) (role : Role) (arity : Nat) :
    ((ofVerdicts scriptName declarations).group name role).get? arity =
      lastIn? ⟨role, entryName role name, arity⟩ declarations := by
  induction declarations using List.reverseRecOn with
  | nil => cases role <;> rfl
  | append_singleton earlier declaration ih =>
      rw [ofVerdicts_concat, get?_group_add, lastIn?_concat, ih]

theorem contains_group_ofVerdicts (scriptName : String)
    (declarations : List (String × Verdict)) (name : String) (role : Role) (arity : Nat) :
    ((ofVerdicts scriptName declarations).group name role).contains arity = true ↔
      ∃ declaration ∈ declarations,
        slot? declaration = some ⟨role, entryName role name, arity⟩ := by
  rw [OrderedMap.contains, get?_group_ofVerdicts, lastIn?_isSome_iff]

/-! ## The order in a group -/

theorem keys_group_add (scriptName : String) (draft : Draft) (declaration : String × Verdict)
    (name : String) (role : Role) :
    ((draft.add scriptName declaration).group name role).keys =
      match (slot? declaration).bind (Slot.arityIn? role (entryName role name)) with
      | none => (draft.group name role).keys
      | some arity =>
          if arity ∈ (draft.group name role).keys then (draft.group name role).keys
          else (draft.group name role).keys ++ [arity] := by
  rw [group_add, slot?]
  cases placed? declaration with
  | none => rfl
  | some placed =>
      simp only [Option.map_some, Option.bind_some, Slot.arityIn?]
      by_cases same : placed.1.role = role ∧ placed.1.name = entryName role name
      · rw [if_pos same, if_pos same]
        exact OrderedMap.keys_insert ..
      · rw [if_neg same, if_neg same]

/-- The numbers of arguments of a group stand in the order in which they are
first taken. -/
theorem keys_group_ofVerdicts (scriptName : String) (declarations : List (String × Verdict))
    (name : String) (role : Role) :
    ((ofVerdicts scriptName declarations).group name role).keys =
      aritiesTaken role (entryName role name) (declarations.filterMap slot?) := by
  induction declarations using List.reverseRecOn with
  | nil => cases role <;> rfl
  | append_singleton earlier declaration ih =>
      rw [ofVerdicts_concat, keys_group_add, ih, List.filterMap_append]
      cases found : slot? declaration with
      | none => simp [found]
      | some slot =>
          rw [List.filterMap_cons, found, List.filterMap_nil]
          exact (aritiesTaken_concat ..).symm

/-! ## Distinct keys -/

/-- No name has two groups, and no group has two overloads of one arity. -/
structure Distinct (draft : Draft) : Prop where
  methods : draft.methods.keys.Nodup
  group : ∀ name role, (draft.group name role).keys.Nodup

theorem distinct_empty : Distinct {} where
  methods := List.nodup_nil
  group := fun _ role => by cases role <;> exact List.nodup_nil

theorem Distinct.drop {draft : Draft} (distinct : draft.Distinct)
    (scriptName name : String) (reason : DropReason) :
    (draft.drop scriptName name reason).Distinct where
  methods := distinct.methods
  group := fun other role => by
    rw [group_drop]
    exact distinct.group other role

theorem Distinct.withGroup {draft : Draft} (distinct : draft.Distinct) (name : String)
    (role : Role) {group : OverloadSet} (distinctGroup : group.keys.Nodup) :
    (draft.withGroup name role group).Distinct where
  methods := by
    cases role with
    | constructor => exact distinct.methods
    | method => exact OrderedMap.nodup_keys_insert distinct.methods name group
  group := fun other otherRole => by
    rw [group_withGroup]
    split
    · exact distinctGroup
    · exact distinct.group other otherRole

theorem Distinct.add {draft : Draft} (distinct : draft.Distinct) (scriptName : String)
    (declaration : String × Verdict) : (draft.add scriptName declaration).Distinct := by
  rcases declaration with ⟨name, verdict⟩
  cases verdict with
  | skipped kind => exact ⟨distinct.methods, distinct.group⟩
  | rejected reason => exact distinct.drop ..
  | unbindable role reason =>
      exact (distinct.withGroup name role (distinct.group name role)).drop ..
  | bound role overload =>
      have placed := distinct.withGroup name role
        (OrderedMap.nodup_keys_insert (distinct.group name role) overload.arity overload)
      simp only [Draft.add]
      split
      · exact placed.drop ..
      · exact placed

theorem distinct_ofVerdicts (scriptName : String) (declarations : List (String × Verdict)) :
    (ofVerdicts scriptName declarations).Distinct := by
  induction declarations using List.reverseRecOn with
  | nil => exact distinct_empty
  | append_singleton earlier declaration ih =>
      rw [ofVerdicts_concat]
      exact ih.add scriptName declaration

/-! ## The kept groups of methods -/

theorem mem_keptMethods_iff {draft : Draft} (distinct : draft.Distinct)
    (name : String) (group : OverloadSet) :
    (name, group) ∈ draft.keptMethods ↔
      group = draft.group name .method ∧ group.isEmpty = false := by
  rw [keptMethods, List.mem_filter, OrderedMap.mem_entries_iff distinct.methods]
  simp only [Bool.not_eq_true', Draft.group, methodGroup]
  constructor
  · rintro ⟨found, nonempty⟩
    exact ⟨by rw [found]; rfl, nonempty⟩
  · rintro ⟨rfl, nonempty⟩
    refine ⟨?_, nonempty⟩
    cases found : draft.methods.get? name with
    | none => rw [found] at nonempty; contradiction
    | some group => rfl

theorem nodup_keptMethods {draft : Draft} (distinct : draft.Distinct) :
    (draft.keptMethods.map Prod.fst).Nodup :=
  distinct.methods.sublist (List.filter_sublist.map Prod.fst)

/-- A kept overload is what some declaration put in its slot. -/
theorem mem_enumerations_ofVerdicts {scriptName : String}
    {declarations : List (String × Verdict)} {enumeration : NodeId}
    (member : enumeration ∈ (ofVerdicts scriptName declarations).enumerations) :
    ∃ declaration ∈ declarations, ∃ role overload,
      declaration.2 = .bound role overload ∧ enumeration ∈ overload.enumerations := by
  have distinct := distinct_ofVerdicts scriptName declarations
  rcases List.mem_flatMap.mp member with ⟨group, inGroups, ofGroup⟩
  rcases List.mem_flatMap.mp ofGroup with ⟨overload, inGroup, ofOverload⟩
  rcases List.mem_map.mp inGroup with ⟨⟨arity, _⟩, entry, rfl⟩
  have named : ∃ name role, group = (ofVerdicts scriptName declarations).group name role := by
    rcases List.mem_append.mp inGroups with method | constructor
    · rcases List.mem_map.mp method with ⟨⟨name, _⟩, kept, rfl⟩
      exact ⟨name, .method, ((mem_keptMethods_iff distinct name _).mp kept).1⟩
    · exact ⟨constructorName, .constructor, List.mem_singleton.mp constructor⟩
  rcases named with ⟨name, role, rfl⟩
  rw [OrderedMap.mem_entries_iff (distinct.group name role), get?_group_ofVerdicts] at entry
  rcases exists_of_lastIn? entry with ⟨declaration, declared, byRole, bound⟩
  exact ⟨declaration, declared, byRole, _, bound, ofOverload⟩

/-! ## Replaced declarations -/

/-- A declaration reports a replacement exactly when its slot is taken. -/
theorem replaced_add (scriptName : String) (draft : Draft) (declaration : String × Verdict) :
    (draft.add scriptName declaration).dropped.filter (fun entry => entry.reason = .replaced) =
      draft.dropped.filter (fun entry => entry.reason = .replaced) ++
        match slot? declaration with
        | none => []
        | some slot =>
            if (draft.group declaration.1 slot.role).contains slot.arity then
              [⟨declaration.1, .replaced⟩]
            else [] := by
  rcases declaration with ⟨name, verdict⟩
  cases verdict with
  | skipped kind => simp [add, slot?, placed?]
  | rejected reason => simp [add, dropped_drop, slot?, placed?]
  | unbindable role reason => simp [add, dropped_drop, dropped_withGroup, slot?, placed?]
  | bound role overload =>
      by_cases taken : (draft.group name role).contains overload.arity = true <;>
        simp [add, dropped_drop, dropped_withGroup, slot?, placed?, taken]

/-- The replacements reported are those of the declarations that found their
slot taken. -/
theorem replaced_ofVerdicts (scriptName : String) (declarations : List (String × Verdict)) :
    (ofVerdicts scriptName declarations).dropped.filter (fun entry => entry.reason = .replaced) =
      (repeating slot? [] declarations).map fun declaration => ⟨declaration.1, .replaced⟩ := by
  induction declarations using List.reverseRecOn with
  | nil => rfl
  | append_singleton earlier declaration ih =>
      rw [repeating_concat, List.map_append, ← ih, ofVerdicts_concat, replaced_add]
      congr 1
      cases slotFound : slot? declaration with
      | none => rfl
      | some slot =>
          have slotName : slot = ⟨slot.role, entryName slot.role declaration.1, slot.arity⟩ :=
            eq_of_slot? slotFound
          have taken := contains_group_ofVerdicts scriptName earlier declaration.1 slot.role
            slot.arity
          rw [← slotName] at taken
          simp only [taken, List.not_mem_nil, false_or]
          split <;> rfl

end Bindery.Draft
