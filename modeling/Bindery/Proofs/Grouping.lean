import Mathlib.Data.List.Induction
import Bindery.ClassBindings
import Bindery.Proofs.OrderedMap

/-!
# Slots of declarations

A declaration that is bound has a *slot*: the entry point that it belongs to and
its number of arguments.  Two declarations compete exactly when they have the
same slot.  The draft of a class is described here by the slots of the
declarations that it was made of: each slot holds the last of its declarations,
and every declaration that finds its slot taken drops the one before it.
-/

namespace Bindery

/-- The entry point that a declared function of a role belongs to. -/
def entryName : (role : Role) → (declared : String) → String
  | .constructor, _ => constructorName
  | .method, declared => declared

/-- The place of a declaration among the bindings. -/
structure Slot where
  role : Role
  /-- The name of the entry point. -/
  name : String
  arity : Nat
  deriving DecidableEq, Repr

/-- The slot that a declaration takes and what it puts there. -/
def placed? : String × Verdict → Option (Slot × Overload)
  | (name, .bound role overload) =>
      some (⟨role, entryName role name, overload.arity⟩, overload)
  | _ => none

/-- The slot that a declaration takes. -/
def slot? (declaration : String × Verdict) : Option Slot :=
  (placed? declaration).map Prod.fst

theorem eq_of_slot? {declaration : String × Verdict} {slot : Slot}
    (found : slot? declaration = some slot) :
    slot = ⟨slot.role, entryName slot.role declaration.1, slot.arity⟩ := by
  rcases declaration with ⟨name, verdict⟩
  cases verdict with
  | bound role overload =>
      have equal : ⟨role, entryName role name, overload.arity⟩ = slot := Option.some.inj found
      subst equal
      rfl
  | skipped _ | rejected _ | unbindable _ _ => cases found

/-- What a declaration puts in a slot, if it takes that one. -/
def placedIn? (slot : Slot) (declaration : String × Verdict) : Option Overload :=
  (placed? declaration).bind fun placed =>
    if placed.1 = slot then some placed.2 else none

/-- What the last declaration of a slot puts there. -/
def lastIn? (slot : Slot) (declarations : List (String × Verdict)) : Option Overload :=
  declarations.reverse.findSome? (placedIn? slot)

theorem lastIn?_concat (slot : Slot) (declarations : List (String × Verdict))
    (declaration : String × Verdict) :
    lastIn? slot (declarations ++ [declaration]) =
      (placedIn? slot declaration).or (lastIn? slot declarations) := by
  simp only [lastIn?, List.reverse_append, List.reverse_singleton, List.singleton_append,
    List.findSome?_cons]
  cases placedIn? slot declaration <;> rfl

theorem placedIn?_isSome_iff (slot : Slot) (declaration : String × Verdict) :
    (placedIn? slot declaration).isSome ↔ slot? declaration = some slot := by
  unfold placedIn? slot?
  cases placed? declaration with
  | none => simp
  | some placed => by_cases same : placed.1 = slot <;> simp [same]

theorem lastIn?_isSome_iff (slot : Slot) (declarations : List (String × Verdict)) :
    (lastIn? slot declarations).isSome ↔
      ∃ declaration ∈ declarations, slot? declaration = some slot := by
  simp only [lastIn?, List.findSome?_isSome_iff, List.mem_reverse, placedIn?_isSome_iff]

theorem exists_of_lastIn? {slot : Slot} {declarations : List (String × Verdict)}
    {overload : Overload} (found : lastIn? slot declarations = some overload) :
    ∃ declaration ∈ declarations, ∃ role, declaration.2 = .bound role overload := by
  rcases List.exists_of_findSome?_eq_some found with ⟨declaration, member, placed⟩
  refine ⟨declaration, List.mem_reverse.mp member, ?_⟩
  rcases Option.bind_eq_some_iff.mp placed with ⟨⟨_, held⟩, puts, same⟩
  rcases declaration with ⟨name, verdict⟩
  cases verdict with
  | bound role _ =>
      cases puts
      split at same
      · cases same
        exact ⟨role, rfl⟩
      · cases same
  | skipped _ | rejected _ | unbindable _ _ => cases puts

/-! ## Reading from the end -/

universe u v

/-- A list read from the end up to an item is split after that item. -/
theorem exists_split_reverse_iff {α : Type u} {items : List α} {found : α} {passed : α → Prop} :
    (∃ after before, items.reverse = after ++ found :: before ∧ ∀ item ∈ after, passed item) ↔
      ∃ before after, items = before ++ found :: after ∧ ∀ item ∈ after, passed item := by
  constructor
  · rintro ⟨after, before, split, all⟩
    refine ⟨before.reverse, after.reverse, ?_, fun item member => ?_⟩
    · simpa using congrArg List.reverse split
    · exact all item (List.mem_reverse.mp member)
  · rintro ⟨before, after, split, all⟩
    refine ⟨after.reverse, before.reverse, ?_, fun item member => ?_⟩
    · simp [split]
    · exact all item (List.mem_reverse.mp member)

/-! ## The order of slots -/

/-- An item at the end of a list is dropped as a duplicate or comes last. -/
theorem eraseDups_concat {α : Type u} [DecidableEq α] (items : List α) (item : α) :
    (items ++ [item]).eraseDups =
      if item ∈ items.eraseDups then items.eraseDups else items.eraseDups ++ [item] := by
  rw [List.eraseDups_append]
  simp only [List.mem_eraseDups]
  split <;> simp_all [List.removeAll, List.eraseDups_cons]

/-- The number of arguments of a slot, if it belongs to the entry point. -/
def Slot.arityIn? (role : Role) (name : String) (slot : Slot) : Option Nat :=
  if slot.role = role ∧ slot.name = name then some slot.arity else none

/-- The numbers of arguments of an entry point in the order in which they are
first taken. -/
def aritiesTaken (role : Role) (name : String) (slots : List Slot) : List Nat :=
  (slots.filterMap (Slot.arityIn? role name)).eraseDups

theorem aritiesTaken_concat (role : Role) (name : String) (slots : List Slot) (slot : Slot) :
    aritiesTaken role name (slots ++ [slot]) =
      match slot.arityIn? role name with
      | none => aritiesTaken role name slots
      | some arity =>
          if arity ∈ aritiesTaken role name slots then aritiesTaken role name slots
          else aritiesTaken role name slots ++ [arity] := by
  rw [aritiesTaken, List.filterMap_append]
  cases found : slot.arityIn? role name with
  | none => simp [found, aritiesTaken]
  | some arity =>
      rw [List.filterMap_cons, found, List.filterMap_nil]
      exact eraseDups_concat _ _

theorem mem_aritiesTaken_iff (role : Role) (name : String) (slots : List Slot) (arity : Nat) :
    arity ∈ aritiesTaken role name slots ↔ ⟨role, name, arity⟩ ∈ slots := by
  simp only [aritiesTaken, List.mem_eraseDups, List.mem_filterMap, Slot.arityIn?,
    Option.ite_none_right_eq_some, Option.some.injEq]
  constructor
  · rintro ⟨slot, member, ⟨rfl, rfl⟩, rfl⟩
    exact member
  · intro member
    exact ⟨_, member, ⟨rfl, rfl⟩, rfl⟩

/-! ## Declarations that find their slot taken -/

/-- The items whose key is taken, be it beforehand or by an item before them.
Items without a key take none. -/
def repeating {α : Type u} {κ : Type v} [DecidableEq κ] (key? : α → Option κ) :
    (taken : List κ) → List α → List α
  | _, [] => []
  | taken, item :: rest =>
      match key? item with
      | none => repeating key? taken rest
      | some key =>
          if key ∈ taken then item :: repeating key? taken rest
          else repeating key? (key :: taken) rest

section Repeating

variable {α : Type u} {κ : Type v} [DecidableEq κ] (key? : α → Option κ)

theorem repeating_concat (taken : List κ) (items : List α) (item : α) :
    repeating key? taken (items ++ [item]) =
      repeating key? taken items ++
        match key? item with
        | none => []
        | some key =>
            if key ∈ taken ∨ ∃ earlier ∈ items, key? earlier = some key then [item] else [] := by
  induction items generalizing taken with
  | nil => cases found : key? item <;> simp [repeating, found]
  | cons first rest ih =>
      cases firstKey : key? first with
      | none =>
          simp only [List.cons_append, repeating, firstKey, ih]
          simp [firstKey]
      | some key =>
          by_cases member : key ∈ taken
          · simp only [List.cons_append, repeating, firstKey, member, if_true, ih]
            congr 1
            cases key? item with
            | none => rfl
            | some other =>
                by_cases same : key = other
                · subst same
                  simp [member]
                · simp [firstKey, same]
          · simp only [List.cons_append, repeating, firstKey, member, if_false, ih]
            congr 1
            cases key? item with
            | none => rfl
            | some other =>
                simp only [List.mem_cons, exists_eq_or_imp, firstKey, Option.some.injEq,
                  eq_comm (a := other), or_assoc, or_left_comm]

/-- Of the items with one key all but the first repeat it. -/
theorem countP_repeating (taken : List κ) (items : List α) (key : κ) :
    (repeating key? taken items).countP (fun item => key? item = some key) =
      items.countP (fun item => key? item = some key) - if key ∈ taken then 0 else 1 := by
  induction items generalizing taken with
  | nil => simp [repeating]
  | cons first rest ih =>
      cases firstKey : key? first with
      | none => simp [repeating, firstKey, ih]
      | some other =>
          by_cases member : other ∈ taken
          · by_cases same : other = key
            · subst same
              simp [repeating, firstKey, member, ih]
            · simp [repeating, firstKey, member, ih, same]
          · by_cases same : other = key
            · subst same
              simp [repeating, firstKey, member, ih]
            · simp [repeating, firstKey, member, ih, same, Ne.symm same]

theorem repeating_map {β : Type u} (make : β → α) (taken : List κ) (items : List β) :
    repeating key? taken (items.map make) =
      (repeating (fun item => key? (make item)) taken items).map make := by
  induction items generalizing taken with
  | nil => rfl
  | cons first rest ih =>
      simp only [List.map_cons, repeating, ih]
      cases key? (make first) with
      | none => rfl
      | some key => by_cases member : key ∈ taken <;> simp [member]

end Repeating

end Bindery
