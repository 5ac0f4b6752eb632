import Bindery.Proofs.Agreement
import Bindery.Proofs.TypeRules

/-!
# Bounded walks along types

Types are looked through by walks that give up after a number of steps: one for
a run of `const`, one for what stands behind a pointer or reference and one for
a spelling.  Each of them has a lemma in both directions.  What a walk finds is
what the rules say, and what the rules say is found by a walk that is long
enough.
-/

namespace Bindery

theorem Tag.ne_of_isRecord {tag other : Tag} (record : tag.isRecord = true)
    (plain : other.isRecord = false) : tag ≠ other := by
  rintro rfl
  exact absurd (record.symm.trans plain) (by decide)

theorem Tag.not_mem_of_isRecord {tag : Tag} {others : List Tag} (record : tag.isRecord = true)
    (plain : ∀ other ∈ others, other.isRecord = false) : tag ∉ others :=
  fun member => ne_of_isRecord record (plain tag member) rfl

/-! ## Runs of `const` -/

/-- The length of the run of `const` at the beginning. -/
def leadingConsts (links : List Wrapper) : Nat :=
  (links.takeWhile (· = .const)).length

namespace ConstRunsWithin

variable {bound : Nat} {links : List Wrapper}

theorem tail {link : Wrapper} (within : ConstRunsWithin bound (link :: links)) :
    ConstRunsWithin bound links :=
  fun count run => within count (run.trans (List.suffix_cons link links).isInfix)

theorem leadingConsts_le (within : ConstRunsWithin bound links) :
    leadingConsts links ≤ bound := by
  apply within
  have run : List.replicate (leadingConsts links) .const = links.takeWhile (· = .const) := by
    rw [eq_comm, List.eq_replicate_iff]
    exact ⟨rfl, fun link member =>
      of_decide_eq_true (List.all_eq_true.mp List.all_takeWhile link member)⟩
  rw [run]
  exact (List.takeWhile_prefix _).isInfix

end ConstRunsWithin

namespace SymbolTree

variable {tree : SymbolTree}

theorem wrapped_eq_ok_iff {id inner : NodeId} :
    tree.wrapped id = .ok inner ↔ tree.typeOf? id = some inner := by
  constructor
  · intro found
    rw [typeOf?, link_of_wrapped found]
    rfl
  · intro typed
    rw [wrapped, link_of_typeOf? typed]

theorem isNamedString_eq {id : NodeId} {name : String} (named : (tree.node id).name = some name) :
    tree.isNamedString id = isStringLike name := by
  rw [isNamedString, named]
  rfl

/-! ## Looking through `const` -/

theorem withoutConstIn?_of_const {steps : Nat} {id inner : NodeId}
    (tag : (tree.node id).tag = .constType) (typed : tree.typeOf? id = some inner) :
    tree.withoutConstIn? (steps + 1) id = tree.withoutConstIn? steps inner := by
  rw [withoutConstIn?, if_pos tag, typed]
  rfl

theorem unqualified_of_withoutConstIn? {steps : Nat} {id target : NodeId}
    (found : tree.withoutConstIn? steps id = some target) :
    ∃ links, tree.Unqualified id links target := by
  induction steps generalizing id with
  | zero => cases found
  | succ steps ih =>
      rw [withoutConstIn?] at found
      split at found
      · rename_i tag
        obtain ⟨inner, typed, found⟩ := Option.bind_eq_some_iff.mp found
        obtain ⟨links, below⟩ := ih found
        exact ⟨.const :: links, .const tag typed below⟩
      · rename_i tag
        cases found
        exact ⟨[], .here tag⟩

theorem Unqualified.withoutConstIn? {id target : NodeId} {links : List Wrapper} {steps : Nat}
    (found : tree.Unqualified id links target) (short : leadingConsts links < steps) :
    tree.withoutConstIn? steps id = some target := by
  induction found generalizing steps with
  | here tag =>
      cases steps with
      | zero => cases short
      | succ steps => simp [SymbolTree.withoutConstIn?, tag]
  | const tag typed below ih =>
      cases steps with
      | zero => cases short
      | succ steps =>
          rw [withoutConstIn?_of_const tag typed]
          exact ih (Nat.lt_of_succ_lt_succ short)

/-- Where the run of `const` has no end its first node is taken, which is the
end of a run only if it is no `const`. -/
theorem unqualified_of_getD {id target : NodeId}
    (found : (tree.withoutConst? id).getD id = target)
    (notConst : (tree.node target).tag ≠ .constType) :
    ∃ links, tree.Unqualified id links target := by
  cases plainly : tree.withoutConst? id with
  | none =>
      rw [plainly, Option.getD_none] at found
      subst found
      exact ⟨[], .here notConst⟩
  | some plain =>
      rw [plainly, Option.getD_some] at found
      subst found
      exact unqualified_of_withoutConstIn? plainly

/-! ## Behind a pointer or reference -/

theorem Reaches.of_unqualified {id plain target : NodeId} {run links : List Wrapper}
    (unqualified : tree.Unqualified id run plain) (reached : tree.Reaches plain links target) :
    tree.Reaches id (run ++ links) target := by
  induction unqualified with
  | here => exact reached
  | const tag typed below ih => exact .const tag typed (ih reached)

/-- A walk that ends at a `const` or typedef has not found what the pointer or
reference stands before. -/
theorem reaches_of_underlyingIn {steps : Nat} {id target : NodeId}
    (found : tree.underlyingIn steps id = .ok target)
    (notConst : (tree.node target).tag ≠ .constType)
    (notTypedef : (tree.node target).tag ≠ .typedef) :
    ∃ links, tree.Reaches id links target := by
  induction steps generalizing id with
  | zero => cases found
  | succ steps ih =>
      rw [underlyingIn] at found
      cases plainly : tree.withoutConst? id with
      | none => simp [plainly] at found
      | some plain =>
          -- Each step takes a whole run of `const` away, so what is left to look at is no `const`.
          obtain ⟨run, unqualified⟩ := unqualified_of_withoutConstIn? plainly
          suffices behind : ∃ links, tree.Reaches plain links target from
            behind.imp' (run ++ ·) fun links reached => .of_unqualified unqualified reached
          simp only [plainly] at found
          split at found
          · cases found
            exact ⟨[], .here notConst notTypedef⟩
          · rename_i tag
            rw [ne_eq, Decidable.not_not] at tag
            split at found
            · rename_i string
              cases typed : tree.typeOf? plain with
              | none =>
                  rw [typed] at found
                  cases found
                  contradiction
              | some inner =>
                  rw [typed] at found
                  obtain ⟨links, below⟩ := unqualified_of_getD (Except.ok.inj found) notConst
                  exact ⟨.typedef :: links, .stringTypedef tag string typed below⟩
            · rename_i ordinary
              obtain ⟨inner, typed, found⟩ := bind_eq_ok_iff.mp found
              obtain ⟨links, below⟩ := ih found
              exact ⟨.typedef :: links, .typedef tag (Bool.eq_false_iff.mpr ordinary)
                (wrapped_eq_ok_iff.mp typed) below⟩

/-- One step more makes no difference to a run of `const` that ends before. -/
theorem Reaches.withoutConstIn?_succ {id target : NodeId} {links : List Wrapper} {steps : Nat}
    (reached : tree.Reaches id links target) (short : leadingConsts links < steps) :
    tree.withoutConstIn? (steps + 1) id = tree.withoutConstIn? steps id := by
  induction reached generalizing steps with
  | here notConst =>
      obtain ⟨steps, rfl⟩ := Nat.exists_eq_add_of_lt short
      simp [withoutConstIn?, notConst]
  | typedef tag | stringTypedef tag =>
      obtain ⟨steps, rfl⟩ := Nat.exists_eq_add_of_lt short
      simp [withoutConstIn?, tag]
  | const tag typed below ih =>
      cases steps with
      | zero => cases short
      | succ steps =>
          rw [withoutConstIn?_of_const tag typed, withoutConstIn?_of_const tag typed]
          exact ih (Nat.lt_of_succ_lt_succ short)

theorem underlyingIn_congr {steps : Nat} {first second : NodeId}
    (same : tree.withoutConst? first = tree.withoutConst? second) :
    tree.underlyingIn steps first = tree.underlyingIn steps second := by
  cases steps with
  | zero => rfl
  | succ steps => rw [underlyingIn, underlyingIn, same]

/-- A short walk finds what stands behind a pointer or reference. -/
theorem Reaches.underlyingIn {id target : NodeId} {links : List Wrapper} {steps : Nat}
    (reached : tree.Reaches id links target) (runs : ConstRunsWithin 7 links)
    (short : links.length < steps) : tree.underlyingIn steps id = .ok target := by
  have plain : ∀ id, (tree.node id).tag ≠ .constType → tree.withoutConst? id = some id :=
    fun id tag => Unqualified.withoutConstIn? (.here tag) (by decide)
  induction reached generalizing steps with
  | here notConst notTypedef =>
      obtain ⟨steps, rfl⟩ := Nat.exists_eq_add_of_lt short
      simp [SymbolTree.underlyingIn, plain _ notConst, notTypedef]
  | @const id inner _ links tag typed below ih =>
      -- A `const` costs no step: the walk finds the same behind it as from it.
      have few : leadingConsts links < 7 := runs.leadingConsts_le
      have same : tree.withoutConst? id = tree.withoutConst? inner := by
        rw [withoutConst?, maxConstRun, withoutConstIn?_of_const tag typed]
        exact (below.withoutConstIn?_succ few).symm
      rw [underlyingIn_congr same]
      exact ih runs.tail (Nat.lt_of_succ_lt short)
  | @typedef id inner _ links tag ordinary typed below ih =>
      cases steps with
      | zero => cases short
      | succ steps =>
          rw [SymbolTree.underlyingIn, plain id (by simp [tag])]
          simp only [tag, ordinary, wrapped_eq_ok_iff.mpr typed]
          exact ih runs.tail (Nat.lt_of_succ_lt_succ short)
  | @stringTypedef id inner target links tag string typed below =>
      cases steps with
      | zero => cases short
      | succ steps =>
          have behind : tree.withoutConst? inner = some target :=
            below.withoutConstIn? (Nat.lt_succ_of_le runs.tail.leadingConsts_le)
          rw [SymbolTree.underlyingIn, plain id (by simp [tag])]
          simp [tag, string, typed, behind]

/-! ## Spellings -/

theorem spells_of_spellingIn {links : Nat} {id : NodeId} {spelling : String}
    (found : tree.spellingIn links id = .ok spelling) : tree.Spells id spelling := by
  induction links generalizing id spelling with
  | zero => cases found
  | succ links ih =>
      rw [spellingIn] at found
      split at found
      · rename_i tag
        split at found
        · rename_i inner typed
          obtain ⟨below, foundBelow, found⟩ := bind_eq_ok_iff.mp found
          cases found
          exact .pointer tag typed (ih foundBelow)
        · rename_i untyped
          cases found
          exact .untypedPointer tag untyped
      · rename_i tag
        obtain ⟨inner, typed, found⟩ := bind_eq_ok_iff.mp found
        obtain ⟨below, foundBelow, found⟩ := bind_eq_ok_iff.mp found
        cases found
        exact .reference tag (wrapped_eq_ok_iff.mp typed) (ih foundBelow)
      · rename_i tag
        split at found
        · rename_i inner typed
          obtain ⟨below, foundBelow, found⟩ := bind_eq_ok_iff.mp found
          cases found
          exact .const tag typed (ih foundBelow)
        · rename_i untyped
          cases found
          exact .untypedConst tag untyped
      · rename_i tag
        cases named : (tree.node id).name with
        | none => simp [named] at found
        | some name =>
            rw [named] at found
            cases found
            exact .base tag named
      · split at found
        · rename_i template
          rw [Bool.and_eq_true] at template
          cases found
          exact .libraryString template.1 template.2
        · rename_i plain
          cases qualifies : tree.qualifiedName? id with
          | none => simp [qualifies] at found
          | some qualified =>
              rw [qualifies] at found
              cases found
              exact .named (by simp_all) (Bool.eq_false_iff.mpr plain) qualifies

/-- A type that wraps no other one is spelled at once. -/
theorem Spells.spellingIn_succ {id : NodeId} {spelling : String} (links : Nat)
    (spelled : tree.Spells id spelling)
    (single : (tree.node id).tag ∉ [.pointerType, .referenceType, .constType]) :
    tree.spellingIn (links + 1) id = .ok spelling := by
  rw [spellingIn]
  cases spelled with
  | pointer tag | untypedPointer tag | reference tag | const tag | untypedConst tag =>
      simp [tag] at single
  | base tag named => simp [tag, named]
  | libraryString tag template => split <;> simp_all [Tag.isRecord]
  | named tag plain qualifies => split <;> simp_all

theorem Spells.spelling_eq {id : NodeId} {spelling : String} (spelled : tree.Spells id spelling)
    (single : (tree.node id).tag ∉ [.pointerType, .referenceType, .constType]) :
    tree.spelling id = .ok spelling :=
  spelled.spellingIn_succ maxTypeDepth single

theorem Spells.spelling_of_isRecord {id : NodeId} {spelling : String}
    (spelled : tree.Spells id spelling) (record : (tree.node id).tag.isRecord = true) :
    tree.spelling id = .ok spelling :=
  spelled.spelling_eq (Tag.not_mem_of_isRecord record (by decide))

/-- A type in front of a record is spelled after its run of `const`: what comes
next has a name. -/
theorem Reaches.spellingIn {id target : NodeId} {links : List Wrapper} {spelling : String}
    {steps : Nat} (reached : tree.Reaches id links target)
    (record : (tree.node target).tag.isRecord = true) (spelled : tree.Spells id spelling)
    (short : leadingConsts links < steps) : tree.spellingIn steps id = .ok spelling := by
  induction reached generalizing spelling steps with
  | here =>
      obtain ⟨steps, rfl⟩ := Nat.exists_eq_add_of_lt short
      exact spelled.spellingIn_succ _ (Tag.not_mem_of_isRecord record (by decide))
  | typedef tag | stringTypedef tag =>
      obtain ⟨steps, rfl⟩ := Nat.exists_eq_add_of_lt short
      exact spelled.spellingIn_succ _ (by simp [tag])
  | const tag typed below ih =>
      cases steps with
      | zero => cases short
      | succ steps =>
          cases spelled with
          | const _ typedAgain spelledBelow =>
              cases typed.symm.trans typedAgain
              rw [SymbolTree.spellingIn]
              simp only [tag, typed, ih record spelledBelow (Nat.lt_of_succ_lt_succ short)]
              rfl
          | _ => simp_all [Tag.isRecord]

end SymbolTree

end Bindery
