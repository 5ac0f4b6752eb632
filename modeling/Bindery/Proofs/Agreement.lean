import Bindery.NativeType
import Bindery.Proofs.Lowering

/-!
# Trees that agree

What is generated for a class reads the class, its members and their types, and
whatever stands in these.  Two trees that hold the same nodes there give the
same bindings, however much they differ elsewhere.

Every question about a tree comes with one lemma, which says that two such
trees give the same answer.  Where the answer names a node, a second lemma says
that this node is one of those on which the trees agree.
-/

namespace Bindery

namespace SymbolTree

theorem link_of_typeOf? {tree : SymbolTree} {id target : NodeId}
    (named : tree.typeOf? id = some target) : (tree.node id).link = .target target := by
  unfold typeOf? at named
  cases link : (tree.node id).link with
  | absent | raw text => simp [link, Link.node?] at named
  | target node =>
      rw [link] at named
      cases named
      rfl

theorem link_of_wrapped {tree : SymbolTree} {id target : NodeId}
    (named : tree.wrapped id = .ok target) : (tree.node id).link = .target target := by
  unfold wrapped at named
  cases link : (tree.node id).link with
  | absent | raw text => simp [link] at named
  | target node =>
      rw [link] at named
      cases named
      rfl

/-- A member function that is not public. -/
def Hidden (tree : SymbolTree) (id : NodeId) : Prop :=
  (tree.node id).tag = .subprogram ∧ tree.access id ≠ .isPublic

/-- Trees that hold the same nodes wherever bindings look that begin at the
nodes seen.  Hidden functions may differ. -/
structure Agree (first second : SymbolTree) (seen : NodeId → Prop) : Prop where
  node : ∀ id, seen id → second.node id = first.node id
  target : ∀ id, seen id → ∀ target, (first.node id).link = .target target → seen target
  child : ∀ id, seen id → ∀ child ∈ first.children id,
    seen child ∨ (first.Hidden child ∧ second.Hidden child)
  access : ∀ id, seen id → second.access id = first.access id
  qualifiedName? : ∀ id, seen id → second.qualifiedName? id = first.qualifiedName? id

namespace Agree

variable {first second : SymbolTree} {seen : NodeId → Prop}

/-! ## Links -/

theorem typeOf? (agree : Agree first second seen) {id : NodeId} (inside : seen id) :
    second.typeOf? id = first.typeOf? id :=
  congrArg (fun node => node.link.node?) (agree.node id inside)

theorem seen_of_typeOf? (agree : Agree first second seen) {id target : NodeId} (inside : seen id)
    (named : first.typeOf? id = some target) : seen target :=
  agree.target id inside target (link_of_typeOf? named)

theorem wrapped (agree : Agree first second seen) {id : NodeId} (inside : seen id) :
    second.wrapped id = first.wrapped id := by
  rw [SymbolTree.wrapped, agree.node id inside]
  rfl

theorem seen_of_wrapped (agree : Agree first second seen) {id target : NodeId} (inside : seen id)
    (named : first.wrapped id = .ok target) : seen target :=
  agree.target id inside target (link_of_wrapped named)

theorem withoutConstIn? (agree : Agree first second seen) (steps : Nat) {id : NodeId}
    (inside : seen id) : second.withoutConstIn? steps id = first.withoutConstIn? steps id := by
  induction steps generalizing id with
  | zero => rfl
  | succ steps ih =>
      rw [SymbolTree.withoutConstIn?, SymbolTree.withoutConstIn?, agree.node id inside,
        agree.typeOf? inside]
      cases named : first.typeOf? id with
      | none => rfl
      | some target =>
          rw [Option.bind_some, Option.bind_some, ih (agree.seen_of_typeOf? inside named)]

theorem seen_of_withoutConstIn? (agree : Agree first second seen) {steps : Nat}
    {id plain : NodeId} (inside : seen id) (found : first.withoutConstIn? steps id = some plain) :
    seen plain := by
  induction steps generalizing id with
  | zero => cases found
  | succ steps ih =>
      rw [SymbolTree.withoutConstIn?] at found
      split at found
      · rcases Option.bind_eq_some_iff.mp found with ⟨target, named, found⟩
        exact ih (agree.seen_of_typeOf? inside named) found
      · cases found
        exact inside

theorem withoutConst? (agree : Agree first second seen) {id : NodeId} (inside : seen id) :
    second.withoutConst? id = first.withoutConst? id :=
  agree.withoutConstIn? maxConstRun inside

theorem seen_of_withoutConst? (agree : Agree first second seen) {id plain : NodeId}
    (inside : seen id) (found : first.withoutConst? id = some plain) : seen plain :=
  agree.seen_of_withoutConstIn? inside found

/-! ## Spellings -/

theorem spellingIn (agree : Agree first second seen) (links : Nat) {id : NodeId}
    (inside : seen id) : second.spellingIn links id = first.spellingIn links id := by
  induction links generalizing id with
  | zero => rfl
  | succ links ih =>
      have below : ∀ target, first.typeOf? id = some target →
          second.spellingIn links target = first.spellingIn links target :=
        fun target named => ih (agree.seen_of_typeOf? inside named)
      simp only [SymbolTree.spellingIn, agree.node id inside, agree.typeOf? inside,
        agree.wrapped inside, agree.qualifiedName? id inside]
      split
      · split
        · rename_i target named
          rw [below target named]
        · rfl
      · apply bind_congr_of_ok
        intro target named
        rw [ih (agree.seen_of_wrapped inside named)]
      · split
        · rename_i target named
          rw [below target named]
        · rfl
      · rfl
      · rfl

theorem spelling (agree : Agree first second seen) {id : NodeId} (inside : seen id) :
    second.spelling id = first.spelling id :=
  agree.spellingIn (maxTypeDepth + 1) inside

theorem isNamedString (agree : Agree first second seen) {id : NodeId} (inside : seen id) :
    second.isNamedString id = first.isNamedString id := by
  rw [SymbolTree.isNamedString, agree.node id inside]
  rfl

/-! ## Targets of pointers and references -/

theorem underlyingIn (agree : Agree first second seen) (steps : Nat) {id : NodeId}
    (inside : seen id) : second.underlyingIn steps id = first.underlyingIn steps id := by
  induction steps generalizing id with
  | zero => rfl
  | succ steps ih =>
      rw [SymbolTree.underlyingIn, SymbolTree.underlyingIn, agree.withoutConst? inside]
      cases found : first.withoutConst? id with
      | none => rfl
      | some plain =>
          have plainSeen := agree.seen_of_withoutConst? inside found
          simp only [agree.node plain plainSeen, agree.isNamedString plainSeen,
            agree.typeOf? plainSeen, agree.wrapped plainSeen]
          split
          · rfl
          · split
            · cases named : first.typeOf? plain with
              | none => rfl
              | some inner =>
                  simp only [agree.withoutConst? (agree.seen_of_typeOf? plainSeen named)]
            · apply bind_congr_of_ok
              intro inner named
              exact ih (agree.seen_of_wrapped plainSeen named)

theorem seen_of_underlyingIn (agree : Agree first second seen) {steps : Nat}
    {id target : NodeId} (inside : seen id) (found : first.underlyingIn steps id = .ok target) :
    seen target := by
  induction steps generalizing id with
  | zero => cases found
  | succ steps ih =>
      rw [SymbolTree.underlyingIn] at found
      cases plainly : first.withoutConst? id with
      | none => simp [plainly] at found
      | some plain =>
          have plainSeen := agree.seen_of_withoutConst? inside plainly
          simp only [plainly] at found
          split at found
          · cases found
            exact plainSeen
          · split at found
            · cases named : first.typeOf? plain with
              | none =>
                  rw [named] at found
                  cases found
                  exact plainSeen
              | some inner =>
                  have innerSeen := agree.seen_of_typeOf? plainSeen named
                  rw [named] at found
                  cases found
                  cases behind : first.withoutConst? inner with
                  | none => exact innerSeen
                  | some last => exact agree.seen_of_withoutConst? innerSeen behind
            · rcases bind_eq_ok_iff.mp found with ⟨inner, named, found⟩
              exact ih (agree.seen_of_wrapped plainSeen named) found

theorem refusedSpelling (agree : Agree first second seen) {id target : NodeId}
    (inside : seen id) (targetInside : seen target) :
    second.refusedSpelling id target = first.refusedSpelling id target := by
  rw [SymbolTree.refusedSpelling, SymbolTree.refusedSpelling, agree.spelling inside,
    agree.node target targetInside]

theorem pointerType (agree : Agree first second seen) (steps : Nat) {id : NodeId}
    (inside : seen id) : second.pointerType steps id = first.pointerType steps id := by
  rw [SymbolTree.pointerType, SymbolTree.pointerType, agree.typeOf? inside]
  cases named : first.typeOf? id with
  | none => rfl
  | some pointee =>
      have pointeeSeen := agree.seen_of_typeOf? inside named
      simp only [agree.underlyingIn steps pointeeSeen, agree.node pointee pointeeSeen,
        agree.spelling pointeeSeen]
      apply bind_congr_of_ok
      intro target found
      have targetSeen := agree.seen_of_underlyingIn pointeeSeen found
      rw [agree.node target targetSeen, agree.refusedSpelling pointeeSeen targetSeen]

theorem referenceType (agree : Agree first second seen) (steps : Nat) {id : NodeId}
    (inside : seen id) : second.referenceType steps id = first.referenceType steps id := by
  rw [SymbolTree.referenceType, SymbolTree.referenceType, agree.wrapped inside]
  apply bind_congr_of_ok
  intro referent named
  have referentSeen := agree.seen_of_wrapped inside named
  rw [agree.underlyingIn steps referentSeen]
  apply bind_congr_of_ok
  intro target found
  have targetSeen := agree.seen_of_underlyingIn referentSeen found
  rw [agree.node target targetSeen, agree.spelling targetSeen, agree.isNamedString targetSeen,
    agree.refusedSpelling referentSeen targetSeen]

/-! ## Native types -/

theorem nativeTypeIn (agree : Agree first second seen) (links : Nat) {id : NodeId}
    (inside : seen id) : second.nativeTypeIn links id = first.nativeTypeIn links id := by
  induction links generalizing id with
  | zero => rfl
  | succ links ih =>
      simp only [SymbolTree.nativeTypeIn, agree.node id inside, agree.spelling inside,
        agree.typeOf? inside, agree.wrapped inside, agree.pointerType links inside,
        agree.referenceType links inside, agree.isNamedString inside]
      cases (first.node id).tag with
      | typedef =>
          cases (first.node id).name with
          | none => rfl
          | some name =>
              apply bind_congr_of_ok
              intro qualified _
              cases named : first.typeOf? id with
              | none => rfl
              | some inner => simp only [ih (agree.seen_of_typeOf? inside named)]
      | constType =>
          apply bind_congr_of_ok
          intro inner named
          exact ih (agree.seen_of_wrapped inside named)
      | _ => rfl

end Agree

end SymbolTree

end Bindery
