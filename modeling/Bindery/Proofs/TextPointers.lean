import Bindery.Proofs.ReturnedObjects

/-!
# Pointers to text

Between a pointer and the characters that it stands before there may be `const`
and typedefs, in any order.  The spelling of the pointer has the `const` that
comes first.  One that only comes behind a typedef is looked through, like the
typedef, and is lost.
-/

namespace Bindery.SymbolTree

section Constness

variable (tree : SymbolTree)

/-- The links that lead to plain characters. -/
def LeadsToText (pointee : NodeId) (links : List Wrapper) : Prop :=
  ∃ text, tree.Reaches pointee links text ∧
    (tree.node text).tag = .baseType ∧ (tree.node text).name = some "char"

/-- How a pointer to text is written if each `const` on the way counts. -/
def textSpelling (links : List Wrapper) : String :=
  if .const ∈ links then "const char*" else "char*"

/-- Pointers to text are written with `const` exactly if there is one on the way
to the characters. -/
def KeepsConst : Prop :=
  ∀ id pointee links spelling, (tree.node id).tag = .pointerType →
    tree.nativeType (.target id) = .ok ⟨.cString, spelling⟩ →
    tree.typeOf? id = some pointee → tree.LeadsToText pointee links →
    spelling = textSpelling links

end Constness

variable {tree : SymbolTree}

/-- The first link tells what kind of type a chain begins with. -/
theorem Reaches.tag_eq_const_iff {id target : NodeId} {links : List Wrapper}
    (reached : tree.Reaches id links target) :
    (tree.node id).tag = .constType ↔ links.head? = some .const := by
  cases reached with
  | here notConst => simp [notConst]
  | const tag => simp [tag]
  | typedef tag | stringTypedef tag => simp [tag]

/-- Each text has a pointer, and the first link behind it settles the spelling. -/
theorem Denotes.exists_leadsToText {id : NodeId} {walk : Walk} {native : NativeType}
    (denotes : tree.Denotes id walk native) (text : native.category = .cString) :
    ∃ pointee links, tree.PointsAt id pointee ∧ tree.LeadsToText pointee links ∧
      native.spelling = if links.head? = some .const then "const char*" else "char*" := by
  induction denotes with
  | const tag typed below ih =>
      obtain ⟨pointee, links, points, leads, spelled⟩ := ih text
      exact ⟨pointee, links, .const tag typed points, leads, spelled⟩
  | typedef tag named ordinary typed spelled below ih =>
      dsimp only at text ⊢
      obtain ⟨pointee, links, points, leads, spelled⟩ := ih text
      -- Text is not held by value, so the name of the typedef is not taken over.
      refine ⟨pointee, links, .typedef tag typed points, leads, ?_⟩
      rw [text]
      exact spelled
  | text tag typed reached base char =>
      exact ⟨_, _, .pointer tag typed, ⟨_, reached, base, char⟩,
        if_congr reached.tag_eq_const_iff rfl rfl⟩
  | reference => split at text <;> cases text
  | record =>
      dsimp only at text
      split at text <;> cases text
  | boolean | numeric | stringTypedef | integerTypedef | handle | enumeration => cases text

/-- The first link stands for all of them unless it is a typedef with `const`
behind it. -/
theorem textSpelling_eq_iff (links : List Wrapper) :
    (if links.head? = some .const then "const char*" else "char*") = textSpelling links ↔
      ∀ behind, links = .typedef :: behind → .const ∉ behind := by
  rw [textSpelling]
  cases links with
  | nil => simp
  | cons first behind => cases first <;> simp

/-- For every type that is a text, through whatever `const` and typedefs, the
links from its pointer to the characters, and whether they show in its
spelling. -/
theorem nativeType_of_text {id : NodeId} {native : NativeType}
    (accepted : tree.nativeType (.target id) = .ok native)
    (text : native.category = .cString) :
    ∃ pointee links, tree.PointsAt id pointee ∧ tree.LeadsToText pointee links ∧
      (native.spelling = if links.head? = some .const then "const char*" else "char*") ∧
      (native.spelling = textSpelling links ↔
        ∀ behind, links = .typedef :: behind → .const ∉ behind) := by
  obtain ⟨walk, denotes⟩ := linkDenotes_of_nativeType accepted
  cases denotes with
  | target denotes =>
      obtain ⟨pointee, links, points, leads, spelled⟩ := denotes.exists_leadsToText text
      refine ⟨pointee, links, points, leads, spelled, ?_⟩
      rw [spelled]
      exact textSpelling_eq_iff links

/-- The tree of `typedef const char letter;` with the types `letter*` and
`const letter*` and a typedef of the latter. -/
def letterTree : SymbolTree where
  nodes := #[
    { Node.root with children := #[1, 2, 3, 4, 5, 6, 7] },
    { Node.root with
      level := 0, address := "10", abbreviation := 1, tag := .baseType, name := some "char",
      fullName := some "char", line := some 0, parent := some 0 },
    { Node.root with
      level := 0, address := "20", abbreviation := 2, tag := .constType, link := .target 1,
      line := some 2, parent := some 0 },
    { Node.root with
      level := 0, address := "30", abbreviation := 3, tag := .typedef, name := some "letter",
      fullName := some "letter", link := .target 2, line := some 4, parent := some 0 },
    { Node.root with
      level := 0, address := "40", abbreviation := 4, tag := .pointerType, link := .target 3,
      line := some 7, parent := some 0 },
    { Node.root with
      level := 0, address := "50", abbreviation := 2, tag := .constType, link := .target 3,
      line := some 9, parent := some 0 },
    { Node.root with
      level := 0, address := "60", abbreviation := 4, tag := .pointerType, link := .target 5,
      line := some 11, parent := some 0 },
    { Node.root with
      level := 0, address := "70", abbreviation := 3, tag := .typedef, name := some "label",
      fullName := some "label", link := .target 6, line := some 13, parent := some 0 }]

theorem nativeType_of_text_label :
    letterTree.nativeType (.target 7) = .ok ⟨.cString, "const char*"⟩ ∧
      (NativeType.mk .cString "const char*").category = .cString ∧
      ∃ pointee links, letterTree.PointsAt 7 pointee ∧ letterTree.LeadsToText pointee links ∧
        ("const char*" = if links.head? = some .const then "const char*" else "char*") ∧
        ("const char*" = textSpelling links ↔
          ∀ behind, links = .typedef :: behind → .const ∉ behind) := by
  have accepted : letterTree.nativeType (.target 7) = .ok ⟨.cString, "const char*"⟩ := rfl
  exact ⟨accepted, rfl, nativeType_of_text accepted rfl⟩

/-! ## A `const` behind a typedef -/

/-- The characters behind `letter*` are constant, and the spelling does not say so. -/
theorem not_keepsConst_letter : ¬ letterTree.KeepsConst := by
  intro keeps
  have leads : letterTree.LeadsToText 3 [.typedef, .const] :=
    ⟨1, .typedef rfl (by decide +kernel) rfl
      (.const rfl rfl (.here (by decide +kernel) (by decide +kernel))), rfl, rfl⟩
  have spelled : "char*" = textSpelling [.typedef, .const] :=
    keeps 4 3 _ "char*" rfl rfl rfl leads
  exact absurd spelled (by decide)

end Bindery.SymbolTree
