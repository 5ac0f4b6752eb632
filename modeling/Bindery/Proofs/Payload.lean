import Bindery.Proofs.NativeType

/-!
# The nodes that native types speak of

A category that speaks of a node speaks of one that fits it: an enumeration or a
record.  Enumerations have a name, and so has every record that is held by value
or by reference.  These facts come from the rules, so they hold at the end of
every chain.
-/

namespace Bindery

/-- The class or structure that a category speaks of. -/
def Category.record? : Category → Option NodeId
  | .handle node | .byReference node | .object node => some node
  | .void | .numeric | .boolean | .ownedString | .cString | .enumeration _ => none

namespace SymbolTree

variable {tree : SymbolTree}

/-! ## Names -/

theorem isSome_qualifiedName?_iff (id : NodeId) :
    (tree.qualifiedName? id).isSome ↔ (tree.node id).name.isSome := by
  rw [qualifiedName?, Option.isSome_map]

/-- A class or structure with a name can be spelled. -/
theorem exists_spelling_of_isRecord {id : NodeId} (record : (tree.node id).tag.isRecord = true)
    (named : (tree.node id).name.isSome) : ∃ spelling, tree.spelling id = .ok spelling := by
  obtain ⟨qualified, qualifies⟩ :=
    Option.isSome_iff_exists.mp ((isSome_qualifiedName?_iff id).mpr named)
  by_cases template : (tree.node id).name.any isStringTemplate = true
  · exact ⟨_, (Spells.libraryString record template).spelling_of_isRecord record⟩
  · refine ⟨_, Spells.spelling_of_isRecord (.named ?_ ?_ qualifies) record⟩
    · exact Tag.not_mem_of_isRecord record (by decide)
    · rw [record, Bool.true_and]
      exact Bool.eq_false_iff.mpr template

/-! ## Payloads -/

theorem Denotes.isRecord {id record : NodeId} {walk : Walk} {native : NativeType}
    (denotes : tree.Denotes id walk native) (speaks : native.category.record? = some record) :
    (tree.node record).tag.isRecord = true := by
  induction denotes with
  | const _ _ _ ih | typedef _ _ _ _ _ _ ih => exact ih speaks
  | handle _ _ _ isRecord =>
      cases speaks
      exact isRecord
  | reference _ _ _ isRecord =>
      split at speaks
      · cases speaks
      · cases speaks
        exact isRecord
  | record isRecord =>
      dsimp only at speaks
      split at speaks
      · cases speaks
      · cases speaks
        exact isRecord
  | boolean | numeric | stringTypedef | integerTypedef | text | enumeration => cases speaks

/-- A record that is held by value or by reference can be spelled.  One that is
only pointed to may be unnamed, behind the name of a typedef. -/
theorem Denotes.exists_spelling {id record : NodeId} {walk : Walk} {native : NativeType}
    (denotes : tree.Denotes id walk native)
    (speaks : native.category = .object record ∨ native.category = .byReference record) :
    ∃ spelling, tree.spelling record = .ok spelling := by
  induction denotes with
  | const _ _ _ ih | typedef _ _ _ _ _ _ ih => exact ih speaks
  | reference _ _ _ isRecord spelled =>
      split at speaks
      · simp at speaks
      · simp only [reduceCtorEq, Category.byReference.injEq, false_or] at speaks
        exact ⟨_, speaks ▸ spelled.spelling_of_isRecord isRecord⟩
  | record isRecord spelled =>
      dsimp only at speaks
      split at speaks
      · simp at speaks
      · simp only [reduceCtorEq, Category.object.injEq, or_false] at speaks
        exact ⟨_, speaks ▸ spelled.spelling_of_isRecord isRecord⟩
  | boolean | numeric | stringTypedef | integerTypedef | text | handle | enumeration =>
      simp at speaks

/-- An enumeration that is used as a type has a name. -/
theorem Denotes.isSome_name {id enumeration : NodeId} {walk : Walk} {native : NativeType}
    (denotes : tree.Denotes id walk native)
    (speaks : native.category = .enumeration enumeration) :
    (tree.node enumeration).name.isSome := by
  induction denotes with
  | const _ _ _ ih | typedef _ _ _ _ _ _ ih => exact ih speaks
  | enumeration tag spelled =>
      cases speaks
      cases spelled with
      | named _ _ qualifies =>
          exact (isSome_qualifiedName?_iff _).mp (Option.isSome_of_eq_some qualifies)
      | _ => simp_all [Tag.isRecord]
  | reference =>
      split at speaks <;> cases speaks
  | record =>
      dsimp only at speaks
      split at speaks <;> cases speaks
  | boolean | numeric | stringTypedef | integerTypedef | text | handle => cases speaks

/-! ## Native types of links -/

/-- A link is `void` or has the meaning of a node. -/
theorem denotes_of_nativeType {link : Link} {native : NativeType}
    (found : tree.nativeType link = .ok native) :
    native = ⟨.void, "void"⟩ ∨ ∃ id walk, tree.Denotes id walk native := by
  obtain ⟨walk, denotes⟩ := linkDenotes_of_nativeType found
  cases denotes with
  | absent => exact Or.inl rfl
  | target denotes => exact Or.inr ⟨_, walk, denotes⟩

theorem isRecord_of_nativeType {link : Link} {native : NativeType} {record : NodeId}
    (found : tree.nativeType link = .ok native) (speaks : native.category.record? = some record) :
    (tree.node record).tag.isRecord = true := by
  rcases denotes_of_nativeType found with rfl | ⟨_, _, denotes⟩
  · cases speaks
  · exact denotes.isRecord speaks

theorem exists_spelling_of_nativeType {link : Link} {native : NativeType} {record : NodeId}
    (found : tree.nativeType link = .ok native)
    (speaks : native.category = .object record ∨ native.category = .byReference record) :
    ∃ spelling, tree.spelling record = .ok spelling := by
  rcases denotes_of_nativeType found with rfl | ⟨_, _, denotes⟩
  · simp at speaks
  · exact denotes.exists_spelling speaks

theorem isSome_name_of_nativeType {link : Link} {native : NativeType} {enumeration : NodeId}
    (found : tree.nativeType link = .ok native)
    (speaks : native.category = .enumeration enumeration) :
    (tree.node enumeration).name.isSome := by
  rcases denotes_of_nativeType found with rfl | ⟨_, _, denotes⟩
  · cases speaks
  · exact denotes.isSome_name speaks

end SymbolTree

end Bindery
