import Bindery.Proofs.ReadRecords
import Bindery.Record

/-!
# Lines that are written

The header line of a record of the regular form is read as its header, and the
line of an attribute as the attribute.  Both are lines of a text as they stand.
-/

namespace Bindery

namespace Record

open Bindery.Text

/-! ## Header lines -/

/-- The pieces of the header line of a record. -/
def headerPieces (record : Record) : HeaderPieces where
  indent := [' ']
  level := (toString record.level.toNat).toList
  address := record.address.toList
  gap := [' ']
  space := [' ']
  abbreviation := (toString record.abbreviation.toNat).toList
  separator := [' ']
  tag := record.tag.name.toList
  rest := []

theorem toList_headerLine (record : Record) :
    record.headerLine.toList = record.headerPieces.chars := by
  simp [headerLine, headerPieces, HeaderPieces.chars, HeaderPieces.afterLevel, Tag.word,
    String.toList_append]

theorem writes_toString (number : UInt32) : Writes (toString number.toNat).toList number :=
  word32?_eq_some_iff.mp (word32?_toString number)

theorem Regular.valid_headerPieces {record : Record} (regular : record.Regular) :
    record.headerPieces.Valid record.level record.abbreviation where
  indent := List.forall_mem_singleton.mpr rfl
  level := writes_toString record.level
  address_ne_nil := by
    rw [headerPieces, Ne, String.toList_eq_nil_iff]
    exact regular.address_ne_empty
  address := fun c member => isHexDigit_iff.mpr (Or.inl (regular.address c member))
  gap := List.forall_mem_singleton.mpr rfl
  space := List.forall_mem_singleton.mpr rfl
  abbreviation := writes_toString record.abbreviation
  separator_ne_nil := List.cons_ne_nil _ _
  separator := List.forall_mem_singleton.mpr rfl
  tag_ne_nil := by
    rw [headerPieces, Ne, String.toList_eq_nil_iff]
    exact regular.tag_ne_empty
  tag_noClose := regular.tag_noClose

/-- The level is read whatever the other pieces are. -/
theorem levelMark?_headerLine (record : Record) :
    levelMark? record.headerLine.toList =
      some ((toString record.level.toNat).toList, record.headerPieces.afterLevel) :=
  levelMark?_eq_some_iff.mpr ⟨[' '], List.forall_mem_singleton.mpr rfl, toList_toString_ne_nil _,
    fun _ member => isDecimal_of_isDigit (isDigit_of_mem_toString member),
    toList_headerLine record⟩

theorem header?_headerLine {record : Record} (regular : record.Regular) (index : Nat) :
    header? record.headerLine.toList index = some {
      level := record.level
      address := record.address
      abbreviation := record.abbreviation
      tag := record.tag
      line := index } := by
  have lower : record.address.toList.map Char.toLower = record.address.toList :=
    (List.map_congr_left fun c member =>
      toLower_of_isLowerHexDigit (regular.address c member)).trans (List.map_id' _)
  refine header?_eq_some_iff.mpr ⟨record.headerPieces, record.level, record.abbreviation,
    regular.valid_headerPieces, (toList_headerLine record).symm, ?_⟩
  simp only [HeaderPieces.record, headerPieces, lower, String.ofList_toList, regular.tag_eq]

/-! ## Attribute lines -/

theorem trimStart_space (chars : List Char) : trimStart (' ' :: chars) = trimStart chars :=
  rfl

theorem attributeLine_eq (key value : String) :
    attributeLine key value = "    <0>   DW_AT_" ++ key ++ " : " ++ value :=
  rfl

/-- The characters of an attribute line after its address. -/
def attributeRest (key value : String) : List Char :=
  "DW_AT_".toList ++ (key.toList ++ ' ' :: ':' :: ' ' :: value.toList)

theorem toList_attributeLine (key value : String) :
    (attributeLine key value).toList =
      ' ' :: ' ' :: ' ' :: ' ' :: '<' :: '0' :: '>' :: ' ' :: ' ' :: ' ' ::
        attributeRest key value := by
  -- Both sides are opened by `change`, because literals make their equations slow.
  change ("    <0>   DW_AT_" ++ key ++ " : " ++ value).toList =
    _ :: _ :: _ :: _ :: _ :: _ :: _ :: _ :: _ :: _ ::
      ("DW_AT_".toList ++ (key.toList ++ ' ' :: ':' :: ' ' :: value.toList))
  simp [String.toList_append]

theorem trimStart_attributeLine (key value : String) :
    trimStart (attributeLine key value).toList =
      ['<'] ++ ('0' :: '>' :: ' ' :: ' ' :: ' ' :: attributeRest key value) := by
  rw [toList_attributeLine]
  simp only [trimStart_space]
  exact trimStart_eq_self (by rintro _ ⟨rfl⟩; rfl)

/-- The address of an attribute line is not followed by another mark, as the
level of a header is. -/
theorem isHeader_attributeLine (key value : String) :
    isHeader (attributeLine key value).toList = false := by
  have digits : run? isDecimal (['0'] ++ '>' :: ' ' :: ' ' :: ' ' :: attributeRest key value) =
      some (['0'], _) :=
    run?_append (List.cons_ne_nil _ _) (List.forall_mem_singleton.mpr rfl)
      (by rintro _ ⟨rfl⟩; rfl)
  have noMark : after? ['>', '<'] ('>' :: ' ' :: ' ' :: ' ' :: attributeRest key value) = none :=
    rfl
  rw [List.singleton_append] at digits
  simp only [isHeader, levelMark?, trimStart_attributeLine, after?_append, Option.bind_eq_bind,
    Option.bind_some, digits, noMark, Option.bind_none, Option.isSome_none]

theorem isAttribute_attributeLine (key value : String) :
    isAttribute (attributeLine key value).toList = true := by
  have indented : (after? [' ', ' '] (attributeLine key value).toList).isSome = true := by
    rw [toList_attributeLine]
    rfl
  simp only [isAttribute, indented, trimStart_attributeLine, after?_append, isHeader_attributeLine,
    Option.isSome_some, Bool.not_false, Bool.and_self]

/-- The pieces of the line of an attribute before its value. -/
def attributePieces (key : String) : AttributePieces where
  indent := [' ', ' ', ' ', ' ']
  address := ['0']
  gap := [' ', ' ', ' ']
  key := key.toList
  space := [' ']

theorem attribute?_attributeLine {key value : String} (nonempty : key ≠ "")
    (word : ∀ c ∈ key.toList, isWordChar c = true) (isValue : IsValue value) :
    attribute? (attributeLine key value).toList = some (key, value) := by
  have valid : (attributePieces key).Valid := {
    indent := List.all_eq_true.mp rfl
    address_ne_nil := List.cons_ne_nil _ _
    address := List.all_eq_true.mp rfl
    gap := List.all_eq_true.mp rfl
    key_ne_nil := by
      rw [attributePieces, Ne, String.toList_eq_nil_iff]
      exact nonempty
    key := word
    space := List.all_eq_true.mp rfl }
  have chars : (attributeLine key value).toList =
      (attributePieces key).lead ++ ' ' :: value.toList := by
    rw [toList_attributeLine, attributeRest]
    simp [attributePieces, AttributePieces.lead]
  have trimmed := trimmed_eq_self_iff.mp isValue.trimmed
  refine attribute?_eq_some_iff.mpr
    ⟨attributePieces key, ' ' :: value.toList, valid, chars, ?_, String.ofList_toList, ?_⟩
  · rw [trimStart_space, trimStart_of_trim_eq trimmed]
    exact isValue.noFeed
  · rw [trim, trimStart_space, ← trim, trimmed, String.ofList_toList]

/-! ## Lines without line feeds -/

theorem Regular.oneLine_headerLine {record : Record} (regular : record.Regular) :
    OneLine record.headerLine := by
  have address : '\n' ∉ record.address.toList :=
    fun member => absurd (regular.address _ member) (by decide)
  apply OneLine.append ⟨by decide, by decide⟩ (by decide)
  simp only [Tag.word, String.toList_append, List.mem_append, not_or, address, regular.tag_noFeed,
    feed_not_mem_toString, not_false_eq_true, and_true]
  decide

theorem oneLine_of_isValue {value : String} (isValue : IsValue value) : OneLine value where
  noFeed := isValue.noFeed
  noReturn := by
    intro isLast
    rw [← trimEnd_of_trim_eq (trimmed_eq_self_iff.mp isValue.trimmed)] at isLast
    exact absurd (isBlank_getLast_trimEnd isLast) (by decide)

theorem oneLine_attributeLine {key value : String}
    (word : ∀ c ∈ key.toList, isWordChar c = true) (isValue : IsValue value) :
    OneLine (attributeLine key value) := by
  have keyFeed : '\n' ∉ key.toList := fun member => absurd (word _ member) (by decide)
  have leadFeed : '\n' ∉ ("    <0>   DW_AT_" ++ key).toList := by
    rw [String.toList_append, List.mem_append, not_or]
    exact ⟨by decide, keyFeed⟩
  have colon : OneLine " : " := ⟨by decide, by decide⟩
  by_cases empty : value = ""
  · rw [empty, attributeLine_eq, String.append_empty]
    exact colon.append (by decide) leadFeed
  · apply (oneLine_of_isValue isValue).append empty
    rw [String.toList_append, List.mem_append, not_or]
    exact ⟨leadFeed, colon.noFeed⟩

end Record

end Bindery
