import Bindery.Proofs.AttributeForms
import Bindery.Proofs.TextLines

/-!
# Records that are read

The form that every record of a dump has, whatever stands in the dump.  A line
of the dump holds no line feed, and so none of the texts taken from it does.
-/

namespace Bindery

/-! ## Values and addresses -/

/-- A text as a line of a dump holds it: there are no blanks around it and no
line feed in it. -/
structure IsValue (text : String) : Prop where
  trimmed : Text.trimmed text = text
  noFeed : '\n' ∉ text.toList

namespace Record

/-! ## The form of a record -/

/-- The form that every record has which is read from a dump. -/
structure Regular (record : Record) : Prop where
  address_ne_empty : record.address ≠ ""
  address : ∀ c ∈ record.address.toList, isLowerHexDigit c = true
  tag_ne_empty : record.tag.name ≠ ""
  tag_noClose : ')' ∉ record.tag.name.toList
  tag_noFeed : '\n' ∉ record.tag.name.toList
  /-- No tag with a constructor of its own is kept as a text. -/
  tag_eq : Tag.ofName record.tag.name = record.tag
  /-- A record has a name exactly if it has a declared text, and the one is made
  of the other. -/
  name : record.name = record.fullName.map plainName
  fullName : ∀ text ∈ record.fullName, IsValue text
  key_ne_name : "name" ∉ record.attributes.keys
  key_ne_empty : "" ∉ record.attributes.keys
  key : ∀ key ∈ record.attributes.keys, ∀ c ∈ key.toList, Text.isWordChar c = true
  value : ∀ value ∈ record.attributes.values, IsValue value
  distinct : record.attributes.keys.Nodup

/-! ## Headers -/

/-- A header opens a record of the regular form. -/
theorem regular_of_header? {line : List Char} {index : Nat} {record : Record}
    (noFeed : '\n' ∉ line) (found : header? line index = some record) : record.Regular := by
  obtain ⟨pieces, level, abbreviation, valid, rfl, rfl⟩ := header?_eq_some_iff.mp found
  have tagInLine : pieces.tag ⊆ pieces.chars := by
    intro c member
    simp [HeaderPieces.chars, HeaderPieces.afterLevel, member]
  have tag : (pieces.record level abbreviation index).tag = Tag.ofName (String.ofList pieces.tag) :=
    rfl
  constructor
  case address_ne_empty =>
    simpa [HeaderPieces.record, String.ext_iff] using valid.address_ne_nil
  case address =>
    intro c member
    rw [HeaderPieces.record, String.toList_ofList, List.mem_map] at member
    obtain ⟨digit, inAddress, rfl⟩ := member
    exact isLowerHexDigit_toLower (valid.address digit inAddress)
  case tag_ne_empty =>
    rw [tag, Tag.name_ofName]
    simpa [String.ext_iff] using valid.tag_ne_nil
  case tag_noClose =>
    rw [tag, Tag.name_ofName, String.toList_ofList]
    exact valid.tag_noClose
  case tag_noFeed =>
    rw [tag, Tag.name_ofName, String.toList_ofList]
    exact fun member => noFeed (tagInLine member)
  case tag_eq => rw [tag, Tag.name_ofName]
  case name => rfl
  case fullName =>
    intro text held
    cases held
  case distinct => exact List.nodup_nil
  all_goals simp [HeaderPieces.record, OrderedMap.keys, OrderedMap.values]

/-! ## Attributes -/

/-- An attribute has a key of word characters and a trimmed value. -/
theorem isValue_of_attribute? {line : List Char} {key value : String}
    (found : attribute? line = some (key, value)) :
    key ≠ "" ∧ (∀ c ∈ key.toList, Text.isWordChar c = true) ∧ IsValue value := by
  obtain ⟨pieces, rest, valid, _, noFeed, rfl, rfl⟩ := attribute?_eq_some_iff.mp found
  refine ⟨by simpa [String.ext_iff] using valid.key_ne_nil, ?_, ?_, ?_⟩
  · rw [String.toList_ofList]
    exact valid.key
  · rw [Text.trimmed_eq_self_iff, String.toList_ofList]
    exact Text.trim_trim rest
  · rw [String.toList_ofList]
    exact fun member => noFeed ((Text.trimEnd_prefix _).subset member)

theorem Regular.withAttribute {record : Record} (regular : record.Regular) {key value : String}
    (nonempty : key ≠ "") (word : ∀ c ∈ key.toList, Text.isWordChar c = true)
    (isValue : IsValue value) : (record.withAttribute key value).Regular := by
  unfold Record.withAttribute
  split
  · exact { regular with
      name := rfl
      fullName := by
        rintro _ ⟨rfl⟩
        exact isValue }
  · rename_i notName
    have mem_keys : ∀ other ∈ (record.attributes.insert key value).keys,
        other ∈ record.attributes.keys ∨ other = key := by
      intro other member
      rw [OrderedMap.keys_insert] at member
      split at member
      · exact Or.inl member
      · simpa using member
    exact { regular with
      key_ne_name := fun member =>
        (mem_keys _ member).elim regular.key_ne_name fun same => notName same.symm
      key_ne_empty := fun member =>
        (mem_keys _ member).elim regular.key_ne_empty fun same => nonempty same.symm
      key := by
        intro other member
        rcases mem_keys other member with held | rfl
        · exact regular.key other held
        · exact word
      value := by
        intro other member
        rcases OrderedMap.mem_values_insert member with held | rfl
        · exact regular.value other held
        · exact isValue
      distinct := OrderedMap.nodup_keys_insert regular.distinct key value }

theorem Regular.absorb {record : Record} (regular : record.Regular) (index : Nat)
    (lines : List String) : (Block.absorb record index lines).1.Regular := by
  induction lines generalizing record index with
  | nil => exact regular
  | cons line rest ih =>
      rw [Block.absorb]
      cases pair : attribute? line.toList with
      | none => exact ih regular (index + 1)
      | some read =>
          obtain ⟨nonempty, word, isValue⟩ := isValue_of_attribute? pair
          exact ih (regular.withAttribute nonempty word isValue) (index + 1)

/-! ## Dumps -/

theorem header_mem_of_mem_blocksFrom {block : Block} {index : Nat} {lines : List String}
    (member : block ∈ Block.blocksFrom index lines) : block.header ∈ lines := by
  induction lines generalizing index with
  | nil => cases member
  | cons line rest ih =>
      rw [Block.blocksFrom] at member
      split at member
      · rcases List.mem_cons.mp member with rfl | inRest
        · exact List.mem_cons_self
        · exact List.mem_cons_of_mem line (ih inRest)
      · exact List.mem_cons_of_mem line (ih member)

/-- Every record that is read has the regular form. -/
theorem regular_of_mem_ofDump {dump : String} {record : Record}
    (member : record ∈ (ofDump dump).1) : record.Regular := by
  obtain ⟨result, inResults, isRecord⟩ := List.mem_filterMap.mp member
  obtain ⟨block, inBlocks, rfl⟩ := List.mem_map.mp inResults
  have noFeed := Text.not_mem_of_mem_lines (header_mem_of_mem_blocksFrom inBlocks)
  rw [Block.record] at isRecord
  split at isRecord
  · rename_i opened found
    cases isRecord
    exact (regular_of_header? noFeed found).absorb _ _
  · split at isRecord <;> cases isRecord

end Record

end Bindery
