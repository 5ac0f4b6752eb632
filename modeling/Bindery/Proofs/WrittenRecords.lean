import Mathlib.Data.List.TakeWhile
import Bindery.Proofs.WrittenLines

/-!
# Reading what is written

Records of the regular form are written as lines that are read back without a
finding.  Since every record that is read is regular, a dump that is written from
the records of a dump holds the same records in the same order, each at the line
where it now stands.
-/

namespace Bindery.Record

open Bindery.Text

/-! ## The lines of a record -/

/-- The attribute lines of a record. -/
def attributeLines (record : Record) : List String :=
  (record.fullName.map (attributeLine "name")).toList ++
    record.attributes.entries.map fun entry => attributeLine entry.1 entry.2

theorem lines_eq (record : Record) : record.lines = record.headerLine :: record.attributeLines :=
  rfl

theorem isWordChar_of_mem_name {c : Char} (member : c ∈ "name".toList) : isWordChar c = true := by
  have letters : "name".toList = ['n', 'a', 'm', 'e'] := rfl
  simp only [letters, List.mem_cons, List.not_mem_nil, or_false] at member
  rcases member with rfl | rfl | rfl | rfl <;> rfl

/-- Every attribute line of a record is written from a key and a value. -/
theorem Regular.exists_of_mem_attributeLines {record : Record} (regular : record.Regular)
    {line : String} (member : line ∈ record.attributeLines) :
    ∃ key value, line = attributeLine key value ∧ (∀ c ∈ key.toList, isWordChar c = true) ∧
      IsValue value := by
  rw [attributeLines, List.mem_append, Option.mem_toList, Option.map_eq_some_iff,
    List.mem_map] at member
  rcases member with ⟨text, declared, rfl⟩ | ⟨⟨key, value⟩, inEntries, rfl⟩
  · exact ⟨"name", text, rfl, fun _ => isWordChar_of_mem_name, regular.fullName text declared⟩
  · exact ⟨key, value, rfl, regular.key key (List.mem_map_of_mem inEntries),
      regular.value value (List.mem_map_of_mem inEntries)⟩

theorem Regular.oneLine {record : Record} (regular : record.Regular) {line : String}
    (member : line ∈ record.lines) : OneLine line := by
  rw [lines_eq, List.mem_cons] at member
  rcases member with rfl | inAttributes
  · exact regular.oneLine_headerLine
  · obtain ⟨key, value, rfl, word, isValue⟩ := regular.exists_of_mem_attributeLines inAttributes
    exact oneLine_attributeLine word isValue

/-! ## Blocks of written lines -/

theorem Regular.isAttribute_of_mem {record : Record} (regular : record.Regular) {line : String}
    (member : line ∈ record.attributeLines) : isAttribute line.toList = true := by
  obtain ⟨key, value, rfl, _⟩ := regular.exists_of_mem_attributeLines member
  exact isAttribute_attributeLine key value

theorem isHeader_headerLine (record : Record) : isHeader record.headerLine.toList = true := by
  rw [isHeader, levelMark?_headerLine]
  rfl

theorem Regular.ne_empty_of_mem_lines {record : Record} (regular : record.Regular) {line : String}
    (member : line ∈ record.lines) : line ≠ "" := by
  rintro rfl
  rw [lines_eq, List.mem_cons] at member
  rcases member with isHeaderLine | inAttributes
  · have header := isHeader_headerLine record
    rw [← isHeaderLine] at header
    cases header
  · cases regular.isAttribute_of_mem inAttributes

/-- Attribute lines open no block. -/
theorem blocksFrom_of_isAttribute {lines : List String}
    (all : ∀ line ∈ lines, isAttribute line.toList = true) (index : Nat) :
    Block.blocksFrom index lines = [] := by
  induction lines generalizing index with
  | nil => rfl
  | cons line rest ih =>
      obtain ⟨inside, others⟩ := List.forall_mem_cons.mp all
      rw [Block.blocksFrom, isHeader_eq_false_of_isAttribute inside, ih others]
      rfl

theorem Regular.blocksFrom_lines {record : Record} (regular : record.Regular) (index : Nat) :
    Block.blocksFrom index record.lines =
      [{ index, header := record.headerLine, attributes := record.attributeLines }] := by
  have all : ∀ line ∈ record.attributeLines, isAttribute line.toList = true :=
    fun _ => regular.isAttribute_of_mem
  rw [lines_eq, Block.blocksFrom, if_pos (isHeader_headerLine record),
    blocksFrom_of_isAttribute all, List.takeWhile_eq_self_iff.mpr all]

/-! ## Attributes of written lines -/

theorem absorb_append (record : Record) (index : Nat) (first second : List String) :
    Block.absorb record index (first ++ second) =
      ((Block.absorb (Block.absorb record index first).1 (index + first.length) second).1,
        (Block.absorb record index first).2 ++
          (Block.absorb (Block.absorb record index first).1 (index + first.length) second).2) := by
  induction first generalizing record index with
  | nil => rfl
  | cons line rest ih =>
      have next : index + (rest.length + 1) = index + 1 + rest.length := by omega
      simp only [List.cons_append, Block.absorb, List.length_cons, next]
      cases attribute? line.toList with
      | none => simp only [ih, List.cons_append]
      | some pair => simp only [ih]

/-- Attributes with new keys are added in their order. -/
theorem absorb_entries {record : Record} {entries : List (String × String)}
    (readable : ∀ entry ∈ entries, entry.1 ≠ "name" ∧ entry.1 ≠ "" ∧
      (∀ c ∈ entry.1.toList, isWordChar c = true) ∧ IsValue entry.2)
    (distinct : ((record.attributes.entries ++ entries).map Prod.fst).Nodup) (index : Nat) :
    Block.absorb record index (entries.map fun entry => attributeLine entry.1 entry.2) =
      ({ record with attributes := ⟨record.attributes.entries ++ entries⟩ }, []) := by
  induction entries generalizing record index with
  | nil => simp [Block.absorb]
  | cons entry rest ih =>
      obtain ⟨⟨notName, nonempty, word, isValue⟩, others⟩ := List.forall_mem_cons.mp readable
      have before : (record.attributes.entries.map Prod.fst).Nodup := by
        rw [List.map_append] at distinct
        exact distinct.of_append_left
      have absent : entry.1 ∉ record.attributes.entries.map Prod.fst := by
        rw [List.map_append, List.nodup_append] at distinct
        intro member
        exact distinct.2.2 _ member _ (List.mem_map_of_mem List.mem_cons_self) rfl
      have added : record.withAttribute entry.1 entry.2 =
          { record with attributes := ⟨record.attributes.entries ++ [entry]⟩ } := by
        rw [withAttribute, if_neg notName, OrderedMap.insert, place_eq_of_nodup before,
          if_neg absent]
      simp only [List.map_cons, Block.absorb, attribute?_attributeLine nonempty word isValue, added]
      rw [ih others (by simpa using distinct)]
      simp

/-- The line of a declared name sets the name and the declared text. -/
theorem absorb_name {record : Record} {declared : Option String}
    (values : ∀ text ∈ declared, IsValue text) (index : Nat)
    (unnamed : record.name = none ∧ record.fullName = none) :
    Block.absorb record index (declared.map (attributeLine "name")).toList =
      ({ record with name := declared.map plainName, fullName := declared }, []) := by
  cases declared with
  | none =>
      rcases record with ⟨level, address, abbreviation, tag, name, fullName, attributes, line⟩
      obtain ⟨rfl, rfl⟩ := unnamed
      rfl
  | some text =>
      have read := attribute?_attributeLine (by decide)
        (fun _ => isWordChar_of_mem_name) (values text rfl)
      simp only [Option.map_some, Option.toList_some, Block.absorb, read, withAttribute, if_true]

/-- A header and the attribute lines below it are read as the record. -/
theorem Regular.record_block {record : Record} (regular : record.Regular) (index : Nat) :
    (Block.mk index record.headerLine record.attributeLines).record =
      (some { record with line := index }, []) := by
  have readable : ∀ entry ∈ record.attributes.entries, entry.1 ≠ "name" ∧ entry.1 ≠ "" ∧
      (∀ c ∈ entry.1.toList, isWordChar c = true) ∧ IsValue entry.2 := by
    intro entry member
    have keyIn : entry.1 ∈ record.attributes.keys := List.mem_map_of_mem member
    refine ⟨?_, ?_, regular.key _ keyIn, regular.value _ (List.mem_map_of_mem member)⟩
    · intro same
      exact regular.key_ne_name (same ▸ keyIn)
    · intro same
      exact regular.key_ne_empty (same ▸ keyIn)
  rw [Block.record]
  simp only [header?_headerLine regular]
  rw [attributeLines, absorb_append, absorb_name regular.fullName _ ⟨rfl, rfl⟩,
    absorb_entries readable, ← regular.name]
  · rfl
  · exact regular.distinct

/-! ## Dumps that are written -/

/-- A record without its place in the dump. -/
def unplaced (record : Record) : Record :=
  { record with line := 0 }

/-- Records with the indices of their header lines, where the first one has the
given index. -/
def placedFrom (index : Nat) : List Record → List Record
  | [] => []
  | record :: rest =>
      { record with line := index } :: placedFrom (index + record.lines.length) rest

theorem map_unplaced_placedFrom (index : Nat) (records : List Record) :
    (placedFrom index records).map unplaced = records.map unplaced := by
  induction records generalizing index with
  | nil => rfl
  | cons record rest ih =>
      rw [placedFrom, List.map_cons, List.map_cons, ih]
      rfl

theorem map_record_blocksFrom {records : List Record}
    (regular : ∀ record ∈ records, record.Regular) (index : Nat) :
    (Block.blocksFrom index (records.flatMap lines)).map Block.record =
      (placedFrom index records).map fun record => (some record, []) := by
  induction records generalizing index with
  | nil => rfl
  | cons record rest ih =>
      obtain ⟨first, others⟩ := List.forall_mem_cons.mp regular
      have stops : ∀ line ∈ (rest.flatMap lines).head?, isAttribute line.toList = false := by
        cases rest with
        | nil => exact fun _ held => nomatch held
        | cons next more =>
            rintro _ ⟨rfl⟩
            rw [Bool.eq_false_iff]
            intro inside
            have noHeader := isHeader_eq_false_of_isAttribute inside
            rw [isHeader_headerLine] at noHeader
            cases noHeader
      rw [List.flatMap_cons, Block.blocksFrom_append index _ stops, first.blocksFrom_lines,
        List.singleton_append, List.map_cons, ih others, first.record_block]
      rfl

/-- Regular records are read back from the lines written for them. -/
theorem ofDump_written {records : List Record} (regular : ∀ record ∈ records, record.Regular) :
    ofDump (written records) = (placedFrom 0 records, []) := by
  have single : ∀ line ∈ records.flatMap lines, OneLine line := by
    intro line member
    obtain ⟨record, inRecords, inLines⟩ := List.mem_flatMap.mp member
    exact (regular record inRecords).oneLine inLines
  have last : (records.flatMap lines).getLast? ≠ some "" := by
    intro isLast
    obtain ⟨record, inRecords, inLines⟩ :=
      List.mem_flatMap.mp (List.mem_of_getLast? isLast)
    exact (regular record inRecords).ne_empty_of_mem_lines inLines rfl
  rw [ofDump, written, lines_intercalate single last, map_record_blocksFrom regular]
  simp [List.filterMap_map, List.flatMap_map]

/-- Every record that is read has the regular form.  Writing the records of a
dump and reading them again yields the same records in the same order, but for
the lines where they stand, and no finding. -/
theorem ofDump_written_ofDump (dump : String) :
    (∀ record ∈ (ofDump dump).1, record.Regular) ∧
      (ofDump (written (ofDump dump).1)).1.map unplaced = (ofDump dump).1.map unplaced ∧
      (ofDump (written (ofDump dump).1)).2 = [] := by
  have regular : ∀ record ∈ (ofDump dump).1, record.Regular := fun _ => regular_of_mem_ofDump
  refine ⟨regular, ?_, ?_⟩
  · rw [ofDump_written regular]
    exact map_unplaced_placedFrom 0 _
  · rw [ofDump_written regular]

end Bindery.Record
