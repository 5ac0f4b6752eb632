import Mathlib.Data.List.TakeWhile
import Bindery.Proofs.AppendedRecords
import Bindery.Proofs.AttributeForms
import Bindery.Proofs.TextLines

/-!
# Blanks at the ends of lines

No pattern of a header, an end mark or an attribute ends with a blank, and what
follows a pattern means nothing or is trimmed.  So blanks at the ends of lines
make no difference to what is read from a dump.  A carriage return is a blank,
and therefore neither does it matter how the lines end.
-/

namespace Bindery

/-! ## Texts before blanks -/

namespace Text

/-- A text is what is left of it before the blanks at its end. -/
theorem exists_trimEnd (text : List Char) :
    ∃ blanks, (∀ c ∈ blanks, isBlank c = true) ∧ text = trimEnd text ++ blanks := by
  induction text with
  | nil => exact ⟨[], nofun, rfl⟩
  | cons c rest ih =>
      obtain ⟨blanks, allBlank, split⟩ := ih
      rw [trimEnd]
      cases kept : trimEnd rest with
      | nil =>
          rw [kept, List.nil_append] at split
          by_cases blank : isBlank c = true
          · refine ⟨c :: blanks, List.forall_mem_cons.mpr ⟨blank, allBlank⟩, ?_⟩
            simp [blank, split]
          · refine ⟨blanks, allBlank, ?_⟩
            simp [blank, split]
      | cons first others =>
          refine ⟨blanks, allBlank, ?_⟩
          rw [kept] at split
          exact congrArg (c :: ·) split

theorem trimEnd_dropReturn (chars : List Char) : trimEnd (dropReturn chars) = trimEnd chars := by
  induction chars using dropReturn.induct with
  | case1 => rfl
  | case2 => rfl
  | case3 c rest others ih =>
      rw [dropReturn, trimEnd, trimEnd, ih]
      exact others

theorem isDigit_eq_false_of_isBlank {c : Char} (blank : isBlank c = true) : c.isDigit = false :=
  of_forall_blank (P := fun c => c.isDigit = false) (by decide) blank

/-- A text that ends with a mark does not end with a blank. -/
theorem isBlank_getLast_concat (text : List Char) {mark : Char} (visible : isBlank mark = false) :
    (text ++ [mark]).getLast?.any isBlank = false := by
  rw [List.getLast?_concat]
  exact visible

section Blanks

variable {blanks : List Char} (allBlank : ∀ c ∈ blanks, isBlank c = true)
include allBlank

/-- What stands in front of a line with blanks after it, and does not end with a
blank, stands in front of the line itself. -/
theorem exists_of_append_eq {lead rest line : List Char}
    (ends : lead.getLast?.any isBlank = false) (split : lead ++ rest = line ++ blanks) :
    ∃ others, line = lead ++ others ∧ rest = others ++ blanks := by
  rcases List.append_eq_append_iff.mp split with ⟨others, inLine, after⟩ | ⟨reached, past, inBlanks⟩
  · exact ⟨others, inLine, after⟩
  · -- What the text has of the blanks is nothing, or else it would end with one of them.
    cases last : reached.getLast? with
    | none =>
        rw [List.getLast?_eq_none_iff] at last
        subst last
        exact ⟨[], by rw [past, List.append_nil, List.append_nil], by rw [inBlanks]; rfl⟩
    | some c =>
        have endsLead : lead.getLast? = some c := by rw [past, List.getLast?_append, last]; rfl
        have inReached : c ∈ reached := List.mem_of_getLast? last
        have blank := allBlank c (inBlanks ▸ List.mem_append_left rest inReached)
        rw [endsLead, Option.any_some, blank] at ends
        cases ends

/-- Blanks after a text are dropped from its start only together with the whole
text. -/
theorem trimStart_append_blanks (line : List Char) :
    (trimStart line = [] ∧ trimStart (line ++ blanks) = []) ∨
      trimStart (line ++ blanks) = trimStart line ++ blanks := by
  have whole : trimStart blanks = [] := List.dropWhile_eq_nil_iff.mpr allBlank
  rw [trimStart, trimStart, List.dropWhile_append]
  split
  · rename_i empty
    exact Or.inl ⟨List.isEmpty_iff.mp empty, whole⟩
  · exact Or.inr rfl

theorem trim_append (line : List Char) : trim (line ++ blanks) = trim line := by
  rw [trim, trim]
  rcases trimStart_append_blanks allBlank line with ⟨empty, whole⟩ | kept
  · rw [empty, whole]
  · rw [kept, trimEnd_append_of_blank allBlank]

theorem mem_trimStart_append_iff {c : Char} (notBlank : c ∉ blanks) (line : List Char) :
    c ∈ trimStart (line ++ blanks) ↔ c ∈ trimStart line := by
  rcases trimStart_append_blanks allBlank line with ⟨empty, whole⟩ | kept
  · rw [empty, whole]
  · rw [kept, List.mem_append, or_iff_left notBlank]

theorem after?_append_blanks {lead : List Char}
    (ends : lead.getLast?.any isBlank = false) (line : List Char) :
    after? lead (line ++ blanks) = (after? lead line).map (· ++ blanks) := by
  ext rest
  rw [after?_eq_some_iff, Option.map_eq_some_iff]
  constructor
  · intro split
    obtain ⟨others, inLine, rfl⟩ := exists_of_append_eq allBlank ends split.symm
    exact ⟨others, after?_eq_some_iff.mpr inLine, rfl⟩
  · rintro ⟨others, found, rfl⟩
    rw [after?_eq_some_iff] at found
    rw [found, List.append_assoc]

theorem afterFirst?_blanks {needle : List Char} (nonempty : needle ≠ [])
    (ends : needle.getLast?.any isBlank = false) : afterFirst? needle blanks = none := by
  rw [← Option.not_isSome_iff_eq_none, ← contains, contains_iff_isInfix]
  intro inside
  have blank := allBlank _ (inside.subset (List.getLast_mem nonempty))
  rw [List.getLast?_eq_some_getLast nonempty, Option.any_some, blank] at ends
  cases ends

theorem afterFirst?_append_blanks {needle : List Char} (nonempty : needle ≠ [])
    (ends : needle.getLast?.any isBlank = false) (line : List Char) :
    afterFirst? needle (line ++ blanks) = (afterFirst? needle line).map (· ++ blanks) := by
  induction line with
  | nil =>
      rw [List.nil_append, afterFirst?_blanks allBlank nonempty ends,
        afterFirst?_blanks (by nofun) nonempty ends, Option.map_none]
  | cons c rest ih =>
      have here := after?_append_blanks allBlank ends (c :: rest)
      rw [List.cons_append] at here
      rw [List.cons_append, afterFirst?, afterFirst?, here, ih]
      cases after? needle (c :: rest) <;> rfl

theorem any_isDigit_head?_append (text : List Char) :
    (text ++ blanks).head?.any Char.isDigit = text.head?.any Char.isDigit := by
  cases text with
  | cons c rest => rfl
  | nil =>
      cases blanks with
      | nil => rfl
      | cons blank others =>
          exact isDigit_eq_false_of_isBlank (allBlank blank List.mem_cons_self)

end Blanks

/-- A line is what is left of it before the blanks at its end. -/
theorem exists_trimmedEnd (line : String) : ∃ blanks, (∀ c ∈ blanks, isBlank c = true) ∧
    line.toList = (trimmedEnd line).toList ++ blanks := by
  rw [trimmedEnd, String.toList_ofList]
  exact exists_trimEnd line.toList

theorem trimmed_trimmedEnd (line : String) : trimmed (trimmedEnd line) = trimmed line := by
  obtain ⟨blanks, allBlank, split⟩ := exists_trimmedEnd line
  rw [trimmed, trimmed, split, trim_append allBlank]

/-! ## Texts of lines before blanks -/

theorem map_trimmedEnd_lines (text : String) :
    (lines text).map trimmedEnd = ((linesFrom [] text.toList).map trimEnd).map String.ofList := by
  rw [lines, List.map_map, List.map_map]
  apply List.map_congr_left
  intro line _
  rw [Function.comp, Function.comp, trimmedEnd, String.toList_ofList]

/-- The line in hand ends before the blanks at the end of a text. -/
theorem map_trimEnd_linesFrom_append {blanks : List Char}
    (allBlank : ∀ c ∈ blanks, isBlank c = true) (noFeed : '\n' ∉ blanks) (held text : List Char) :
    (linesFrom held (text ++ blanks ++ ['\n'])).map trimEnd =
      (linesFrom held (text ++ ['\n'])).map trimEnd := by
  induction text generalizing held with
  | nil =>
      rw [List.nil_append, linesFrom_append_of_not_mem noFeed]
      simp only [List.nil_append, linesFrom, List.map_cons, trimEnd_dropReturn,
        List.reverse_append, List.reverse_reverse, trimEnd_append_of_blank allBlank]
  | cons c rest ih =>
      by_cases feed : c = '\n'
      · subst feed
        exact congrArg (trimEnd (dropReturn held.reverse) :: ·) (ih [])
      · simp only [List.cons_append, linesFrom, ih]

theorem map_trimEnd_linesFrom_feed (held text : List Char) :
    ∃ added, (added = [] ∨ added = [[]]) ∧
      (linesFrom held (text ++ ['\n'])).map trimEnd =
        (linesFrom held text).map trimEnd ++ added := by
  induction text generalizing held with
  | nil =>
      cases held with
      | nil => exact ⟨[[]], Or.inr rfl, rfl⟩
      | cons c rest =>
          refine ⟨[], Or.inl rfl, ?_⟩
          simp [linesFrom, trimEnd_dropReturn]
  | cons c rest ih =>
      by_cases feed : c = '\n'
      · subst feed
        obtain ⟨added, few, split⟩ := ih []
        exact ⟨added, few, congrArg (trimEnd (dropReturn held.reverse) :: ·) split⟩
      · obtain ⟨added, few, split⟩ := ih (c :: held)
        exact ⟨added, few, by simpa only [List.cons_append, linesFrom] using split⟩

/-- A line feed at the end of a text adds an empty line at most. -/
theorem map_trimmedEnd_lines_append_feed (text : String) :
    ∃ added, (added = [] ∨ added = [""]) ∧
      (lines (text ++ "\n")).map trimmedEnd = (lines text).map trimmedEnd ++ added := by
  obtain ⟨added, few, split⟩ := map_trimEnd_linesFrom_feed [] text.toList
  refine ⟨added.map String.ofList, ?_, ?_⟩
  · rcases few with rfl | rfl
    · exact Or.inl rfl
    · exact Or.inr rfl
  · rw [map_trimmedEnd_lines, map_trimmedEnd_lines, String.toList_append, ← List.map_append]
    exact congrArg _ split

theorem map_trimmedEnd_lines_append_blanks (text : String) {blanks : String}
    (blank : ∀ c ∈ blanks.toList, isBlank c = true ∧ c ≠ '\n') :
    (lines (text ++ blanks ++ "\n")).map trimmedEnd = (lines (text ++ "\n")).map trimmedEnd := by
  rw [map_trimmedEnd_lines, map_trimmedEnd_lines, String.toList_append, String.toList_append,
    String.toList_append]
  exact congrArg _ (map_trimEnd_linesFrom_append (fun c member => (blank c member).1)
    (fun member => (blank _ member).2 rfl) [] text.toList)

/-- Lines that each end with blanks and a line feed, but for the blanks. -/
theorem map_trimmedEnd_lines_intercalate {pairs : List (String × String)}
    (blank : ∀ line ∈ pairs, ∀ c ∈ line.2.toList, isBlank c = true ∧ c ≠ '\n') :
    (lines ("\n".intercalate (pairs.map fun line => line.1 ++ line.2) ++ "\n")).map trimmedEnd =
      (lines ("\n".intercalate (pairs.map Prod.fst) ++ "\n")).map trimmedEnd := by
  induction pairs with
  | nil => rfl
  | cons first others ih =>
      obtain ⟨firstBlank, othersBlank⟩ := List.forall_mem_cons.mp blank
      have here := map_trimmedEnd_lines_append_blanks first.1 firstBlank
      cases others with
      | nil => exact here
      | cons second rest =>
          have next := ih othersBlank
          have apart : ∀ line others : String,
              (lines (line ++ "\n" ++ others ++ "\n")).map trimmedEnd =
                (lines (line ++ "\n")).map trimmedEnd ++
                  (lines (others ++ "\n")).map trimmedEnd := by
            intro line others
            rw [String.append_assoc, lines_feed_append, List.map_append]
          simp only [List.map_cons, String.intercalate_cons_cons] at next ⊢
          rw [apart, apart, here, next]

end Text

namespace Record

open Bindery.Text

/-! ## Lines before blanks -/

namespace HeaderPieces

/-- What the pieces of a header make up before the rest that means nothing. -/
def lead (pieces : HeaderPieces) : List Char :=
  pieces.indent ++ (['<'] ++ (pieces.level ++ (['>', '<'] ++ (pieces.address ++ (['>', ':'] ++
    (pieces.gap ++ ("Abbrev Number:".toList ++ (pieces.space ++ (pieces.abbreviation ++
      (pieces.separator ++ ("(DW_TAG_".toList ++ (pieces.tag ++ [')']))))))))))))

theorem chars_eq_lead_append (pieces : HeaderPieces) : pieces.chars = pieces.lead ++ pieces.rest := by
  simp only [chars, afterLevel, lead, List.append_assoc]

theorem isBlank_getLast_lead (pieces : HeaderPieces) :
    pieces.lead.getLast?.any isBlank = false := by
  simp only [lead, ← List.append_assoc]
  exact isBlank_getLast_concat _ (by decide)

end HeaderPieces

theorem AttributePieces.isBlank_getLast_lead (pieces : AttributePieces) :
    pieces.lead.getLast?.any isBlank = false := by
  simp only [lead, ← List.append_assoc]
  exact isBlank_getLast_concat _ (by decide)

section Blanks

variable {blanks : List Char} (allBlank : ∀ c ∈ blanks, isBlank c = true)
include allBlank

theorem isHeader_append (line : List Char) : isHeader (line ++ blanks) = isHeader line := by
  rw [Bool.eq_iff_iff, isHeader, isHeader, Option.isSome_iff_exists, Option.isSome_iff_exists]
  simp only [Prod.exists, levelMark?_eq_some_iff]
  constructor
  · rintro ⟨level, rest, indent, blank, nonempty, decimal, split⟩
    have pattern : indent ++ ['<'] ++ level ++ ['>'] ++ ['<'] ++ rest = line ++ blanks := by
      rw [split]
      simp
    obtain ⟨others, inLine, _⟩ :=
      exists_of_append_eq allBlank (isBlank_getLast_concat _ (by decide)) pattern
    exact ⟨level, others, indent, blank, nonempty, decimal, by rw [inLine]; simp⟩
  · rintro ⟨level, rest, indent, blank, nonempty, decimal, rfl⟩
    exact ⟨level, rest ++ blanks, indent, blank, nonempty, decimal, by simp⟩

theorem header?_append (line : List Char) (index : Nat) :
    header? (line ++ blanks) index = header? line index := by
  ext record
  rw [header?_eq_some_iff, header?_eq_some_iff]
  constructor
  · rintro ⟨pieces, level, abbreviation, valid, split, same⟩
    rw [pieces.chars_eq_lead_append] at split
    obtain ⟨others, inLine, _⟩ :=
      exists_of_append_eq allBlank pieces.isBlank_getLast_lead split
    refine ⟨{ pieces with rest := others }, level, abbreviation, { valid with }, ?_, same⟩
    rw [inLine, HeaderPieces.chars_eq_lead_append]
    rfl
  · rintro ⟨pieces, level, abbreviation, valid, rfl, same⟩
    refine ⟨{ pieces with rest := pieces.rest ++ blanks }, level, abbreviation, { valid with },
      ?_, same⟩
    rw [HeaderPieces.chars_eq_lead_append, pieces.chars_eq_lead_append, List.append_assoc]
    rfl

theorem isTerminator_append (line : List Char) :
    isTerminator (line ++ blanks) = isTerminator line := by
  have tag : Text.contains "(DW_TAG_".toList (line ++ blanks) =
      Text.contains "(DW_TAG_".toList line := by
    rw [Text.contains, afterFirst?_append_blanks allBlank (by decide) (by decide),
      Option.isSome_map, Text.contains]
  rw [isTerminator, isTerminator, tag,
    afterFirst?_append_blanks allBlank (by decide) (by decide)]
  cases afterFirst? "Abbrev Number: 0".toList line with
  | none => rfl
  | some rest =>
      simp only [Option.map_some, any_isDigit_head?_append allBlank]

theorem isAttribute_append (line : List Char) :
    isAttribute (line ++ blanks) = isAttribute line := by
  rw [Bool.eq_iff_iff, isAttribute_iff, isAttribute_iff, isHeader_append allBlank]
  apply and_congr_right
  intro _
  constructor
  · rintro ⟨indent, rest, blank, split⟩
    obtain ⟨others, inLine, _⟩ :=
      exists_of_append_eq allBlank (isBlank_getLast_concat _ (by decide)) split.symm
    exact ⟨indent, others, blank, inLine⟩
  · rintro ⟨indent, rest, blank, rfl⟩
    exact ⟨indent, rest ++ blanks, blank, List.append_assoc _ _ _⟩

theorem attribute?_append (noFeed : '\n' ∉ blanks) (line : List Char) :
    attribute? (line ++ blanks) = attribute? line := by
  ext ⟨key, value⟩
  rw [attribute?_eq_some_iff, attribute?_eq_some_iff]
  constructor
  · rintro ⟨pieces, rest, valid, split, free, isKey, isValue⟩
    obtain ⟨others, inLine, rfl⟩ :=
      exists_of_append_eq allBlank pieces.isBlank_getLast_lead split.symm
    rw [trim_append allBlank] at isValue
    rw [mem_trimStart_append_iff allBlank noFeed] at free
    exact ⟨pieces, others, valid, inLine, free, isKey, isValue⟩
  · rintro ⟨pieces, rest, valid, rfl, free, isKey, isValue⟩
    refine ⟨pieces, rest ++ blanks, valid, List.append_assoc _ _ _, ?_, isKey, ?_⟩
    · rwa [mem_trimStart_append_iff allBlank noFeed]
    · rw [trim_append allBlank, isValue]

end Blanks

/-! ## Dumps before blanks -/

theorem isHeader_trimmedEnd (line : String) :
    isHeader (trimmedEnd line).toList = isHeader line.toList := by
  obtain ⟨blanks, allBlank, split⟩ := exists_trimmedEnd line
  rw [split, isHeader_append allBlank]

theorem isAttribute_trimmedEnd (line : String) :
    isAttribute (trimmedEnd line).toList = isAttribute line.toList := by
  obtain ⟨blanks, allBlank, split⟩ := exists_trimmedEnd line
  rw [split, isAttribute_append allBlank]

theorem attribute?_trimmedEnd {line : String} (noFeed : '\n' ∉ line.toList) :
    attribute? (trimmedEnd line).toList = attribute? line.toList := by
  obtain ⟨blanks, allBlank, split⟩ := exists_trimmedEnd line
  rw [split, List.mem_append, not_or] at noFeed
  rw [split, attribute?_append allBlank noFeed.2]

namespace Block

/-- A block without the blanks at the ends of its lines. -/
def trimmed (block : Block) : Block where
  index := block.index
  header := trimmedEnd block.header
  attributes := block.attributes.map trimmedEnd

theorem absorb_map_trimmedEnd (record : Record) (index : Nat) {lines : List String}
    (noFeed : ∀ line ∈ lines, '\n' ∉ line.toList) :
    absorb record index (lines.map trimmedEnd) = absorb record index lines := by
  induction lines generalizing record index with
  | nil => rfl
  | cons line rest ih =>
      obtain ⟨here, later⟩ := List.forall_mem_cons.mp noFeed
      simp only [List.map_cons, absorb, attribute?_trimmedEnd here, trimmed_trimmedEnd,
        ih _ _ later]

theorem record_trimmed (block : Block)
    (noFeed : ∀ line ∈ block.attributes, '\n' ∉ line.toList) :
    block.trimmed.record = block.record := by
  obtain ⟨blanks, allBlank, split⟩ := exists_trimmedEnd block.header
  have opened : header? (trimmedEnd block.header).toList block.index =
      header? block.header.toList block.index := by
    rw [split, header?_append allBlank]
  have ended : isTerminator (trimmedEnd block.header).toList =
      isTerminator block.header.toList := by
    rw [split, isTerminator_append allBlank]
  simp only [record, trimmed, opened, ended, trimmed_trimmedEnd, absorb_map_trimmedEnd _ _ noFeed]

/-- What is read from lines is read from what is left of them before blanks. -/
theorem map_record_blocksFrom_map_trimmedEnd (index : Nat) {lines : List String}
    (noFeed : ∀ line ∈ lines, '\n' ∉ line.toList) :
    (blocksFrom index (lines.map trimmedEnd)).map record = (blocksFrom index lines).map record := by
  induction lines generalizing index with
  | nil => rfl
  | cons line rest ih =>
      obtain ⟨_, later⟩ := List.forall_mem_cons.mp noFeed
      have run : (rest.map trimmedEnd).takeWhile (fun line => isAttribute line.toList) =
          (rest.takeWhile fun line => isAttribute line.toList).map trimmedEnd := by
        simp only [List.takeWhile_map, Function.comp_def, isAttribute_trimmedEnd]
      rw [List.map_cons, blocksFrom, blocksFrom, isHeader_trimmedEnd, run]
      split
      · have opened := record_trimmed
          ⟨index, line, rest.takeWhile fun line => isAttribute line.toList⟩
          fun other inBlock => later other ((List.takeWhile_sublist _).subset inBlock)
        rw [List.map_cons, List.map_cons, ih (index + 1) later]
        exact congrArg (· :: _) opened
      · exact ih (index + 1) later

end Block

/-- A dump is read by its lines before blanks, and an empty line at its end does
not count. -/
theorem ofDump_eq_of_lines {first second : String} {added : List String}
    (few : added = [] ∨ added = [""])
    (split : (Text.lines first).map trimmedEnd = (Text.lines second).map trimmedEnd ++ added) :
    ofDump first = ofDump second := by
  have read : ∀ dump, (Block.blocksFrom 0 ((Text.lines dump).map trimmedEnd)).map Block.record =
      (Block.blocksFrom 0 (Text.lines dump)).map Block.record := fun dump =>
    Block.map_record_blocksFrom_map_trimmedEnd 0 fun _ => not_mem_of_mem_lines
  have stops : ∀ line ∈ added.head?, isAttribute line.toList = false := by
    rcases few with rfl | rfl
    · nofun
    · rintro _ ⟨rfl⟩
      rfl
  have noBlocks : ∀ index, Block.blocksFrom index added = [] := by
    rcases few with rfl | rfl <;> exact fun _ => rfl
  have results : (Block.blocksFrom 0 (Text.lines first)).map Block.record =
      (Block.blocksFrom 0 (Text.lines second)).map Block.record := by
    rw [← read, split, Block.blocksFrom_append _ _ stops, noBlocks, List.append_nil, read]
  simp only [ofDump, results]

/-- Whether a dump ends with a line feed makes no difference. -/
theorem ofDump_append_feed (dump : String) : ofDump (dump ++ "\n") = ofDump dump := by
  obtain ⟨added, few, split⟩ := map_trimmedEnd_lines_append_feed dump
  exact ofDump_eq_of_lines few split

/-- Blanks after lines make no difference to the records and to what was found
on the way, whether the last line ends with a line feed or not. -/
theorem ofDump_append_blanks (pairs : List (String × String))
    (blank : ∀ line ∈ pairs, ∀ c ∈ line.2.toList, isBlank c = true ∧ c ≠ '\n') :
    ofDump ("\n".intercalate (pairs.map fun line => line.1 ++ line.2)) =
        ofDump ("\n".intercalate (pairs.map Prod.fst)) ∧
      ofDump ("\n".intercalate (pairs.map fun line => line.1 ++ line.2) ++ "\n") =
        ofDump ("\n".intercalate (pairs.map Prod.fst) ++ "\n") := by
  have same := map_trimmedEnd_lines_intercalate blank
  have ended := ofDump_eq_of_lines (Or.inl rfl) (same.trans (List.append_nil _).symm)
  refine ⟨?_, ended⟩
  rwa [ofDump_append_feed, ofDump_append_feed] at ended

/-- Carriage returns and other blanks after good and after malformed lines. -/
theorem ofDump_append_blanks_returns :
    let pairs := [(" <0><b>: Abbrev Number: 1 (DW_TAG_class_type)", "\r"),
      ("    <c>   DW_AT_name : Lamp", " \t\r"), ("    <d>   DW_AT_byte_size", "\u00a0\r"),
      (" <1><x>: Abbrev Number:", "\u3000\r"), ("", "\r")]
    (∀ line ∈ pairs, ∀ c ∈ line.2.toList, isBlank c = true ∧ c ≠ '\n') ∧
      ofDump ("\n".intercalate (pairs.map fun line => line.1 ++ line.2)) =
          ofDump ("\n".intercalate (pairs.map Prod.fst)) ∧
        ofDump ("\n".intercalate (pairs.map fun line => line.1 ++ line.2) ++ "\n") =
          ofDump ("\n".intercalate (pairs.map Prod.fst) ++ "\n") := by
  intro pairs
  have listed : (pairs.all fun line => line.2.toList.all fun c => isBlank c && c != '\n') = true := by
    decide
  have blank : ∀ line ∈ pairs, ∀ c ∈ line.2.toList, isBlank c = true ∧ c ≠ '\n' := by
    simpa only [List.all_eq_true, Bool.and_eq_true, bne_iff_ne] using listed
  exact ⟨blank, ofDump_append_blanks pairs blank⟩

end Record

end Bindery
