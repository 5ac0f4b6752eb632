import Mathlib.Tactic.IntervalCases
import Bindery.Proofs.Numeral
import Bindery.Proofs.Scanner
import Bindery.Proofs.Trimming

/-!
# The form of a header

A header states how deep its entry stands, at which address, and of what kind
it is.  Here its form is given piece by piece, without a word on how a reader
finds the pieces.  A line is read as a header exactly if it has that form, and
the record that it opens says what the pieces say.
-/

namespace Bindery

/-! ## Hexadecimal digits -/

/-- A hexadecimal digit that is no capital letter. -/
def isLowerHexDigit (c : Char) : Bool :=
  c.isDigit || ('a' ≤ c && c ≤ 'f')

theorem isLowerHexDigit_iff {c : Char} : isLowerHexDigit c = true ↔
    (48 ≤ c.toNat ∧ c.toNat ≤ 57) ∨ (97 ≤ c.toNat ∧ c.toNat ≤ 102) := by
  rw [isLowerHexDigit, Bool.or_eq_true, Char.isDigit_iff_toNat, Bool.and_eq_true,
    decide_eq_true_eq, decide_eq_true_eq]
  exact Iff.rfl

theorem isHexDigit_iff {c : Char} : Text.isHexDigit c = true ↔
    isLowerHexDigit c = true ∨ (65 ≤ c.toNat ∧ c.toNat ≤ 70) := by
  rw [Text.isHexDigit, Bool.or_eq_true, Bool.and_eq_true, decide_eq_true_eq, decide_eq_true_eq]
  exact Iff.rfl

theorem toLower_of_isLowerHexDigit {c : Char} (digit : isLowerHexDigit c = true) :
    c.toLower = c := by
  rw [← Char.ofNat_toNat c]
  rcases isLowerHexDigit_iff.mp digit with ⟨low, high⟩ | ⟨low, high⟩ <;>
    interval_cases c.toNat <;> rfl

theorem isLowerHexDigit_toLower {c : Char} (digit : Text.isHexDigit c = true) :
    isLowerHexDigit c.toLower = true := by
  rcases isHexDigit_iff.mp digit with lower | ⟨low, high⟩
  · rw [toLower_of_isLowerHexDigit lower]
    exact lower
  · rw [← Char.ofNat_toNat c]
    interval_cases c.toNat <;> rfl

namespace Text

/-! ## Numbers -/

theorem isDigit_of_digitValue? {c : Char} {value : Nat} (found : digitValue? 10 c = some value) :
    c.isDigit = true := by
  rw [digitValue?, Option.filter_eq_some_iff, decide_eq_true_eq] at found
  obtain ⟨found, small⟩ := found
  by_cases digit : c.isDigit = true
  · exact digit
  · -- A letter stands for ten or more.
    rw [if_neg digit] at found
    split at found
    · cases found
      omega
    · split at found <;> cases found
      omega

/-- Digits that are read are digits of the base. -/
theorem exists_digitValue?_of_digitsFrom? {base value result : Nat} {digits : List Char}
    (found : digitsFrom? base value digits = some result) :
    ∀ c ∈ digits, ∃ digit, digitValue? base c = some digit := by
  induction digits generalizing value with
  | nil => nofun
  | cons c rest ih =>
      rw [digitsFrom?, Option.bind_eq_bind, Option.bind_eq_some_iff] at found
      obtain ⟨digit, read, found⟩ := found
      exact List.forall_mem_cons.mpr ⟨⟨digit, read⟩, ih found⟩

theorem isDigit_of_digitsFrom? {digits : List Char} {value result : Nat}
    (found : digitsFrom? 10 value digits = some result) : ∀ c ∈ digits, c.isDigit = true := by
  intro c member
  obtain ⟨digit, read⟩ := exists_digitValue?_of_digitsFrom? found c member
  exact isDigit_of_digitValue? read

/-- Digits that write a number of 32 bits. -/
structure Writes (digits : List Char) (number : UInt32) : Prop where
  nonempty : digits ≠ []
  digit : ∀ c ∈ digits, c.isDigit = true
  value : Nat.ofDigitChars 10 digits 0 = number.toNat

theorem natural?_eq_some_iff {digits : List Char} {number : Nat} :
    natural? 10 digits = some number ↔
      digits ≠ [] ∧ (∀ c ∈ digits, c.isDigit = true) ∧ Nat.ofDigitChars 10 digits 0 = number := by
  cases digits with
  | nil => simp [natural?]
  | cons c rest =>
      rw [natural?]
      · constructor
        · intro found
          have all := isDigit_of_digitsFrom? found
          rw [digitsFrom?_of_isDigit all, Option.some.injEq] at found
          exact ⟨List.cons_ne_nil _ _, all, found⟩
        · rintro ⟨_, all, value⟩
          rw [digitsFrom?_of_isDigit all, value]
      · exact List.cons_ne_nil _ _

theorem word32?_eq_some_iff {digits : List Char} {number : UInt32} :
    word32? digits = some number ↔ Writes digits number := by
  constructor
  · intro found
    rw [word32?] at found
    split at found
    · rename_i value read
      split at found
      · rename_i small
        cases found
        obtain ⟨nonempty, digit, same⟩ := natural?_eq_some_iff.mp read
        exact ⟨nonempty, digit, same⟩
      · cases found
    · cases found
  · intro writes
    have read := natural?_eq_some_iff.mpr ⟨writes.nonempty, writes.digit, writes.value⟩
    simp only [word32?, read, number.toNat_lt_size, dif_pos, UInt32.ofNatLT_toNat]

/-! ## Pieces of a text -/

theorem suffix_of_after? {lead text rest : List Char} (found : after? lead text = some rest) :
    rest <:+ text :=
  ⟨lead, (after?_eq_some_iff.mp found).symm⟩

theorem suffix_of_run? {inClass : Char → Bool} {text run rest : List Char}
    (found : run? inClass text = some (run, rest)) : rest <:+ text :=
  ⟨run, (run?_eq_some_iff.mp found).1.symm⟩

theorem after?_append (lead rest : List Char) : after? lead (lead ++ rest) = some rest :=
  after?_eq_some_iff.mpr rfl

theorem run?_append {inClass : Char → Bool} {run rest : List Char} (nonempty : run ≠ [])
    (all : ∀ c ∈ run, inClass c = true) (stops : ∀ c ∈ rest.head?, inClass c = false) :
    run? inClass (run ++ rest) = some (run, rest) :=
  run?_eq_some_iff.mpr ⟨rfl, nonempty, all, stops⟩

theorem isBlank_of_isHexDigit {c : Char} (digit : isHexDigit c = true) : isBlank c = false := by
  rw [isHexDigit_iff, isLowerHexDigit_iff] at digit
  rw [Bool.eq_false_iff]
  simp only [isBlank, ne_eq, Bool.or_eq_true, Bool.and_eq_true, decide_eq_true_eq, beq_iff_eq]
  omega

theorem isBlank_of_isDigit {c : Char} (digit : c.isDigit = true) : isBlank c = false :=
  isBlank_of_isHexDigit (by rw [isHexDigit, digit, Bool.true_or, Bool.true_or])

/-- Blanks in front are dropped up to the first other character. -/
theorem trimStart_append {blanks rest : List Char} (all : ∀ c ∈ blanks, isBlank c = true)
    (starts : ∀ first ∈ rest.head?, isBlank first = false) : trimStart (blanks ++ rest) = rest := by
  rw [trimStart, List.dropWhile_append_of_pos all]
  exact trimStart_eq_self starts

/-- A text is what is left of it after the blanks in front. -/
theorem exists_trimStart (text : List Char) :
    ∃ blanks, (∀ c ∈ blanks, isBlank c = true) ∧ text = blanks ++ trimStart text :=
  ⟨text.takeWhile isBlank, fun _ member => List.all_eq_true.mp List.all_takeWhile _ member,
    List.takeWhile_append_dropWhile.symm⟩

/-- The blank characters. -/
def blankCodes : List Nat :=
  List.range' 0x9 5 ++ [0x20, 0x85, 0xa0, 0x1680] ++ List.range' 0x2000 11 ++
    [0x2028, 0x2029, 0x202f, 0x205f, 0x3000]

theorem toNat_mem_blankCodes {c : Char} (blank : isBlank c = true) : c.toNat ∈ blankCodes := by
  simp only [isBlank, Bool.or_eq_true, Bool.and_eq_true, decide_eq_true_eq, beq_iff_eq] at blank
  simp only [blankCodes, List.mem_append, List.mem_range'_1, List.mem_cons, List.not_mem_nil,
    or_false]
  omega

/-- What holds of each blank code holds of each blank character. -/
theorem of_forall_blank {P : Char → Prop} (all : ∀ code ∈ blankCodes, P (Char.ofNat code))
    {c : Char} (blank : isBlank c = true) : P c := by
  have here := all _ (toNat_mem_blankCodes blank)
  rwa [Char.ofNat_toNat] at here

theorem isDecimal_eq_false_of_isBlank {c : Char} (blank : isBlank c = true) :
    isDecimal c = false :=
  of_forall_blank (P := fun c => isDecimal c = false) (by decide +kernel) blank

end Text

namespace Record

open Bindery.Text

/-! ## The pieces of a header -/

/-- The pieces of a header line, without the words and marks between them. -/
structure HeaderPieces where
  indent : List Char
  level : List Char
  address : List Char
  /-- The blanks after the address. -/
  gap : List Char
  /-- The blanks before the abbreviation number. -/
  space : List Char
  abbreviation : List Char
  /-- The blanks after the abbreviation number. -/
  separator : List Char
  tag : List Char
  /-- What follows the tag means nothing. -/
  rest : List Char
  deriving DecidableEq, Repr

namespace HeaderPieces

/-- The line from the address on. -/
def afterLevel (pieces : HeaderPieces) : List Char :=
  pieces.address ++ (['>', ':'] ++ (pieces.gap ++ ("Abbrev Number:".toList ++ (pieces.space ++
    (pieces.abbreviation ++ (pieces.separator ++
      ("(DW_TAG_".toList ++ (pieces.tag ++ ([')'] ++ pieces.rest)))))))))

/-- The line that the pieces make up. -/
def chars (pieces : HeaderPieces) : List Char :=
  pieces.indent ++ (['<'] ++ (pieces.level ++ (['>', '<'] ++ pieces.afterLevel)))

/-- What the pieces of a header with a level and an abbreviation number are. -/
structure Valid (pieces : HeaderPieces) (level abbreviation : UInt32) : Prop where
  indent : ∀ c ∈ pieces.indent, isBlank c = true
  level : Writes pieces.level level
  address_ne_nil : pieces.address ≠ []
  address : ∀ c ∈ pieces.address, isHexDigit c = true
  gap : ∀ c ∈ pieces.gap, isBlank c = true
  space : ∀ c ∈ pieces.space, isBlank c = true
  abbreviation : Writes pieces.abbreviation abbreviation
  separator_ne_nil : pieces.separator ≠ []
  separator : ∀ c ∈ pieces.separator, isBlank c = true
  tag_ne_nil : pieces.tag ≠ []
  tag_noClose : ')' ∉ pieces.tag

/-- The record that the pieces open on the line with an index. -/
def record (pieces : HeaderPieces) (level abbreviation : UInt32) (index : Nat) : Record where
  level
  address := String.ofList (pieces.address.map Char.toLower)
  abbreviation
  tag := Tag.ofName (String.ofList pieces.tag)
  line := index

end HeaderPieces

/-- A line that is made up of the pieces of a header with a level. -/
def HeaderOf (line : List Char) (level : UInt32) : Prop :=
  ∃ pieces : HeaderPieces, ∃ abbreviation,
    pieces.Valid level abbreviation ∧ pieces.chars = line

/-- A line that is a header in all its pieces. -/
def WellFormedHeader (line : List Char) : Prop :=
  ∃ level, HeaderOf line level

/-! ## Reading the pieces -/

theorem levelMark?_eq_some_iff {line level rest : List Char} :
    levelMark? line = some (level, rest) ↔ ∃ indent, (∀ c ∈ indent, isBlank c = true) ∧
      level ≠ [] ∧ (∀ c ∈ level, isDecimal c = true) ∧
        line = indent ++ (['<'] ++ (level ++ (['>', '<'] ++ rest))) := by
  constructor
  · intro found
    simp only [levelMark?, Option.bind_eq_bind, Option.bind_eq_some_iff, Option.some.injEq,
      Prod.mk.injEq, Option.pure_def, Prod.exists] at found
    obtain ⟨inner, opened, _, afterLevel, digits, _, closed, rfl, rfl⟩ := found
    obtain ⟨indent, blank, split⟩ := exists_trimStart line
    obtain ⟨rfl, nonempty, decimal, _⟩ := run?_eq_some_iff.mp digits
    rw [after?_eq_some_iff] at opened closed
    exact ⟨indent, blank, nonempty, decimal, by rw [split, opened, closed]⟩
  · rintro ⟨indent, blank, nonempty, decimal, rfl⟩
    have start : trimStart (indent ++ (['<'] ++ (level ++ (['>', '<'] ++ rest)))) = _ :=
      trimStart_append blank (by rintro _ ⟨rfl⟩; rfl)
    have digits : run? isDecimal (level ++ (['>', '<'] ++ rest)) = some (_, _) :=
      run?_append nonempty decimal (by rintro _ ⟨rfl⟩; rfl)
    simp only [levelMark?, Option.bind_eq_bind, start, after?_append, Option.bind_some, digits,
      Option.pure_def]

theorem HeaderPieces.Valid.levelMark?_chars {pieces : HeaderPieces} {level abbreviation : UInt32}
    (valid : pieces.Valid level abbreviation) :
    levelMark? pieces.chars = some (pieces.level, pieces.afterLevel) :=
  levelMark?_eq_some_iff.mpr ⟨pieces.indent, valid.indent, valid.level.nonempty,
    fun c member => isDecimal_of_isDigit (valid.level.digit c member), rfl⟩

/-- What is read as a header is made up of its pieces. -/
theorem exists_pieces_of_header? {line : List Char} {index : Nat} {record : Record}
    (found : header? line index = some record) : ∃ pieces : HeaderPieces, ∃ level abbreviation,
      pieces.Valid level abbreviation ∧ pieces.chars = line ∧
        pieces.record level abbreviation index = record := by
  simp only [header?, Option.bind_eq_bind, Option.bind_eq_some_iff, Option.some.injEq,
    Option.pure_def, Prod.exists] at found
  obtain ⟨level, afterLevel, mark, address, afterAddress, hexDigits, afterMark, marked,
    afterWord, worded, abbreviation, afterNumber, number, separator, afterBlanks, blanks,
    afterOpen, opened, tag, afterTag, tagRun, rest, closed, levelNumber, levelRead,
    abbreviationNumber, abbreviationRead, rfl⟩ := found
  obtain ⟨indent, indentBlank, _, _, rfl⟩ := levelMark?_eq_some_iff.mp mark
  obtain ⟨rfl, addressNonempty, allHex, _⟩ := run?_eq_some_iff.mp hexDigits
  obtain ⟨gap, gapBlank, gapSplit⟩ := exists_trimStart afterMark
  obtain ⟨space, spaceBlank, spaceSplit⟩ := exists_trimStart afterWord
  obtain ⟨numbered, _, _, _⟩ := run?_eq_some_iff.mp number
  obtain ⟨rfl, separatorNonempty, separatorBlank, _⟩ := run?_eq_some_iff.mp blanks
  obtain ⟨rfl, tagNonempty, noClose, _⟩ := run?_eq_some_iff.mp tagRun
  rw [after?_eq_some_iff] at marked worded opened closed
  refine ⟨⟨indent, level, address, gap, space, abbreviation, separator, tag, rest⟩,
    levelNumber, abbreviationNumber, ?_, ?_, rfl⟩
  · exact {
      indent := indentBlank
      level := word32?_eq_some_iff.mp levelRead
      address_ne_nil := addressNonempty
      address := allHex
      gap := gapBlank
      space := spaceBlank
      abbreviation := word32?_eq_some_iff.mp abbreviationRead
      separator_ne_nil := separatorNonempty
      separator := separatorBlank
      tag_ne_nil := tagNonempty
      tag_noClose := fun member => absurd (noClose _ member) (by decide) }
  · rw [HeaderPieces.chars, HeaderPieces.afterLevel, marked, gapSplit, worded, spaceSplit,
      numbered, opened, closed]

theorem HeaderPieces.Valid.header?_chars {pieces : HeaderPieces} {level abbreviation : UInt32}
    (valid : pieces.Valid level abbreviation) (index : Nat) :
    header? pieces.chars index = some (pieces.record level abbreviation index) := by
  have numberStarts : ∀ rest : List Char, ∀ first ∈ (pieces.abbreviation ++ rest).head?,
      isBlank first = false := by
    intro rest first isFirst
    rw [List.head?_append_of_ne_nil _ valid.abbreviation.nonempty] at isFirst
    exact isBlank_of_isDigit (valid.abbreviation.digit _ (List.mem_of_mem_head? isFirst))
  have numberStops : ∀ rest : List Char, ∀ first ∈ (pieces.separator ++ rest).head?,
      isDecimal first = false := by
    intro rest first isFirst
    rw [List.head?_append_of_ne_nil _ valid.separator_ne_nil] at isFirst
    exact isDecimal_eq_false_of_isBlank (valid.separator _ (List.mem_of_mem_head? isFirst))
  have inTag : ∀ c ∈ pieces.tag, (c != ')') = true := by
    intro c member
    rw [bne_iff_ne]
    rintro rfl
    exact valid.tag_noClose member
  simp only [header?, valid.levelMark?_chars, Option.bind_eq_bind, Option.bind_some]
  rw [HeaderPieces.afterLevel,
    run?_append valid.address_ne_nil valid.address (by rintro _ ⟨rfl⟩; rfl), Option.bind_some,
    after?_append, Option.bind_some, trimStart_append valid.gap (by rintro _ ⟨rfl⟩; rfl),
    after?_append, Option.bind_some, trimStart_append valid.space (numberStarts _),
    run?_append valid.abbreviation.nonempty
      (fun c member => isDecimal_of_isDigit (valid.abbreviation.digit c member)) (numberStops _),
    Option.bind_some,
    run?_append valid.separator_ne_nil valid.separator (by rintro _ ⟨rfl⟩; rfl),
    Option.bind_some, after?_append, Option.bind_some,
    run?_append valid.tag_ne_nil inTag (by rintro _ ⟨rfl⟩; rfl), Option.bind_some,
    after?_append, Option.bind_some, word32?_eq_some_iff.mpr valid.level, Option.bind_some,
    word32?_eq_some_iff.mpr valid.abbreviation]
  rfl

theorem header?_eq_some_iff {line : List Char} {index : Nat} {record : Record} :
    header? line index = some record ↔ ∃ pieces : HeaderPieces, ∃ level abbreviation,
      pieces.Valid level abbreviation ∧ pieces.chars = line ∧
        pieces.record level abbreviation index = record := by
  constructor
  · exact exists_pieces_of_header?
  · rintro ⟨pieces, level, abbreviation, valid, rfl, rfl⟩
    exact valid.header?_chars index

/-- A line is read as a header exactly if it is one in all its pieces. -/
theorem isSome_header?_iff {line : List Char} {index : Nat} :
    (header? line index).isSome = true ↔ WellFormedHeader line := by
  rw [Option.isSome_iff_exists]
  constructor
  · rintro ⟨record, found⟩
    obtain ⟨pieces, level, abbreviation, valid, same, _⟩ := header?_eq_some_iff.mp found
    exact ⟨level, pieces, abbreviation, valid, same⟩
  · rintro ⟨level, pieces, abbreviation, valid, same⟩
    exact ⟨_, header?_eq_some_iff.mpr ⟨pieces, level, abbreviation, valid, same, rfl⟩⟩

/-- The record of a header has the level that the header states. -/
theorem headerOf_iff {line : List Char} {level : UInt32} (index : Nat) :
    HeaderOf line level ↔ ∃ record, header? line index = some record ∧ record.level = level := by
  constructor
  · rintro ⟨pieces, abbreviation, valid, same⟩
    exact ⟨_, header?_eq_some_iff.mpr ⟨pieces, level, abbreviation, valid, same, rfl⟩, rfl⟩
  · rintro ⟨record, found, rfl⟩
    obtain ⟨pieces, level, abbreviation, valid, same, rfl⟩ := header?_eq_some_iff.mp found
    exact ⟨pieces, abbreviation, valid, same⟩

/-! ## Headers and records -/

/-- A record as its header opened it. -/
def bare (record : Record) : Record :=
  { record with name := none, fullName := none, attributes := {} }

theorem bare_withAttribute (record : Record) (key value : String) :
    (record.withAttribute key value).bare = record.bare := by
  unfold withAttribute
  split <;> rfl

theorem bare_absorb (record : Record) (index : Nat) (lines : List String) :
    (Block.absorb record index lines).1.bare = record.bare := by
  induction lines generalizing record index with
  | nil => rfl
  | cons line rest ih =>
      rw [Block.absorb]
      cases attribute? line.toList with
      | none => exact ih record (index + 1)
      | some read => exact (ih _ (index + 1)).trans (bare_withAttribute record read.1 read.2)

theorem bare_of_header? {line : List Char} {index : Nat} {record : Record}
    (found : header? line index = some record) : record.bare = record := by
  obtain ⟨_, _, _, _, _, rfl⟩ := header?_eq_some_iff.mp found
  rfl

theorem header?_eq_none_of_not_isHeader {line : List Char} (other : isHeader line = false)
    (index : Nat) : header? line index = none := by
  rw [isHeader, Option.isSome_eq_false_iff, Option.isNone_iff_eq_none] at other
  rw [header?, other]
  rfl

theorem map_bare_record (block : Block) :
    block.record.1.map bare = header? block.header.toList block.index := by
  rw [Block.record]
  cases found : header? block.header.toList block.index with
  | none =>
      dsimp only
      split <;> rfl
  | some record =>
      dsimp only
      rw [Option.map_some, bare_absorb, bare_of_header? found]

/-- Only lines that begin like a header open a block, and no other line is a
header. -/
theorem filterMap_blocksFrom (index : Nat) (lines : List String) :
    (Block.blocksFrom index lines).filterMap
        (fun block => header? block.header.toList block.index) =
      (lines.zipIdx index).filterMap fun (line, index) => header? line.toList index := by
  induction lines generalizing index with
  | nil => rfl
  | cons line rest ih =>
      rw [List.zipIdx_cons, List.filterMap_cons, ← ih, Block.blocksFrom]
      cases header : isHeader line.toList with
      | false => simp [header?_eq_none_of_not_isHeader header]
      | true => rw [if_pos rfl, List.filterMap_cons]

/-- The records of a dump are those that its headers open, with attributes. -/
theorem map_bare_ofDump (dump : String) :
    (ofDump dump).1.map bare =
      (Text.lines dump).zipIdx.filterMap fun (line, index) => header? line.toList index := by
  rw [← filterMap_blocksFrom, ofDump, List.map_filterMap, List.filterMap_map]
  exact List.filterMap_congr fun block _ => map_bare_record block

/-- A dump without a record is one without a header. -/
theorem ofDump_eq_nil_iff (dump : String) :
    (ofDump dump).1 = [] ↔ ∀ line ∈ Text.lines dump, ¬ WellFormedHeader line.toList := by
  rw [← List.map_eq_nil_iff (f := bare), map_bare_ofDump, List.filterMap_eq_nil_iff]
  constructor
  · intro noHeader line member wellFormed
    obtain ⟨index, found⟩ := List.mem_iff_getElem?.mp member
    have none := noHeader (line, index) (List.mk_mem_zipIdx_iff_getElem?.mpr found)
    have some : (header? line.toList index).isSome = true := isSome_header?_iff.mpr wellFormed
    exact Option.isSome_iff_ne_none.mp some none
  · rintro noHeader ⟨line, index⟩ member
    rw [← Option.not_isSome_iff_eq_none, isSome_header?_iff]
    exact noHeader line (List.fst_mem_of_mem_zipIdx member)

end Record

end Bindery
