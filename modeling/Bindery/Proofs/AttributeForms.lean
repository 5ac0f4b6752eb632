import Bindery.Proofs.HeaderForms

/-!
# The form of an attribute

An attribute line gives an address, a key and a value.  As for a header, its
form is given piece by piece, and a line is read as an attribute with a key and
a value exactly if it has that form.
-/

namespace Bindery

/-- No blank stands in a word. -/
theorem Text.isWordChar_eq_false_of_isBlank {c : Char} (blank : Text.isBlank c = true) :
    Text.isWordChar c = false :=
  Text.of_forall_blank (P := fun c => Text.isWordChar c = false) (by decide +kernel) blank

namespace Record

open Bindery.Text

/-- The pieces of an attribute line before its value, without the words and
marks between them. -/
structure AttributePieces where
  indent : List Char
  address : List Char
  /-- The blanks after the address. -/
  gap : List Char
  key : List Char
  /-- The blanks after the key. -/
  space : List Char
  deriving DecidableEq, Repr

namespace AttributePieces

/-- What the pieces make up before the value. -/
def lead (pieces : AttributePieces) : List Char :=
  pieces.indent ++ (['<'] ++ (pieces.address ++ (['>'] ++ (pieces.gap ++
    ("DW_AT_".toList ++ (pieces.key ++ (pieces.space ++ [':'])))))))

structure Valid (pieces : AttributePieces) : Prop where
  indent : ∀ c ∈ pieces.indent, isBlank c = true
  address_ne_nil : pieces.address ≠ []
  address : ∀ c ∈ pieces.address, isHexDigit c = true
  gap : ∀ c ∈ pieces.gap, isBlank c = true
  key_ne_nil : pieces.key ≠ []
  key : ∀ c ∈ pieces.key, isWordChar c = true
  space : ∀ c ∈ pieces.space, isBlank c = true

variable {pieces : AttributePieces}

theorem Valid.trimStart_append (valid : pieces.Valid) (rest : List Char) :
    trimStart (pieces.lead ++ rest) = ['<'] ++ (pieces.address ++ (['>'] ++ (pieces.gap ++
      ("DW_AT_".toList ++ (pieces.key ++ (pieces.space ++ ([':'] ++ rest))))))) := by
  simp only [lead, List.append_assoc]
  exact Text.trimStart_append valid.indent (by rintro _ ⟨rfl⟩; rfl)

end AttributePieces

/-- What is read as an attribute is made up of its pieces. -/
theorem exists_pieces_of_attribute? {line : List Char} {key value : String}
    (found : attribute? line = some (key, value)) : ∃ pieces : AttributePieces, ∃ rest,
      pieces.Valid ∧ line = pieces.lead ++ rest ∧ '\n' ∉ trimStart rest ∧
        String.ofList pieces.key = key ∧ String.ofList (trim rest) = value := by
  simp only [attribute?, Option.bind_eq_bind, Option.bind_eq_some_iff, Option.some.injEq,
    Prod.exists, Option.ite_none_left_eq_some, Prod.mk.injEq] at found
  obtain ⟨_, opened, address, _, digits, afterAddress, closed, _, marked, word, afterWord,
    wordRun, rest, colon, noFeed, rfl, rfl⟩ := found
  obtain ⟨indent, indentBlank, split⟩ := exists_trimStart line
  obtain ⟨rfl, addressNonempty, allHex, _⟩ := run?_eq_some_iff.mp digits
  rw [after?_eq_some_iff] at opened closed marked colon
  obtain ⟨gap, gapBlank, gapSplit⟩ := exists_trimStart afterAddress
  obtain ⟨rfl, wordNonempty, allWord, _⟩ := run?_eq_some_iff.mp wordRun
  obtain ⟨space, spaceBlank, spaceSplit⟩ := exists_trimStart afterWord
  refine ⟨⟨indent, address, gap, word, space⟩, rest, ?_, ?_, ?_, rfl, rfl⟩
  · exact {
      indent := indentBlank
      address_ne_nil := addressNonempty
      address := allHex
      gap := gapBlank
      key_ne_nil := wordNonempty
      key := allWord
      space := spaceBlank }
  · rw [split, opened, closed, gapSplit, marked, spaceSplit, colon]
    simp [AttributePieces.lead]
  · rwa [List.contains_iff_mem] at noFeed

theorem attribute?_lead_append {pieces : AttributePieces} (valid : pieces.Valid)
    {rest : List Char} (noFeed : '\n' ∉ trimStart rest) :
    attribute? (pieces.lead ++ rest) =
      some (String.ofList pieces.key, String.ofList (trim rest)) := by
  have keyStops : ∀ first ∈ (pieces.space ++ ([':'] ++ rest)).head?,
      isWordChar first = false := by
    intro first isFirst
    cases blanks : pieces.space with
    | nil =>
        rw [blanks] at isFirst
        cases isFirst
        decide
    | cons blank others =>
        rw [blanks] at isFirst
        cases isFirst
        exact isWordChar_eq_false_of_isBlank (valid.space _ (blanks ▸ List.mem_cons_self))
  have noFeedHeld : (trimStart rest).contains '\n' = false := by
    rwa [Bool.eq_false_iff, ne_eq, List.contains_iff_mem]
  simp only [attribute?, valid.trimStart_append, Option.bind_eq_bind]
  rw [after?_append, Option.bind_some,
    run?_append valid.address_ne_nil valid.address (by rintro _ ⟨rfl⟩; rfl), Option.bind_some,
    after?_append, Option.bind_some,
    trimStart_append valid.gap (fun c isFirst => by cases isFirst; rfl),
    after?_append, Option.bind_some, run?_append valid.key_ne_nil valid.key keyStops,
    Option.bind_some, trimStart_append valid.space (by rintro _ ⟨rfl⟩; rfl), after?_append,
    Option.bind_some, noFeedHeld]
  rfl

/-- The value is all that follows the colon, without the blanks around it. -/
theorem attribute?_eq_some_iff {line : List Char} {key value : String} :
    attribute? line = some (key, value) ↔ ∃ pieces : AttributePieces, ∃ rest,
      pieces.Valid ∧ line = pieces.lead ++ rest ∧ '\n' ∉ trimStart rest ∧
        String.ofList pieces.key = key ∧ String.ofList (trim rest) = value := by
  constructor
  · exact exists_pieces_of_attribute?
  · rintro ⟨pieces, rest, valid, rfl, noFeed, rfl, rfl⟩
    exact attribute?_lead_append valid noFeed

/-- An attribute line is indented by two spaces or more before its address, and
it is no header. -/
theorem isAttribute_iff {line : List Char} :
    isAttribute line = true ↔ isHeader line = false ∧ ∃ indent rest,
      (∀ c ∈ indent, isBlank c = true) ∧ line = ([' ', ' '] ++ indent ++ ['<']) ++ rest := by
  have spacesBlank : ∀ c ∈ [' ', ' '], isBlank c = true := List.all_eq_true.mp rfl
  simp only [isAttribute, Bool.and_eq_true, Bool.not_eq_true', Option.isSome_iff_exists,
    after?_eq_some_iff]
  constructor
  · rintro ⟨⟨⟨afterSpaces, rfl⟩, rest, opened⟩, noHeader⟩
    obtain ⟨indent, blank, split⟩ := exists_trimStart afterSpaces
    rw [trimStart, List.dropWhile_append_of_pos spacesBlank, ← trimStart] at opened
    exact ⟨noHeader, indent, rest, blank, by rw [split, opened]; simp⟩
  · rintro ⟨noHeader, indent, rest, blank, rfl⟩
    refine ⟨⟨⟨indent ++ ['<'] ++ rest, by simp⟩, rest, ?_⟩, noHeader⟩
    rw [List.append_assoc]
    exact trimStart_append (List.forall_mem_append.mpr ⟨spacesBlank, blank⟩)
      (by rintro _ ⟨rfl⟩; rfl)

end Record

end Bindery
