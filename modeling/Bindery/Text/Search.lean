/-!
# Searching and splitting text

Prefixes, first occurrences, leading runs and lines, on lists of characters.

A line ends at a line feed, together with a carriage return right before it.
A carriage return anywhere else belongs to its line, and a text that ends with
a line feed has no empty line after it.
-/

namespace Bindery.Text

/-- The characters after `lead`, when the text starts with it. -/
def after? : (lead text : List Char) → Option (List Char)
  | [], text => some text
  | _ :: _, [] => none
  | expected :: lead, c :: text => if c = expected then after? lead text else none

theorem after?_eq_some_iff {lead text rest : List Char} :
    after? lead text = some rest ↔ text = lead ++ rest := by
  induction lead generalizing text with
  | nil => simp [after?]
  | cons expected lead ih =>
      cases text with
      | nil => simp [after?]
      | cons c text =>
          by_cases same : c = expected <;> simp [after?, same, ih]

/-- The characters after the first occurrence of `needle`. -/
def afterFirst? (needle : List Char) : List Char → Option (List Char)
  | [] => after? needle []
  | c :: rest =>
      match after? needle (c :: rest) with
      | some tail => some tail
      | none => afterFirst? needle rest

/-- Whether `needle` occurs in the text. -/
def contains (needle text : List Char) : Bool :=
  (afterFirst? needle text).isSome

theorem contains_iff_isInfix {needle text : List Char} :
    contains needle text = true ↔ needle <:+: text := by
  induction text with
  | nil =>
      cases needle <;> simp [contains, afterFirst?, after?]
  | cons c rest ih =>
      simp only [contains, afterFirst?] at ih ⊢
      cases found : after? needle (c :: rest) with
      | some tail =>
          rw [after?_eq_some_iff] at found
          simpa using List.IsPrefix.isInfix ⟨tail, found.symm⟩
      | none =>
          have noPrefix : ¬ needle <+: c :: rest := by
            rintro ⟨tail, split⟩
            rw [after?_eq_some_iff.mpr split.symm] at found
            contradiction
          simp only [ih, List.infix_cons_iff, noPrefix, false_or]

/-- The maximal run of characters of a class in front, which must not be empty,
and the characters after it. -/
def run? (inClass : Char → Bool) (text : List Char) :
    Option (List Char × List Char) :=
  match text.takeWhile inClass with
  | [] => none
  | run => some (run, text.dropWhile inClass)

/-- A run is nonempty, of its class, and stops only where the class ends. -/
theorem run?_eq_some_iff {inClass : Char → Bool} {text run rest : List Char} :
    run? inClass text = some (run, rest) ↔
      text = run ++ rest ∧ run ≠ [] ∧ (∀ c ∈ run, inClass c = true) ∧
        ∀ c ∈ rest.head?, inClass c = false := by
  constructor
  · intro found
    have parts : text.takeWhile inClass = run ∧ text.dropWhile inClass = rest ∧ run ≠ [] := by
      cases taken : text.takeWhile inClass with
      | nil => simp [run?, taken] at found
      | cons first others =>
          simp only [run?, taken, Option.some.injEq, Prod.mk.injEq] at found
          exact ⟨found.1, found.2, by simp [← found.1]⟩
    obtain ⟨rfl, rfl, nonempty⟩ := parts
    refine ⟨List.takeWhile_append_dropWhile.symm, nonempty, ?_, ?_⟩
    · intro c member
      exact List.all_eq_true.mp List.all_takeWhile c member
    · intro c head
      have stopped := List.head?_dropWhile_not inClass text
      rw [Option.mem_def.mp head] at stopped
      simpa using stopped
  · rintro ⟨rfl, nonempty, inRun, stops⟩
    have taken : (run ++ rest).takeWhile inClass = run := by
      rw [List.takeWhile_append_of_pos inRun]
      cases rest with
      | nil => simp
      | cons c rest => simp [stops c (by simp)]
    have dropped : (run ++ rest).dropWhile inClass = rest := by
      rw [List.dropWhile_append_of_pos inRun]
      cases rest with
      | nil => simp
      | cons c rest => simp [stops c (by simp)]
    cases run with
    | nil => contradiction
    | cons first others =>
        simp only [run?, taken, dropped]

/-! ## Lines -/

/-- Take one carriage return off the end of a line. -/
def dropReturn : List Char → List Char
  | [] => []
  | ['\r'] => []
  | c :: rest => c :: dropReturn rest

/-- The lines of the characters that follow `line`, the characters already read
of the line in hand, nearest first. -/
def linesFrom (line : List Char) : List Char → List (List Char)
  | [] => if line.isEmpty then [] else [line.reverse]
  | '\n' :: rest => dropReturn line.reverse :: linesFrom [] rest
  | c :: rest => linesFrom (c :: line) rest

/-- The lines of a text, without their ends. -/
def lines (text : String) : List String :=
  (linesFrom [] text.toList).map String.ofList

end Bindery.Text
