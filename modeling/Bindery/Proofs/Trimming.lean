import Mathlib.Data.List.Basic
import Bindery.Text.Blank

/-!
# What trimming leaves

A text without blanks at its ends is left as it is, and trimming leaves such a
text.
-/

namespace Bindery.Text

theorem trimStart_suffix (chars : List Char) : trimStart chars <:+ chars :=
  List.dropWhile_suffix isBlank

theorem trimEnd_prefix (chars : List Char) : trimEnd chars <+: chars := by
  induction chars with
  | nil => exact List.prefix_refl []
  | cons c rest ih =>
      rw [trimEnd]
      split
      · split
        · exact List.nil_prefix
        · exact ⟨rest, rfl⟩
      · rename_i kept
        exact List.cons_prefix_cons.mpr ⟨rfl, ih⟩

theorem trimStart_eq_self {chars : List Char}
    (starts : ∀ first ∈ chars.head?, isBlank first = false) : trimStart chars = chars := by
  cases chars with
  | nil => rfl
  | cons c rest => exact List.dropWhile_cons_of_neg (by simp [starts c rfl])

theorem trimEnd_eq_self {chars : List Char}
    (ends : ∀ last ∈ chars.getLast?, isBlank last = false) : trimEnd chars = chars := by
  induction chars with
  | nil => rfl
  | cons c rest ih =>
      cases rest with
      | nil => simp [trimEnd, ends c rfl]
      | cons next others => rw [trimEnd, ih (by simpa using ends)]

/-- What is left of a text does not begin with a blank. -/
theorem isBlank_head_trim {chars : List Char} {first : Char}
    (isFirst : (trim chars).head? = some first) : isBlank first = false := by
  obtain ⟨rest, split⟩ := trimEnd_prefix (trimStart chars)
  have head : (trimStart chars).head? = some first := by
    rw [← split, List.head?_append, ← trim, isFirst]
    rfl
  have stopped := List.head?_dropWhile_not isBlank chars
  rw [← trimStart, head] at stopped
  simpa using stopped

theorem trim_trim (chars : List Char) : trim (trim chars) = trim chars := by
  have start : trimStart (trim chars) = trim chars :=
    trimStart_eq_self fun _ isFirst => isBlank_head_trim isFirst
  rw [trim, start]
  exact trimEnd_eq_self fun _ isLast => isBlank_getLast_trimEnd isLast

/-- A text that is trimmed has nothing to trim at its start. -/
theorem trimStart_of_trim_eq {chars : List Char} (trimmed : trim chars = chars) :
    trimStart chars = chars := by
  apply trimStart_eq_self
  intro first isFirst
  rw [← trimmed] at isFirst
  exact isBlank_head_trim isFirst

theorem trimEnd_of_trim_eq {chars : List Char} (trimmed : trim chars = chars) :
    trimEnd chars = chars := by
  apply trimEnd_eq_self
  intro last isLast
  rw [← trimmed] at isLast
  exact isBlank_getLast_trimEnd isLast

theorem trimmed_eq_self_iff {text : String} :
    trimmed text = text ↔ trim text.toList = text.toList := by
  rw [trimmed, ← String.toList_inj, String.toList_ofList]

end Bindery.Text
