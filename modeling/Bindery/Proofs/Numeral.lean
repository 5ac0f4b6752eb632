import Mathlib.Data.Nat.Digits.Defs
import Bindery.Text.Numeral

/-!
# Numbers written in decimal

A number that is written with decimal digits is read back.
-/

namespace Bindery.Text

theorem isDecimal_of_isDigit {c : Char} (digit : c.isDigit = true) : isDecimal c = true := by
  have inFirst : (0x30 ≤ c.toNat && c.toNat ≤ 0x39) = true := by
    rw [Bool.and_eq_true, decide_eq_true_eq, decide_eq_true_eq]
    exact Char.isDigit_iff_toNat.mp digit
  rw [isDecimal, decimalRanges, inRanges, List.any_cons, inFirst, Bool.true_or]

/-- A decimal digit is less than ten. -/
theorem digitValue?_of_isDigit {c : Char} (digit : c.isDigit = true) :
    digitValue? 10 c = some (c.toNat - '0'.toNat) := by
  have below : c.toNat - '0'.toNat < 10 := by
    have atMost : c.toNat ≤ 57 := (Char.isDigit_iff_toNat.mp digit).2
    have zero : '0'.toNat = 48 := rfl
    omega
  simp only [digitValue?, digit, if_true, Option.filter_some, below, decide_true]

theorem digitsFrom?_of_isDigit {digits : List Char} (all : ∀ c ∈ digits, c.isDigit = true)
    (value : Nat) : digitsFrom? 10 value digits = some (Nat.ofDigitChars 10 digits value) := by
  induction digits generalizing value with
  | nil => rfl
  | cons c rest ih =>
      obtain ⟨digit, others⟩ := List.forall_mem_cons.mp all
      rw [digitsFrom?, digitValue?_of_isDigit digit, Nat.ofDigitChars_cons, Nat.mul_comm 10 value]
      exact ih others _

/-- The digits of a number in base ten. -/
theorem isDigit_of_mem_toString {number : Nat} {c : Char} (member : c ∈ (toString number).toList) :
    c.isDigit = true := by
  rw [Nat.toString_eq_ofList_toDigits, String.toList_ofList] at member
  exact Nat.isDigit_of_mem_toDigits (by decide) (by decide) member

theorem feed_not_mem_toString (number : Nat) : '\n' ∉ (toString number).toList :=
  fun member => absurd (isDigit_of_mem_toString member) (by decide)

theorem toList_toString_ne_nil (number : Nat) : (toString number).toList ≠ [] := by
  rw [Nat.toString_eq_ofList_toDigits, String.toList_ofList]
  exact Nat.toDigits_ne_nil

theorem natural?_toString (number : Nat) : natural? 10 (toString number).toList = some number := by
  have digit : ∀ c ∈ (toString number).toList, c.isDigit = true :=
    fun _ => isDigit_of_mem_toString
  have read := digitsFrom?_of_isDigit digit 0
  have value : Nat.ofDigitChars 10 (toString number).toList 0 = number := by
    rw [Nat.toString_eq_ofList_toDigits, String.toList_ofList, Nat.ofDigitChars_ten_toDigits]
  rw [value] at read
  cases digits : (toString number).toList with
  | nil => exact absurd digits (toList_toString_ne_nil number)
  | cons c rest => rwa [digits] at read

/-- Different numbers are written differently. -/
theorem toString_injective {first second : Nat} (same : toString first = toString second) :
    first = second := by
  have read := natural?_toString first
  rw [same, natural?_toString] at read
  exact (Option.some.inj read).symm

/-- A number of 32 bits is read back. -/
theorem word32?_toString (number : UInt32) :
    word32? (toString number.toNat).toList = some number := by
  unfold word32?
  rw [natural?_toString]
  simp only [number.toNat_lt_size, dif_pos, UInt32.ofNatLT_toNat]

end Bindery.Text
