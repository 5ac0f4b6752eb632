import Bindery.Proofs.HeaderForms
import Bindery.Proofs.JsonText
import Bindery.Proofs.PackagePaths

/-!
# Signed numbers

A signed number of 64 bits is written in base ten, or in base sixteen after `0x`
with small or capital digits and any number of zeros before them.  From each of
these forms it is read back.
-/

namespace Bindery

namespace Text

/-! ## Digits -/

theorem digitsFrom?_append (base value : Nat) (first second : List Char) :
    digitsFrom? base value (first ++ second) =
      (digitsFrom? base value first).bind fun read => digitsFrom? base read second := by
  induction first generalizing value with
  | nil => rfl
  | cons c rest ih =>
      rw [List.cons_append, digitsFrom?, digitsFrom?]
      cases digitValue? base c with
      | none => rfl
      | some digit => exact ih _

theorem isHexDigit_of_digitValue? {base value : Nat} {c : Char}
    (found : digitValue? base c = some value) : isHexDigit c = true := by
  rw [digitValue?, Option.filter_eq_some_iff] at found
  rw [isHexDigit]
  by_cases digit : c.isDigit = true
  · rw [digit, Bool.true_or, Bool.true_or]
  · by_cases small : ('a' ≤ c && c ≤ 'f') = true
    · rw [small, Bool.or_true, Bool.true_or]
    · by_cases large : ('A' ≤ c && c ≤ 'F') = true
      · rw [large, Bool.or_true]
      · rw [if_neg digit, if_neg small, if_neg large] at found
        cases found.1

/-- The value of a digit does not depend on its case. -/
theorem digitValue?_toLower (c : Char) : digitValue? 16 c.toLower = digitValue? 16 c := by
  by_cases ascii : c.toNat < 0x80
  · exact of_forall_ascii (P := fun c => digitValue? 16 c.toLower = digitValue? 16 c)
      (by decide +kernel) ascii
  · have noCapital : ¬ (c.val ≥ 'A'.val ∧ c.val ≤ 'Z'.val) := by
      rintro ⟨_, atMost⟩
      have bound : c.toNat ≤ 90 := UInt32.le_iff_toNat_le.mp atMost
      omega
    have same : c.toLower = c := dif_neg noCapital
    rw [same]

theorem digitsFrom?_map_toLower (value : Nat) (digits : List Char) :
    digitsFrom? 16 value (digits.map Char.toLower) = digitsFrom? 16 value digits := by
  induction digits generalizing value with
  | nil => rfl
  | cons c rest ih => simp only [List.map_cons, digitsFrom?, digitValue?_toLower, ih]

theorem digitValue?_digitChar {digit : Nat} (small : digit < 16) :
    digitValue? 16 digit.digitChar = some digit := by
  have all : ∀ digit < 16, digitValue? 16 (Nat.digitChar digit) = some digit := by decide
  exact all digit small

theorem digitsFrom?_toDigits (number : Nat) :
    digitsFrom? 16 0 (Nat.toDigits 16 number) = some number := by
  induction number using Nat.strong_induction_on with
  | _ number ih =>
      rcases Nat.lt_or_ge number 16 with small | large
      · rw [Nat.toDigits_of_lt_base small, digitsFrom?, digitValue?_digitChar small]
        simp [digitsFrom?]
      · have less : number / 16 < number := by omega
        have last := digitValue?_digitChar (Nat.mod_lt number (by decide : 0 < 16))
        rw [Nat.toDigits_of_base_le (by decide) large, digitsFrom?_append, ih _ less,
          Option.bind_some, digitsFrom?, last]
        exact congrArg some (Nat.div_add_mod' number 16)

theorem digitsFrom?_replicate_zero (zeros : Nat) (digits : List Char) :
    digitsFrom? 16 0 (List.replicate zeros '0' ++ digits) = digitsFrom? 16 0 digits := by
  induction zeros with
  | zero => rfl
  | succ zeros ih => exact ih

theorem natural?_of_ne_nil {digits : List Char} (nonempty : digits ≠ []) (base : Nat) :
    natural? base digits = digitsFrom? base 0 digits := by
  cases digits with
  | nil => contradiction
  | cons c rest => rfl

/-! ## Written numbers -/

/-- Digits in base sixteen of a number, small or capital, after any number of
zeros. -/
def WritesHex (digits : List Char) (number : Nat) : Prop :=
  ∃ zeros, digits.map Char.toLower = List.replicate zeros '0' ++ Nat.toDigits 16 number

/-- The written forms of a signed number of 64 bits. -/
inductive WritesInt64 : List Char → Int → Prop where
  | decimal (number : Int) (least : -2 ^ 63 ≤ number) (greatest : number < 2 ^ 63) :
      WritesInt64 (toString number).toList number
  | hexadecimal {digits : List Char} {number : Nat} (writes : WritesHex digits number)
      (greatest : number < 2 ^ 63) : WritesInt64 ('0' :: 'x' :: digits) number

/-- A text that begins with a number, blanks before it apart.  The number ends
the text or comes before a blank. -/
def Opens (text : String) (number : Int) : Prop :=
  ∃ blanks word rest, text.toList = blanks ++ (word ++ rest) ∧
    (∀ c ∈ blanks, isBlank c = true) ∧ WritesInt64 word number ∧
    ∀ c ∈ rest.head?, isBlank c = true

theorem WritesHex.natural? {digits : List Char} {number : Nat} (writes : WritesHex digits number) :
    natural? 16 digits = some number := by
  obtain ⟨zeros, lower⟩ := writes
  have nonempty : digits ≠ [] := by
    rintro rfl
    exact Nat.toDigits_ne_nil (List.append_eq_nil_iff.mp lower.symm).2
  rw [natural?_of_ne_nil nonempty, ← digitsFrom?_map_toLower, lower, digitsFrom?_replicate_zero,
    digitsFrom?_toDigits]

/-! ## Reading written numbers -/

theorem isHexDigit_of_natural? {base number : Nat} {digits : List Char}
    (read : natural? base digits = some number) : ∀ c ∈ digits, isHexDigit c = true := by
  cases digits with
  | nil => nofun
  | cons first rest =>
      intro c member
      obtain ⟨digit, found⟩ := exists_digitValue?_of_digitsFrom? read c member
      exact isHexDigit_of_digitValue? found

/-- Digits have no sign before them. -/
theorem integer?_of_natural? {base number : Nat} {digits : List Char}
    (read : natural? base digits = some number) : integer? base digits = some (number : Int) := by
  have hex := isHexDigit_of_natural? read
  rw [integer?.eq_def]
  split
  · exact absurd (hex '-' List.mem_cons_self) (by decide)
  · exact absurd (hex '+' List.mem_cons_self) (by decide)
  · rw [read]
    rfl

theorem integer?_of_minus {base number : Nat} {digits : List Char}
    (read : natural? base digits = some number) :
    integer? base ('-' :: digits) = some (-(number : Int)) := by
  rw [integer?, read]
  rfl

theorem integer?_toString (number : Int) :
    integer? 10 (toString number).toList = some number := by
  cases number with
  | ofNat value => exact integer?_of_natural? (natural?_toString value)
  | negSucc value =>
      rw [Json.toList_toString_negSucc, integer?_of_minus (natural?_toString (value + 1))]
      rfl

theorem signed64?_of_integer? {base : Nat} {digits : List Char} {number : Int}
    (read : integer? base digits = some number) (least : -2 ^ 63 ≤ number)
    (greatest : number < 2 ^ 63) : signed64? base digits = some number := by
  have smallest : Int64.minValue.toInt = -2 ^ 63 := rfl
  have largest : Int64.maxValue.toInt = 2 ^ 63 - 1 := rfl
  rw [signed64?, read, Option.filter_some, smallest, largest, if_pos]
  rw [Bool.and_eq_true, decide_eq_true_eq, decide_eq_true_eq]
  omega

namespace WritesInt64

variable {word : List Char} {number : Int}

theorem ne_nil (writes : WritesInt64 word number) : word ≠ [] := by
  cases writes with
  | decimal => exact Json.toList_toString_int_ne_nil number
  | hexadecimal => exact List.cons_ne_nil _ _

theorem not_isBlank (writes : WritesInt64 word number) : ∀ c ∈ word, isBlank c = false := by
  cases writes with
  | decimal =>
      intro c member
      have numeral := Json.isNumeral_of_mem_toString member
      rw [Json.isNumeral, Bool.or_eq_true, decide_eq_true_eq] at numeral
      rcases numeral with digit | rfl
      · exact isBlank_of_isDigit digit
      · rfl
  | hexadecimal writes =>
      have hex := isHexDigit_of_natural? writes.natural?
      exact List.forall_mem_cons.mpr ⟨rfl, List.forall_mem_cons.mpr
        ⟨rfl, fun c member => isBlank_of_isHexDigit (hex c member)⟩⟩

end WritesInt64

/-- The first word stands between blanks. -/
theorem firstWord?_append {blanks word rest : List Char} (before : ∀ c ∈ blanks, isBlank c = true)
    (nonempty : word ≠ []) (solid : ∀ c ∈ word, isBlank c = false)
    (after : ∀ c ∈ rest.head?, isBlank c = true) :
    firstWord? (blanks ++ (word ++ rest)) = some word := by
  have start : trimStart (blanks ++ (word ++ rest)) = word ++ rest := by
    apply trimStart_append before
    intro first isFirst
    obtain ⟨c, others, rfl⟩ := List.exists_cons_of_ne_nil nonempty
    cases isFirst
    exact solid _ List.mem_cons_self
  have taken : (word ++ rest).takeWhile (fun c => !isBlank c) = word := by
    rw [List.takeWhile_append_of_pos (by simpa using solid)]
    cases rest with
    | nil => exact List.append_nil word
    | cons c others =>
        rw [List.takeWhile_cons_of_neg (by simp [after c rfl]), List.append_nil]
  obtain ⟨c, others, rfl⟩ := List.exists_cons_of_ne_nil nonempty
  rw [firstWord?, start, taken]

end Text

end Bindery
