import Bindery.Text.CharClass

/-!
# Reading numbers

Numbers are written with ASCII digits in base ten or sixteen.  A sign may stand
in front where the reader allows one; nothing else may stand around them.  A
reader of a bounded range refuses every number outside it.
-/

namespace Bindery.Text

/-- The value of an ASCII digit of the base, which is at most sixteen. -/
def digitValue? (base : Nat) (c : Char) : Option Nat :=
  let value? :=
    if c.isDigit then some (c.toNat - '0'.toNat)
    else if 'a' ≤ c && c ≤ 'f' then some (c.toNat - 'a'.toNat + 10)
    else if 'A' ≤ c && c ≤ 'F' then some (c.toNat - 'A'.toNat + 10)
    else none
  value?.filter fun value => value < base

/-- Read digits to the end, the most significant first, after those already
gathered in `value`. -/
def digitsFrom? (base value : Nat) : List Char → Option Nat
  | [] => some value
  | c :: rest => do
      let digit ← digitValue? base c
      digitsFrom? base (value * base + digit) rest

/-- Read a number without a sign: one digit or more. -/
def natural? (base : Nat) : List Char → Option Nat
  | [] => none
  | digits => digitsFrom? base 0 digits

/-- Read a number that a plus sign may precede. -/
def unsigned? (base : Nat) : List Char → Option Nat
  | '+' :: digits => natural? base digits
  | digits => natural? base digits

/-- Read a number that a plus or minus sign may precede. -/
def integer? (base : Nat) : List Char → Option Int
  | '-' :: digits => (natural? base digits).map fun value => -(value : Int)
  | '+' :: digits => (natural? base digits).map fun value => (value : Int)
  | digits => (natural? base digits).map fun value => (value : Int)

/-! ## Bounded numbers -/

/-- Read a number of 32 bits in base ten. -/
def word32? (digits : List Char) : Option UInt32 :=
  match natural? 10 digits with
  | some value => if h : value < UInt32.size then some (UInt32.ofNatLT value h) else none
  | none => none

/-- Read a signed number of 64 bits. -/
def signed64? (base : Nat) (digits : List Char) : Option Int :=
  (integer? base digits).filter fun value =>
    Int64.minValue.toInt ≤ value && value ≤ Int64.maxValue.toInt

/-- Read a count of 64 bits in base ten. -/
def count64? (digits : List Char) : Option Nat :=
  (unsigned? 10 digits).filter fun value => value < UInt64.size

end Bindery.Text
