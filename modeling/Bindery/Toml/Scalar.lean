import Bindery.Text.Numeral
import Bindery.Text.Search
import Bindery.Toml.Item

/-!
# Numbers, dates and words in TOML

A value that is neither quoted nor bracketed is a run of letters, digits and a
few signs.  It is read as a whole: a truth value, a date or time, a float or an
integer, or nothing.
-/

namespace Bindery.Toml

open Bindery.Text

/-! ## Digits with underscores -/

/-- The digits of a run whose first digit has been passed, without the single
underscores between them. -/
def laterDigits? (inClass : Char → Bool) : List Char → Option (List Char)
  | [] => some []
  | '_' :: c :: rest =>
      if inClass c then (laterDigits? inClass rest).map (c :: ·) else none
  | c :: rest =>
      if inClass c then (laterDigits? inClass rest).map (c :: ·) else none

/-- The digits of a run, without the single underscores between them. -/
def digits? (inClass : Char → Bool) : List Char → Option (List Char)
  | [] => none
  | c :: rest =>
      if inClass c then (laterDigits? inClass rest).map (c :: ·) else none

/-- The digits of a decimal number, which has no zero in front. -/
def decimalDigits? (chars : List Char) : Option (List Char) :=
  (digits? Char.isDigit chars).filter fun digits =>
    match digits with
    | '0' :: _ :: _ => false
    | _ => true

/-! ## Integers -/

/-- The greatest integer. -/
def maxInteger : Int :=
  Int64.maxValue.toInt

/-- A sign in front of a number and the characters after it. -/
def signed : List Char → Bool × List Char
  | '-' :: rest => (true, rest)
  | '+' :: rest => (false, rest)
  | chars => (false, chars)

/-- Read an integer of a base other than ten. -/
def radixInteger? (base : Nat) (inClass : Char → Bool) (chars : List Char) : Option Int := do
  let digits ← digits? inClass chars
  let value ← natural? base digits
  if (value : Int) ≤ maxInteger then some value else none

/-- Read an integer. -/
def integerValue? : List Char → Option Int
  | '0' :: 'x' :: rest => radixInteger? 16 isHexDigit rest
  | '0' :: 'o' :: rest => radixInteger? 8 (fun c => '0' ≤ c && c ≤ '7') rest
  | '0' :: 'b' :: rest => radixInteger? 2 (fun c => c = '0' || c = '1') rest
  | chars => do
      let (negative, rest) := signed chars
      let digits ← decimalDigits? rest
      let value ← natural? 10 digits
      if negative then
        if (value : Int) ≤ maxInteger + 1 then some (-(value : Int)) else none
      else if (value : Int) ≤ maxInteger then some value
      else none

/-! ## Floats -/

/-- The least number that is rounded up beyond the greatest float of 64 bits. -/
def floatOverflow : Nat :=
  Nat.pow 2 1024 - Nat.pow 2 970

/-- Whether a decimal number with the given digits and power of ten is too great
for a float.  Its order of magnitude decides all but the closest cases. -/
def overflows (digits : Nat) (exponent : Int) : Bool :=
  if digits = 0 then false
  else
    let magnitude := ((Nat.toDigits 10 digits).length : Int) + exponent
    if magnitude < 309 then false
    else if magnitude > 310 then true
    else if 0 ≤ exponent then floatOverflow ≤ digits * Nat.pow 10 exponent.toNat
    else floatOverflow * Nat.pow 10 (-exponent).toNat ≤ digits

/-- Whether a character may stand in a run of digits. -/
def isDigitOrUnderscore (c : Char) : Bool :=
  c.isDigit || c = '_'

/-- The exponent of a float, which ends it. -/
def exponent? : List Char → Option Int
  | 'e' :: rest | 'E' :: rest => do
      let (negative, rest) := signed rest
      let digits ← digits? Char.isDigit rest
      let value ← natural? 10 digits
      return if negative then -(value : Int) else value
  | _ => none

/-- The digits after the point and the exponent of a float.  At least one of the
two must be there. -/
def fractionAndExponent? : List Char → Option (List Char × Int)
  | '.' :: rest => do
      let fraction ← digits? Char.isDigit (rest.takeWhile isDigitOrUnderscore)
      match rest.dropWhile isDigitOrUnderscore with
      | [] => return (fraction, 0)
      | tail => return (fraction, ← exponent? tail)
  | chars => do return ([], ← exponent? chars)

/-- Whether a run is a float.  A number that is not negative must not be too
great. -/
def isFloat (chars : List Char) : Bool :=
  let (negative, rest) := signed chars
  if rest = "inf".toList || rest = "nan".toList then true
  else
    let parts? := do
      let whole ← decimalDigits? (rest.takeWhile isDigitOrUnderscore)
      let (fraction, exponent) ← fractionAndExponent? (rest.dropWhile isDigitOrUnderscore)
      let digits ← natural? 10 (whole ++ fraction)
      return (digits, exponent - fraction.length)
    parts?.any fun (digits, exponent) => negative || !overflows digits exponent

/-! ## Dates and times -/

/-- A number of exactly so many digits and the characters after it. -/
def fixed? (width : Nat) (chars : List Char) : Option (Nat × List Char) := do
  let digits := chars.take width
  if digits.length = width && digits.all Char.isDigit then
    return (← natural? 10 digits, chars.drop width)
  else none

/-- The number of days in a month. -/
def daysInMonth (year month : Nat) : Nat :=
  if month = 2 then
    if year % 4 = 0 && (year % 100 ≠ 0 || year % 400 = 0) then 29 else 28
  else if month = 4 || month = 6 || month = 9 || month = 11 then 30
  else 31

/-- The characters after a date. -/
def afterDate? (chars : List Char) : Option (List Char) := do
  let (year, rest) ← fixed? 4 chars
  let rest ← after? ['-'] rest
  let (month, rest) ← fixed? 2 rest
  let rest ← after? ['-'] rest
  let (day, rest) ← fixed? 2 rest
  if 1 ≤ month && month ≤ 12 && 1 ≤ day && day ≤ daysInMonth year month then some rest
  else none

/-- The characters after hours and minutes. -/
def afterMinutes? (chars : List Char) : Option (List Char) := do
  let (hour, rest) ← fixed? 2 chars
  let rest ← after? [':'] rest
  let (minute, rest) ← fixed? 2 rest
  if hour ≤ 23 && minute ≤ 59 then some rest else none

/-- The characters after a time of day, which may have a fraction of a
second. -/
def afterTime? (chars : List Char) : Option (List Char) := do
  let rest ← afterMinutes? chars
  let rest ← after? [':'] rest
  let (second, rest) ← fixed? 2 rest
  if second ≤ 60 then
    match rest with
    | '.' :: fraction => (run? Char.isDigit fraction).map Prod.snd
    | _ => some rest
  else none

/-- Whether a run is the distance of a local time from universal time, or
nothing. -/
def isOffset : List Char → Bool
  | [] | ['Z'] | ['z'] => true
  | '+' :: rest | '-' :: rest => afterMinutes? rest = some []
  | _ => false

/-- Whether a run is a date, a time or both. -/
def isMoment (chars : List Char) : Bool :=
  match afterDate? chars with
  | some [] => true
  | some (separator :: time) =>
      (separator = 'T' || separator = 't' || separator = ' ') &&
        (afterTime? time).any isOffset
  | none => afterTime? chars = some []

/-! ## Scalars -/

/-- Whether a character may stand in a value without quotes. -/
def isScalarChar (c : Char) : Bool :=
  c.isAlphanum || c = '_' || c = '+' || c = '-' || c = '.' || c = ':'

/-- The item that a run stands for. -/
def scalarItem? (run : List Char) : Option Item :=
  if run = "true".toList then some (.boolean true)
  else if run = "false".toList then some (.boolean false)
  else if isMoment run then some .moment
  else if isFloat run then some .float
  else (integerValue? run).map .integer

/-- A value without quotes and the characters after it.  A space may stand
between a date and a time. -/
def scalar? (chars : List Char) : Option (Item × List Char) := do
  let run := chars.takeWhile isScalarChar
  let rest := chars.dropWhile isScalarChar
  let item ← scalarItem? run
  match afterDate? run, rest with
  | some [], ' ' :: more =>
      let time := more.takeWhile isScalarChar
      if isMoment (run ++ ' ' :: time) then return (item, more.dropWhile isScalarChar)
      else return (item, rest)
  | _, _ => return (item, rest)

end Bindery.Toml
