/-!
# Blank characters and trimming

A character is blank when it has the Unicode property `White_Space`.  The same
class decides what is trimmed from a value and what may stand between the
pieces of a line, so U+00A0, U+0085 and U+3000 count while U+001F, U+200B and
U+FEFF do not.

Scanners work on lists of characters.  The functions on `String` at the end
are the same operations for stored values.
-/

namespace Bindery.Text

/-- A character with the Unicode property `White_Space`. -/
def isBlank (c : Char) : Bool :=
  let code := c.toNat
  (0x9 ≤ code && code ≤ 0xd) || code == 0x20 || code == 0x85 || code == 0xa0 ||
    code == 0x1680 || (0x2000 ≤ code && code ≤ 0x200a) || code == 0x2028 ||
    code == 0x2029 || code == 0x202f || code == 0x205f || code == 0x3000

/-! ## Trimming -/

/-- Drop the blanks in front. -/
def trimStart (chars : List Char) : List Char :=
  chars.dropWhile isBlank

/-- Drop the blanks at the end. -/
def trimEnd : List Char → List Char
  | [] => []
  | first :: rest =>
      match trimEnd rest with
      | [] => if isBlank first then [] else [first]
      | kept => first :: kept

/-- Blanks after a text make no difference to what is left of it. -/
theorem trimEnd_append_of_blank {blanks : List Char}
    (allBlank : ∀ c ∈ blanks, isBlank c = true) (chars : List Char) :
    trimEnd (chars ++ blanks) = trimEnd chars := by
  induction chars with
  | nil =>
      induction blanks with
      | nil => rfl
      | cons c rest ih =>
          have restEmpty : trimEnd rest = [] :=
            ih fun c member => allBlank c (List.mem_cons_of_mem _ member)
          simp [trimEnd, restEmpty, allBlank c List.mem_cons_self]
  | cons c rest ih => simp only [List.cons_append, trimEnd, ih]

/-- What is left of a text does not end with a blank. -/
theorem isBlank_getLast_trimEnd {chars : List Char} {last : Char}
    (isLast : (trimEnd chars).getLast? = some last) : isBlank last = false := by
  induction chars with
  | nil => simp [trimEnd] at isLast
  | cons c rest ih =>
      simp only [trimEnd] at isLast
      cases kept : trimEnd rest with
      | nil =>
          by_cases blank : isBlank c = true
          · simp [kept, blank] at isLast
          · have same : c = last := by simpa [kept, blank] using isLast
            simpa [same] using blank
      | cons first others =>
          rw [kept] at isLast ih
          exact ih (by simpa using isLast)

/-- Drop the blanks on both sides. -/
def trim (chars : List Char) : List Char :=
  trimEnd (trimStart chars)

/-- A string without the blanks on both sides. -/
def trimmed (text : String) : String :=
  String.ofList (trim text.toList)

/-- A string without the blanks at its end. -/
def trimmedEnd (text : String) : String :=
  String.ofList (trimEnd text.toList)

/-- The first maximal run of characters that are not blank, if there is one. -/
def firstWord? (chars : List Char) : Option (List Char) :=
  match (trimStart chars).takeWhile fun c => !isBlank c with
  | [] => none
  | word => some word

end Bindery.Text
