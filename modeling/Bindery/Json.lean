/-!
# JSON values

The values that the program prints.  A document is written over several lines
with two spaces of indentation, and with the members of each object in the
order in which the object holds them.
-/

namespace Bindery

/-- A JSON value.  Numbers are whole. -/
inductive Json where
  | number (value : Int)
  | string (text : String)
  | array (items : List Json)
  | object (members : List (String × Json))
  deriving Repr

namespace Json

/-! ## Members in the order of their keys -/

/-- The order in which the members of a sorted object stand. -/
def keyAtMost (first second : String × Json) : Bool :=
  !(second.1 < first.1)

mutual

/-- A value in which the members of every object stand in the order of their
keys, compared character by character. -/
def sortKeys : Json → Json
  | .number value => .number value
  | .string text => .string text
  | .array items => .array (sortItems items)
  | .object members => .object ((sortMembers members).mergeSort keyAtMost)

/-- The items of an array, each with its keys sorted. -/
def sortItems : List Json → List Json
  | [] => []
  | item :: rest => sortKeys item :: sortItems rest

/-- The members of an object where they stand, each value with its keys
sorted. -/
def sortMembers : List (String × Json) → List (String × Json)
  | [] => []
  | (key, value) :: rest => (key, sortKeys value) :: sortMembers rest

end

/-! ## Writing -/

/-- A hexadecimal digit below sixteen, in lower case. -/
def hexDigit (value : Nat) : Char :=
  if value < 10 then Char.ofNat ('0'.toNat + value) else Char.ofNat ('a'.toNat + value - 10)

/-- A character as it stands between quotes.  Only the quote, the backslash and
the control characters of ASCII are written otherwise. -/
def escapeChar (c : Char) : List Char :=
  if c = '"' then ['\\', '"']
  else if c = '\\' then ['\\', '\\']
  else if c = '\n' then ['\\', 'n']
  else if c = '\r' then ['\\', 'r']
  else if c = '\t' then ['\\', 't']
  else if c.toNat = 0x8 then ['\\', 'b']
  else if c.toNat = 0xc then ['\\', 'f']
  else if c.toNat < 0x20 then
    ['\\', 'u', '0', '0', hexDigit (c.toNat / 16), hexDigit (c.toNat % 16)]
  else [c]

/-- A text in quotes. -/
def quote (text : String) : String :=
  String.ofList ('"' :: text.toList.flatMap escapeChar ++ ['"'])

/-- The indentation of a line at a depth. -/
def indentation (depth : Nat) : String :=
  String.ofList (List.replicate (2 * depth) ' ')

/-- A bracketed list whose parts stand on lines of their own, one level deeper
than the brackets.  Without parts the brackets touch. -/
def bracketed (opening closing : String) (depth : Nat) (parts : List String) : String :=
  if parts.isEmpty then opening ++ closing
  else
    opening ++ "\n" ++
      ",\n".intercalate (parts.map fun part => indentation (depth + 1) ++ part) ++
      "\n" ++ indentation depth ++ closing

mutual

/-- A value as text whose first line is already indented to the depth. -/
def render (depth : Nat) : Json → String
  | .number value => toString value
  | .string text => quote text
  | .array items => bracketed "[" "]" depth (renderItems (depth + 1) items)
  | .object members =>
      bracketed "\x7b" "\x7d" depth (renderMembers (depth + 1) members)

/-- The items of an array as texts. -/
def renderItems (depth : Nat) : List Json → List String
  | [] => []
  | item :: rest => render depth item :: renderItems depth rest

/-- The members of an object as texts. -/
def renderMembers (depth : Nat) : List (String × Json) → List String
  | [] => []
  | (key, value) :: rest =>
      (quote key ++ ": " ++ render depth value) :: renderMembers depth rest

end

/-- A document, without a line feed at its end. -/
def pretty (value : Json) : String :=
  render 0 value

end Json

end Bindery
