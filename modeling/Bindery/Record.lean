import Bindery.OrderedMap
import Bindery.Tag
import Bindery.Text.Blank
import Bindery.Text.Numeral
import Bindery.Text.Search

/-!
# Records and their lines

One entry of a debug-info dump, before it takes its place in the tree: a header
line and the attribute lines below it.

A dump is read line by line.  A *header* opens an entry:

```
 <1><2d>: Abbrev Number: 5 (DW_TAG_class_type)
```

An *attribute* is indented by two spaces or more and belongs to the header
above it:

```
    <2e>   DW_AT_name        : Sensor
```

A line that only begins like a header still ends the entry before it.  The
pieces of a line are told apart by their first characters, so every pattern is
read from left to right without a second try.

A record is written as its header, its name exactly as it was declared, and one
line for each attribute.  The attribute lines that are written carry no address
of their own.
-/

namespace Bindery

/-- One flat entry of a dump. -/
structure Record where
  /-- The depth at which the entry is nested. -/
  level : UInt32
  /-- The address of the entry, in hexadecimal digits. -/
  address : String
  abbreviation : UInt32
  tag : Tag
  /-- The declared name without the annotation of the dump. -/
  name : Option String := none
  /-- The declared name exactly as it stood in the dump. -/
  fullName : Option String := none
  /-- Every other attribute, by the suffix of its `DW_AT_` word. -/
  attributes : OrderedMap String String := {}
  /-- The index of the header line, counted from zero. -/
  line : Nat
  deriving DecidableEq, Repr

namespace Record

/-! ## Writing -/

/-- The header line of a record. -/
def headerLine (record : Record) : String :=
  " <" ++ toString record.level.toNat ++ "><" ++ record.address ++ ">: Abbrev Number: " ++
    toString record.abbreviation.toNat ++ " (" ++ record.tag.word ++ ")"

/-- The line of an attribute. -/
def attributeLine (key value : String) : String :=
  "    <0>   DW_AT_" ++ key ++ " : " ++ value

/-- The lines of a record. -/
def lines (record : Record) : List String :=
  record.headerLine ::
    ((record.fullName.map (attributeLine "name")).toList ++
      record.attributes.entries.map fun entry => attributeLine entry.1 entry.2)

/-- The dump that holds some records. -/
def written (records : List Record) : String :=
  "\n".intercalate (records.flatMap lines)

open Bindery.Text

/-! ## Headers -/

/-- The level digits that open a header and the characters after `><`. -/
def levelMark? (line : List Char) : Option (List Char × List Char) := do
  let rest ← after? ['<'] (trimStart line)
  let (level, rest) ← run? isDecimal rest
  let rest ← after? ['>', '<'] rest
  return (level, rest)

/-- Whether a line begins like a header, well-formed or not. -/
def isHeader (line : List Char) : Bool :=
  (levelMark? line).isSome

/-- The record that a well-formed header on the line with the index opens.  The
level and the abbreviation number are refused when they do not fit 32 bits. -/
def header? (line : List Char) (index : Nat) : Option Record := do
  let (level, rest) ← levelMark? line
  let (address, rest) ← run? isHexDigit rest
  let rest ← after? ['>', ':'] rest
  let rest ← after? "Abbrev Number:".toList (trimStart rest)
  let (abbreviation, rest) ← run? isDecimal (trimStart rest)
  let (_, rest) ← run? isBlank rest
  let rest ← after? "(DW_TAG_".toList rest
  let (tag, rest) ← run? (fun c => c != ')') rest
  let _ ← after? [')'] rest
  let level ← word32? level
  let abbreviation ← word32? abbreviation
  return {
    level
    address := String.ofList (address.map Char.toLower)
    abbreviation
    tag := Tag.ofName (String.ofList tag)
    line := index
  }

/-- Whether a line is the end mark of a list of siblings, which carries the
abbreviation number zero and no tag. -/
def isTerminator (line : List Char) : Bool :=
  match afterFirst? "Abbrev Number: 0".toList line with
  | none => false
  | some rest =>
      !Text.contains "(DW_TAG_".toList line &&
        !(rest.head?.any Char.isDigit)

/-! ## Attributes -/

/-- Whether a line belongs to the header above it. -/
def isAttribute (line : List Char) : Bool :=
  (after? [' ', ' '] line).isSome &&
    (after? ['<'] (trimStart line)).isSome && !isHeader line

/-- No line is both a header and an attribute. -/
theorem isHeader_eq_false_of_isAttribute {line : List Char}
    (lineIsAttribute : isAttribute line = true) : isHeader line = false := by
  simp only [isAttribute, Bool.and_eq_true, Bool.not_eq_true'] at lineIsAttribute
  exact lineIsAttribute.2

/-- The key and the value of an attribute line. -/
def attribute? (line : List Char) : Option (String × String) := do
  let rest ← after? ['<'] (trimStart line)
  let (_, rest) ← run? isHexDigit rest
  let rest ← after? ['>'] rest
  let rest ← after? "DW_AT_".toList (trimStart rest)
  let (key, rest) ← run? isWordChar rest
  let rest ← after? [':'] (trimStart rest)
  let value := trimStart rest
  if value.contains '\n' then none
  else some (String.ofList key, String.ofList (trimEnd value))

/-- The text after an annotation such as `(indirect string, offset: 0x1d):`. -/
def annotated? (value : List Char) : Option (List Char) := do
  let rest ← after? ['('] value
  let (_, rest) ← run? (fun c => c != ')') rest
  let rest ← after? [')', ':'] rest
  match trim rest with
  | [] => none
  | name => some name

/-- A declared name without its annotation. -/
def plainName (value : String) : String :=
  match annotated? value.toList with
  | some name => String.ofList name
  | none => value

/-- A record with one more attribute.  The key `name` declares the name of the
entry and is not kept among the attributes. -/
def withAttribute (record : Record) (key value : String) : Record :=
  if key = "name" then
    { record with name := some (plainName value), fullName := some value }
  else
    { record with attributes := record.attributes.insert key value }

end Record

end Bindery
