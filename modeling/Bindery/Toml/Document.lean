import Bindery.Toml.Quoted
import Bindery.Toml.Scalar

/-!
# TOML documents

A document is a list of lines: assignments, headers and comments.  Values may
nest, and keys may be dotted, to a depth of less than eighty.

Loops over the parts of a value or over the lines of a document pass at least
one character each time, so the number of characters bounds them.
-/

namespace Bindery.Toml

open Bindery.Text

/-- The depth at which nesting is refused. -/
def nestingLimit : Nat :=
  80

/-! ## Spaces, comments and line ends -/

/-- The characters after spaces and tabs. -/
def skipSpaces (chars : List Char) : List Char :=
  chars.dropWhile isSpace

/-- The characters after a comment, if there is one. -/
def skipComment : List Char → List Char
  | '#' :: rest => rest.dropWhile isPlainChar
  | chars => chars

/-- The characters after spaces, a comment and the end of the line or of the
document. -/
def endLine? (chars : List Char) : Option (List Char) :=
  match skipComment (skipSpaces chars) with
  | [] => some []
  | rest => afterLineEnd? rest

/-- The characters after any spaces, comments and line ends, of which there are
at most `steps`. -/
def skipLines : (steps : Nat) → List Char → List Char
  | 0, chars => chars
  | steps + 1, chars =>
      let rest := skipSpaces chars
      match afterLineEnd? (skipComment rest) with
      | some next => skipLines steps next
      | none => rest

/-! ## Keys -/

/-- Whether a character may stand in a key without quotes. -/
def isBareChar (c : Char) : Bool :=
  c.isAlphanum || c = '_' || c = '-'

/-- One part of a key and the characters after it. -/
def keyPart? (chars : List Char) : Option (String × List Char) :=
  match run? isBareChar chars with
  | some (name, rest) => some (String.ofList name, rest)
  | none => quotedKey? chars

/-- The parts of a key, of which there are at most `steps`, and the characters
after it.  Spaces may stand around each part. -/
def keyParts? : (steps : Nat) → List Char → Option (List String × List Char)
  | 0, _ => none
  | steps + 1, chars => do
      let (part, rest) ← keyPart? (skipSpaces chars)
      match skipSpaces rest with
      | '.' :: rest =>
          let (parts, rest) ← keyParts? steps rest
          return (part :: parts, rest)
      | rest => return ([part], rest)

/-- A key as the tables that it leads through and its last part, with the
characters after it. -/
def key? (chars : List Char) : Option ((List String × String) × List Char) := do
  let (parts, rest) ← keyParts? (nestingLimit - 1) chars
  let last ← parts.getLast?
  return ((parts.dropLast, last), rest)

/-! ## Values -/

/-- A way to read an item from the front of some characters. -/
abbrev Reader := List Char → Option (Item × List Char)

/-- The items of an array, of which there are at most `steps`, up to the closing
bracket. -/
def arrayItems? (item? : Reader) : (steps : Nat) → List Char → Option (List Item × List Char)
  | 0, _ => none
  | steps + 1, chars =>
      match skipLines chars.length chars with
      | ']' :: rest => some ([], rest)
      | start => do
          let (item, rest) ← item? start
          match skipLines rest.length rest with
          | ']' :: rest => return ([item], rest)
          | ',' :: rest =>
              let (items, rest) ← arrayItems? item? steps rest
              return (item :: items, rest)
          | _ => none

/-- An assignment, with the characters after it. -/
def assignment? (item? : Reader) (chars : List Char) :
    Option ((List String × String) × Item × List Char) := do
  let (key, rest) ← key? chars
  let rest ← after? ['='] rest
  let (item, rest) ← item? (skipSpaces rest)
  return (key, item, rest)

/-- Add the assignments of an inline table, of which there are at most `steps`,
up to the closing brace. -/
def inlineEntries? (item? : Reader) (table : Table) :
    (steps : Nat) → List Char → Option (Entries × List Char)
  | 0, _ => none
  | steps + 1, chars => do
      let ((path, key), item, rest) ← assignment? item? chars
      let next ← table.assign path key item
      match skipSpaces rest with
      | '}' :: rest => return (next.entries, rest)
      | ',' :: rest => inlineEntries? item? next steps rest
      | _ => none

/-- The value at the front of some characters, whose brackets nest at most
`depth` deep. -/
def value? : (depth : Nat) → Reader
  | _, '"' :: rest => (quoted? ('"' :: rest)).map fun (text, rest) => (.string text, rest)
  | _, '\'' :: rest => (quoted? ('\'' :: rest)).map fun (text, rest) => (.string text, rest)
  | depth + 1, '[' :: rest =>
      (arrayItems? (value? depth) (rest.length + 1) rest).map fun (items, rest) =>
        (.array items, rest)
  | depth + 1, '{' :: rest =>
      match skipSpaces rest with
      | '}' :: rest => some (.table .inline [], rest)
      | start =>
          (inlineEntries? (value? depth) Table.empty (rest.length + 1) start).map
            fun (entries, rest) => (.table .inline entries, rest)
  | _, chars => scalar? chars

/-! ## Lines -/

/-- A document in hand and the table that assignments go to. -/
structure Progress where
  document : Table := Table.empty
  /-- The path of the last header. -/
  header : List String := []
  deriving Repr

namespace Progress

/-- Give a key an item in the table of the last header. -/
def assign (progress : Progress) (path : List String) (key : String) (item : Item) :
    Option Progress := do
  let document ← Table.within false (Table.assign path key item) progress.header
    progress.document
  return { progress with document }

/-- Read the remaining lines, of which there are at most `steps`. -/
def lines? (progress : Progress) : (steps : Nat) → List Char → Option Table
  | 0, _ => none
  | steps + 1, chars =>
      match skipSpaces chars with
      | [] => some progress.document
      | '[' :: '[' :: rest => do
          let ((parents, key), rest) ← key? rest
          let rest ← endLine? (← after? [']', ']'] rest)
          let document ← progress.document.openElement parents key
          lines? { document, header := parents ++ [key] } steps rest
      | '[' :: rest => do
          let ((parents, key), rest) ← key? rest
          let rest ← endLine? (← after? [']'] rest)
          let document ← progress.document.openTable parents key
          lines? { document, header := parents ++ [key] } steps rest
      | start =>
          match endLine? start with
          | some rest => progress.lines? steps rest
          | none => do
              let ((path, key), item, rest) ← assignment? (value? (nestingLimit - 1)) start
              let next ← progress.assign path key item
              next.lines? steps (← endLine? rest)

end Progress

/-- A document without the byte order mark that may stand in front. -/
def withoutMark : List Char → List Char
  | '\ufeff' :: rest => rest
  | chars => chars

/-- The table of a document. -/
def document? (text : String) : Option Table :=
  let chars := withoutMark text.toList
  Progress.lines? {} (chars.length + 1) chars

end Bindery.Toml
