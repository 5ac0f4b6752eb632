import Bindery.Text.Numeral
import Bindery.Text.Search

/-!
# Quoted text in TOML

Text stands between quotes, where a backslash escapes, or between apostrophes,
where it stands as it is.  Three marks in a row open a text of several lines.

Such a text drops a line end right after its opening, holds line feeds for all
line ends, and may hold one or two of its marks anywhere, also before the
closing ones.
-/

namespace Bindery.Toml

open Bindery.Text

/-- What has been read and what remains. -/
abbrev Reading := List Char × List Char

/-- Put a character in front of what has been read. -/
def prepend (c : Char) (reading : Reading) : Reading :=
  (c :: reading.1, reading.2)

/-- Whether a character may stand in a line: a tab, or no control character. -/
def isPlainChar (c : Char) : Bool :=
  c = '\t' || (0x20 ≤ c.toNat && c.toNat ≠ 0x7f)

/-- The character that a letter after a backslash stands for. -/
def escaped? : Char → Option Char
  | 'b' => some '\x08'
  | 't' => some '\t'
  | 'n' => some '\n'
  | 'f' => some '\x0c'
  | 'r' => some '\r'
  | '"' => some '"'
  | '\\' => some '\\'
  | _ => none

/-- The character with a code point in hexadecimal digits.  Surrogates are no
characters. -/
def codePoint? (digits : List Char) : Option Char := do
  let value ← natural? 16 digits
  if value.isValidChar then some (Char.ofNat value) else none

/-! ## One line -/

/-- Text up to the closing quote. -/
def basic? : List Char → Option Reading
  | [] => none
  | '"' :: rest => some ([], rest)
  | '\\' :: 'u' :: a :: b :: c :: d :: rest => do
      let decoded ← codePoint? [a, b, c, d]
      return prepend decoded (← basic? rest)
  | '\\' :: 'U' :: a :: b :: c :: d :: e :: f :: g :: h :: rest => do
      let decoded ← codePoint? [a, b, c, d, e, f, g, h]
      return prepend decoded (← basic? rest)
  | '\\' :: letter :: rest => do
      let decoded ← escaped? letter
      return prepend decoded (← basic? rest)
  | c :: rest =>
      if isPlainChar c && c != '\\' then (basic? rest).map (prepend c) else none

/-- Text up to the closing apostrophe. -/
def literal? : List Char → Option Reading
  | [] => none
  | '\'' :: rest => some ([], rest)
  | c :: rest => if isPlainChar c then (literal? rest).map (prepend c) else none

/-! ## Several lines -/

/-- The characters after a line end. -/
def afterLineEnd? : List Char → Option (List Char)
  | '\n' :: rest => some rest
  | '\r' :: '\n' :: rest => some rest
  | _ => none

/-- The characters without a line end in front. -/
def withoutLineEnd (chars : List Char) : List Char :=
  (afterLineEnd? chars).getD chars

/-- Whether a character is a space or a tab. -/
def isSpace (c : Char) : Bool :=
  c = ' ' || c = '\t'

/-- Whether only spaces stand before the end of a line. -/
def endsLine (chars : List Char) : Bool :=
  (afterLineEnd? (chars.dropWhile isSpace)).isSome

/-- Text of several lines up to the closing quotes.  After a backslash at the
end of a line all spaces and line ends are skipped. -/
def multilineBasic? (skipping : Bool) : List Char → Option Reading
  | [] => none
  | '"' :: '"' :: '"' :: '"' :: '"' :: rest => some (['"', '"'], rest)
  | '"' :: '"' :: '"' :: '"' :: rest => some (['"'], rest)
  | '"' :: '"' :: '"' :: rest => some ([], rest)
  | '\\' :: 'u' :: a :: b :: c :: d :: rest => do
      let decoded ← codePoint? [a, b, c, d]
      return prepend decoded (← multilineBasic? false rest)
  | '\\' :: 'U' :: a :: b :: c :: d :: e :: f :: g :: h :: rest => do
      let decoded ← codePoint? [a, b, c, d, e, f, g, h]
      return prepend decoded (← multilineBasic? false rest)
  | '\\' :: c :: rest =>
      if endsLine (c :: rest) then multilineBasic? true rest
      else do
        let decoded ← escaped? c
        return prepend decoded (← multilineBasic? false rest)
  | '\r' :: '\n' :: rest =>
      if skipping then multilineBasic? true rest
      else (multilineBasic? false rest).map (prepend '\n')
  | c :: rest =>
      if skipping && (isSpace c || c = '\n') then multilineBasic? true rest
      else if (isPlainChar c || c = '\n') && c != '\\' then
        (multilineBasic? false rest).map (prepend c)
      else none

/-- Text of several lines up to the closing apostrophes. -/
def multilineLiteral? : List Char → Option Reading
  | [] => none
  | '\'' :: '\'' :: '\'' :: '\'' :: '\'' :: rest => some (['\'', '\''], rest)
  | '\'' :: '\'' :: '\'' :: '\'' :: rest => some (['\''], rest)
  | '\'' :: '\'' :: '\'' :: rest => some ([], rest)
  | '\r' :: '\n' :: rest => (multilineLiteral? rest).map (prepend '\n')
  | c :: rest =>
      if isPlainChar c || c = '\n' then (multilineLiteral? rest).map (prepend c) else none

/-! ## All forms -/

/-- A quoted text and the characters after it. -/
def quoted? : List Char → Option (String × List Char)
  | '"' :: '"' :: '"' :: rest =>
      (multilineBasic? false (withoutLineEnd rest)).map fun (text, rest) =>
        (String.ofList text, rest)
  | '\'' :: '\'' :: '\'' :: rest =>
      (multilineLiteral? (withoutLineEnd rest)).map fun (text, rest) =>
        (String.ofList text, rest)
  | '"' :: rest => (basic? rest).map fun (text, rest) => (String.ofList text, rest)
  | '\'' :: rest => (literal? rest).map fun (text, rest) => (String.ofList text, rest)
  | _ => none

/-- A quoted key, which stands on one line, and the characters after it. -/
def quotedKey? : List Char → Option (String × List Char)
  | '"' :: rest => (basic? rest).map fun (text, rest) => (String.ofList text, rest)
  | '\'' :: rest => (literal? rest).map fun (text, rest) => (String.ofList text, rest)
  | _ => none

end Bindery.Toml
