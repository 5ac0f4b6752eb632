import Bindery.Diagnostic
import Bindery.Record
import Bindery.Text.Search

/-!
# Blocks of lines

A block is a header and the attribute lines that follow it without a gap.  The
lines between blocks are banners and are passed over in silence, and so is
every attribute line that no header stands above.

A block with a malformed header yields no record, and its attribute lines go
with it.
-/

namespace Bindery.Record

/-- A header line with the attribute lines below it. -/
structure Block where
  /-- The index of the header line, counted from zero. -/
  index : Nat
  header : String
  attributes : List String
  deriving DecidableEq, Repr

namespace Block

/-- The block that begins at the line with an index, whatever that line is. -/
def at? (lines : List String) (index : Nat) : Option Block :=
  match lines.drop index with
  | [] => none
  | header :: rest =>
      some {
        index
        header
        attributes := rest.takeWhile fun line => isAttribute line.toList
      }

/-- The index of the first line after a block. -/
def next (block : Block) : Nat :=
  block.index + 1 + block.attributes.length

/-- The blocks among lines whose first has the given index.  An attribute line
is never a header, so the lines of a block open no further block. -/
def blocksFrom (index : Nat) : List String → List Block
  | [] => []
  | line :: rest =>
      if isHeader line.toList then
        { index
          header := line
          attributes := rest.takeWhile fun line => isAttribute line.toList } ::
            blocksFrom (index + 1) rest
      else blocksFrom (index + 1) rest

/-! ## Reading a block -/

/-- Add attribute lines, whose first has the given index, to a record.  A line
that cannot be read is reported and left out. -/
def absorb (record : Record) (index : Nat) : List String → Record × Diagnostics
  | [] => (record, [])
  | line :: rest =>
      match attribute? line.toList with
      | some (key, value) => absorb (record.withAttribute key value) (index + 1) rest
      | none =>
          let finding :=
            (Diagnostic.warning ("Cannot parse attribute: " ++ Text.trimmed line)).atLine index
          let (record, findings) := absorb record (index + 1) rest
          (record, finding :: findings)

/-- The record of a block, unless its header is malformed.  A malformed header
is reported unless it is an end mark. -/
def record (block : Block) : Option Record × Diagnostics :=
  match header? block.header.toList block.index with
  | some record =>
      let (record, findings) := absorb record (block.index + 1) block.attributes
      (some record, findings)
  | none =>
      if isTerminator block.header.toList then (none, [])
      else
        (none, [(Diagnostic.warning
          ("Cannot parse record header: " ++ Text.trimmed block.header)).atLine block.index])

end Block

/-- The records of a dump in document order, with what was found on the way. -/
def ofDump (dump : String) : List Record × Diagnostics :=
  let results := (Block.blocksFrom 0 (Text.lines dump)).map Block.record
  (results.filterMap Prod.fst, results.flatMap Prod.snd)

end Bindery.Record
