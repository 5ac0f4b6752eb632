import Mathlib.Data.List.Nodup
import Bindery.Proofs.Block
import Bindery.Proofs.OrderedMap

/-!
# Reading a dump in one pass

A scanner that looks at each line once and holds at most one open record.  A
header closes the open record and may open another one, an attribute line goes
to the open record, and any other line closes it.  Gathering the lines of each
record first, as the reader of a dump does, yields the same records and the same
findings in the same order.
-/

namespace Bindery.Record

/-- A record with one more attribute.  A key that is there already keeps its
place and takes the new value. -/
def assign (record : Record) (key value : String) : Record :=
  if key = "name" then
    { record with name := some (plainName value), fullName := some value }
  else if key ∈ record.attributes.keys then
    { record with attributes := ⟨record.attributes.entries.map fun entry =>
        if entry.1 = key then (key, value) else entry⟩ }
  else
    { record with attributes := ⟨record.attributes.entries ++ [(key, value)]⟩ }

/-- What a scan holds between two lines. -/
structure Scan where
  /-- The records that are complete. -/
  closed : List Record := []
  opened : Option Record := none
  findings : Diagnostics := []
  deriving DecidableEq, Repr

namespace Scan

/-- Complete the open record. -/
def close (scan : Scan) : Scan :=
  { scan with closed := scan.closed ++ scan.opened.toList, opened := none }

/-- Warn about a line. -/
def warn (scan : Scan) (message : String) (index : Nat) : Scan :=
  { scan with findings := scan.findings ++ [(Diagnostic.warning message).atLine index] }

/-- Read the line with an index. -/
def read (scan : Scan) (index : Nat) (line : String) : Scan :=
  if isHeader line.toList then
    match header? line.toList index with
    | some record => { scan.close with opened := some record }
    | none =>
        if isTerminator line.toList then scan.close
        else scan.close.warn ("Cannot parse record header: " ++ Text.trimmed line) index
  else if isAttribute line.toList then
    match scan.opened with
    | none => scan
    | some record =>
        match attribute? line.toList with
        | some (key, value) => { scan with opened := some (record.assign key value) }
        | none => scan.warn ("Cannot parse attribute: " ++ Text.trimmed line) index
  else scan.close

/-- Read lines of which the first has an index. -/
def readAll (scan : Scan) (index : Nat) : List String → Scan
  | [] => scan
  | line :: rest => (scan.read index line).readAll (index + 1) rest

end Scan

/-- The records of a dump and the findings, read in one pass. -/
def scanned (dump : String) : List Record × Diagnostics :=
  let scan := (Scan.readAll {} 0 (Text.lines dump)).close
  (scan.closed, scan.findings)

/-! ## Attributes keep their places -/

/-- Placing a value changes the one entry of its key or adds an entry. -/
theorem place_eq_of_nodup {key value : String} {entries : List (String × String)}
    (distinct : (entries.map Prod.fst).Nodup) :
    OrderedMap.place key value entries =
      if key ∈ entries.map Prod.fst then
        entries.map fun entry => if entry.1 = key then (key, value) else entry
      else entries ++ [(key, value)] := by
  induction entries with
  | nil => rfl
  | cons entry rest ih =>
      rw [List.map_cons, List.nodup_cons] at distinct
      by_cases same : entry.1 = key
      · have others : ∀ other ∈ rest, other.1 ≠ key := by
          intro other member equal
          exact distinct.1 (List.mem_map.mpr ⟨other, member, equal.trans same.symm⟩)
        have unchanged : (rest.map fun entry => if entry.1 = key then (key, value) else entry) =
            rest :=
          (List.map_congr_left fun other member => if_neg (others other member)).trans
            (List.map_id' rest)
        simp [OrderedMap.place, same, unchanged]
      · rw [OrderedMap.place, if_neg same, ih distinct.2]
        by_cases member : key ∈ rest.map Prod.fst
        · rw [if_pos member, List.map_cons, if_pos (List.mem_cons_of_mem _ member), List.map_cons,
            if_neg same]
        · rw [if_neg member, List.map_cons,
            if_neg (List.not_mem_cons_of_ne_of_not_mem (Ne.symm same) member)]
          rfl

theorem assign_eq_withAttribute {record : Record} (distinct : record.attributes.keys.Nodup)
    (key value : String) : record.assign key value = record.withAttribute key value := by
  unfold assign withAttribute OrderedMap.insert
  rw [place_eq_of_nodup distinct]
  split
  · rfl
  · show (if key ∈ record.attributes.entries.map Prod.fst then _ else _) = _
    split <;> rfl

theorem nodup_keys_withAttribute {record : Record} (distinct : record.attributes.keys.Nodup)
    (key value : String) : (record.withAttribute key value).attributes.keys.Nodup := by
  unfold withAttribute
  split
  · exact distinct
  · exact OrderedMap.nodup_keys_insert distinct key value

/-- A header opens a record without attributes. -/
theorem attributes_of_header? {line : List Char} {index : Nat} {record : Record}
    (found : header? line index = some record) : record.attributes = {} := by
  rw [header?_eq_map, Option.map_eq_some_iff] at found
  rcases found with ⟨first, _, same⟩
  rw [← same]

/-! ## One pass and the blocks -/

namespace Scan

/-- The attributes of the open record have different keys. -/
def Distinct (scan : Scan) : Prop :=
  ∀ record ∈ scan.opened, record.attributes.keys.Nodup

/-- The record that is open before lines and the findings about it. -/
def pending (opened : Option Record) (index : Nat) (lines : List String) :
    List Record × Diagnostics :=
  match opened with
  | none => ([], [])
  | some record =>
      let (record, findings) :=
        Block.absorb record index (lines.takeWhile fun line => isAttribute line.toList)
      ([record], findings)

/-- What a scan comes to when the lines ahead are read block by block. -/
def ahead (scan : Scan) (index : Nat) (lines : List String) : Scan :=
  let results := (Block.blocksFrom index lines).map Block.record
  { closed := scan.closed ++ (pending scan.opened index lines).1 ++ results.filterMap Prod.fst
    findings :=
      scan.findings ++ (pending scan.opened index lines).2 ++ results.flatMap Prod.snd }

/-- A line that is no attribute ends the open record. -/
theorem pending_of_not_attribute (opened : Option Record) (index : Nat) {line : String}
    (rest : List String) (other : isAttribute line.toList = false) :
    pending opened index (line :: rest) = (opened.toList, []) := by
  cases opened with
  | none => rfl
  | some record => simp [pending, other, Block.absorb]

/-- Reading one line leaves what the scan comes to. -/
theorem ahead_read (scan : Scan) (index : Nat) (line : String) (rest : List String)
    (distinct : scan.Distinct) :
    (scan.read index line).ahead (index + 1) rest = scan.ahead index (line :: rest) := by
  cases header : isHeader line.toList with
  | true =>
      have other : isAttribute line.toList = false := by
        cases inside : isAttribute line.toList with
        | false => rfl
        | true => exact absurd header (by simp [isHeader_eq_false_of_isAttribute inside])
      unfold ahead
      rw [pending_of_not_attribute scan.opened index rest other, read, if_pos header,
        Block.blocksFrom, if_pos header]
      cases opens : header? line.toList index with
      | some record => simp [close, pending, Block.record, opens]
      | none =>
          cases terminator : isTerminator line.toList <;>
            simp [close, warn, pending, Block.record, opens, terminator]
  | false =>
      unfold ahead
      rw [read, Block.blocksFrom, header]
      cases inside : isAttribute line.toList with
      | false =>
          rw [pending_of_not_attribute scan.opened index rest inside]
          simp [close, pending]
      | true =>
          cases current : scan.opened with
          | none => simp [pending, current]
          | some record =>
              cases pair : attribute? line.toList with
              | none => simp [pending, warn, inside, current, Block.absorb, pair]
              | some read =>
                  simp [pending, inside, Block.absorb, pair,
                    assign_eq_withAttribute (distinct record current)]

theorem distinct_read {scan : Scan} (index : Nat) (line : String) (distinct : scan.Distinct) :
    (scan.read index line).Distinct := by
  cases header : isHeader line.toList with
  | true =>
      rw [read, if_pos header]
      cases opens : header? line.toList index with
      | some record =>
          rintro _ ⟨rfl⟩
          rw [attributes_of_header? opens]
          exact List.nodup_nil
      | none =>
          dsimp only
          split
          · rintro _ ⟨⟩
          · rintro _ ⟨⟩
  | false =>
      rw [read, header]
      cases inside : isAttribute line.toList with
      | false => rintro _ ⟨⟩
      | true =>
          cases current : scan.opened with
          | none => simp [Distinct, current]
          | some record =>
              cases pair : attribute? line.toList with
              | none => simpa [Distinct, warn] using distinct
              | some read =>
                  rintro _ ⟨rfl⟩
                  have before := distinct record current
                  rw [assign_eq_withAttribute before]
                  exact nodup_keys_withAttribute before read.1 read.2

/-- By induction on the lines, with any record open before them. -/
theorem close_readAll (scan : Scan) (index : Nat) (lines : List String)
    (distinct : scan.Distinct) :
    (scan.readAll index lines).close = scan.ahead index lines := by
  induction lines generalizing scan index with
  | nil =>
      cases current : scan.opened with
      | none => simp [readAll, close, ahead, pending, Block.blocksFrom, current]
      | some record =>
          simp [readAll, close, ahead, pending, Block.blocksFrom, Block.absorb, current]
  | cons line rest ih =>
      rw [readAll, ih _ _ (distinct_read index line distinct)]
      exact ahead_read scan index line rest distinct

end Scan

/-- One pass over the lines of a dump gives the records and the findings that
its blocks give. -/
theorem ofDump_eq_scanned (dump : String) : ofDump dump = scanned dump := by
  unfold scanned
  rw [Scan.close_readAll {} 0 (Text.lines dump) (by intro record opened; cases opened)]
  rfl

end Bindery.Record
