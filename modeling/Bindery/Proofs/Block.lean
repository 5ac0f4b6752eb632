import Bindery.Record.Block

/-!
# Blocks at other lines

The index of a line is only carried along: lines that stand further down give
the same records, at lines further down.  Lines that go on with a line that is
no attribute are read as if they stood alone.

The blocks may also be found by going from each block to the first line after
it.  No header is passed over on the way.
-/

namespace Bindery.Record

/-! ## Records further down -/

/-- A record that stands some lines further down. -/
def moved (record : Record) (lines : Nat) : Record :=
  { record with line := record.line + lines }

/-- A header says nothing of the line on which it stands and opens a record
without attributes. -/
theorem header?_eq_map (line : List Char) (index : Nat) :
    header? line index = (header? line 0).map fun record =>
      { level := record.level
        address := record.address
        abbreviation := record.abbreviation
        tag := record.tag
        line := index } := by
  unfold header?
  simp only [Option.bind_eq_bind, Option.map_bind, Function.comp_def]
  rfl

theorem header?_add (line : List Char) (index lines : Nat) :
    header? line (index + lines) = (header? line index).map (moved · lines) := by
  rw [header?_eq_map line (index + lines), header?_eq_map line index, Option.map_map]
  rfl

theorem withAttribute_moved (record : Record) (lines : Nat) (key value : String) :
    (record.moved lines).withAttribute key value =
      (record.withAttribute key value).moved lines := by
  unfold withAttribute
  split <;> rfl

namespace Block

/-- A block that stands some lines further down. -/
def moved (block : Block) (lines : Nat) : Block :=
  { block with index := block.index + lines }

theorem absorb_moved (record : Record) (index lines : Nat) (attributes : List String) :
    (absorb (record.moved lines) (index + lines) attributes).1 =
      (absorb record index attributes).1.moved lines := by
  induction attributes generalizing record index with
  | nil => rfl
  | cons line rest ih =>
      have next : index + lines + 1 = index + 1 + lines := Nat.add_right_comm ..
      simp only [absorb, next]
      cases attribute? line.toList with
      | none => exact ih record (index + 1)
      | some pair =>
          rcases pair with ⟨key, value⟩
          simp only [withAttribute_moved]
          exact ih (record.withAttribute key value) (index + 1)

theorem record_moved (block : Block) (lines : Nat) :
    (block.moved lines).record.1 = block.record.1.map (Record.moved · lines) := by
  have next : block.index + lines + 1 = block.index + 1 + lines := Nat.add_right_comm ..
  simp only [record, moved, header?_add, next]
  cases header? block.header.toList block.index with
  | none => by_cases terminator : isTerminator block.header.toList <;> simp [terminator]
  | some opened => exact congrArg some (absorb_moved opened (block.index + 1) lines _)

theorem blocksFrom_add (index count : Nat) (lines : List String) :
    blocksFrom (index + count) lines = (blocksFrom index lines).map (moved · count) := by
  induction lines generalizing index with
  | nil => rfl
  | cons line rest ih =>
      have next : index + count + 1 = index + 1 + count := Nat.add_right_comm ..
      simp only [blocksFrom, next, ih]
      split <;> rfl

/-! ## Lines that go on -/

theorem takeWhile_append_of_head? {α : Type} {holds : α → Bool} (first : List α)
    {second : List α} (stops : ∀ item ∈ second.head?, holds item = false) :
    (first ++ second).takeWhile holds = first.takeWhile holds := by
  induction first with
  | nil =>
      cases second with
      | nil => rfl
      | cons item rest => simp [stops item rfl]
  | cons item rest ih =>
      by_cases holdsItem : holds item = true <;> simp [holdsItem, ih]

/-- The blocks of lines that go on with a line that is no attribute. -/
theorem blocksFrom_append (index : Nat) (first : List String) {second : List String}
    (stops : ∀ line ∈ second.head?, isAttribute line.toList = false) :
    blocksFrom index (first ++ second) =
      blocksFrom index first ++ blocksFrom (index + first.length) second := by
  induction first generalizing index with
  | nil => rfl
  | cons line rest ih =>
      have next : index + (rest.length + 1) = index + 1 + rest.length := by omega
      simp only [List.cons_append, blocksFrom, List.length_cons, next, ih]
      split
      · rw [takeWhile_append_of_head? rest stops]
        rfl
      · rfl

/-! ## From block to block -/

/-- The blocks met on the way from the line with an index, where the way leads
from each block to the first line after it. -/
def stepped (lines : List String) (index : Nat) : List Block :=
  if inside : index < lines.length then
    if isHeader lines[index].toList then
      match at? lines index with
      | none => []
      | some block =>
          block :: stepped lines (index + 1 + block.attributes.length)
    else stepped lines (index + 1)
  else []
termination_by lines.length - index

/-- The attribute lines at the front open no block. -/
theorem blocksFrom_drop_attributes (index : Nat) (lines : List String) :
    blocksFrom index lines =
      blocksFrom (index + (lines.takeWhile fun line => isAttribute line.toList).length)
        (lines.drop (lines.takeWhile fun line => isAttribute line.toList).length) := by
  induction lines generalizing index with
  | nil => rfl
  | cons line rest ih =>
      cases inside : isAttribute line.toList with
      | false => simp [inside]
      | true =>
          have noHeader : isHeader line.toList = false := isHeader_eq_false_of_isAttribute inside
          simp only [inside, List.takeWhile_cons_of_pos, List.length_cons, List.drop_succ_cons]
          rw [← Nat.add_assoc, Nat.add_right_comm, ← ih (index + 1), blocksFrom, noHeader]
          rfl

/-- Going from block to block meets every block. -/
theorem stepped_eq_blocksFrom (lines : List String) (index : Nat) :
    stepped lines index = blocksFrom index (lines.drop index) := by
  induction index using stepped.induct lines with
  | case1 index inside header absent =>
      rw [at?, List.drop_eq_getElem_cons inside] at absent
      contradiction
  | case2 index inside header block found ih =>
      rw [stepped, dif_pos inside, if_pos header, found, List.drop_eq_getElem_cons inside,
        blocksFrom, if_pos header, blocksFrom_drop_attributes (index + 1), List.drop_drop]
      rw [at?, List.drop_eq_getElem_cons inside, Option.some.injEq] at found
      subst found
      exact congrArg _ ih
  | case3 index inside other ih =>
      rw [stepped, dif_pos inside, if_neg other, List.drop_eq_getElem_cons inside, blocksFrom,
        if_neg other]
      exact ih
  | case4 index outside =>
      rw [stepped, dif_neg outside, List.drop_eq_nil_of_le (Nat.le_of_not_lt outside)]
      rfl

end Block

end Bindery.Record
