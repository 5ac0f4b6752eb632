import Bindery.Proofs.AppendedDump
import Bindery.Proofs.HeaderForms
import Bindery.Proofs.OpenPath

/-!
# Entries below the headers before them

Each entry hangs below the entry whose header is the nearest one before its
own that states a smaller level.  Only the headers that can be read count here.
A line that begins like a header and cannot be read to its end leaves no trace
for what follows: the entries that were nested in it hang below whatever stands
before it, if their levels allow it.
-/

namespace Bindery

/-! ## Levels of lines -/

namespace Record

open Bindery.Text

/-- The level that a header states. -/
def headerLevel? (line : List Char) : Option Nat :=
  (header? line 0).map fun record => record.level.toNat

/-- The level of a line that begins like a header, whether or not it is one.
End marks are left out. -/
def markedLevel? (line : List Char) : Option Nat :=
  if isTerminator line then none
  else (levelMark? line).bind fun (level, _) => natural? 10 level

theorem headerLevel?_eq_some_iff {line : List Char} {level : Nat} :
    headerLevel? line = some level ↔ ∃ number : UInt32, HeaderOf line number ∧
      number.toNat = level := by
  simp only [headerLevel?, Option.map_eq_some_iff, headerOf_iff 0]
  exact ⟨fun ⟨record, found, same⟩ => ⟨_, ⟨record, found, rfl⟩, same⟩,
    fun ⟨_, ⟨record, found, stated⟩, same⟩ => ⟨record, found, stated ▸ same⟩⟩

/-- A header states the same level on whatever line it stands. -/
theorem headerLevel?_of_header? {line : List Char} {index : Nat} {record : Record}
    (found : header? line index = some record) :
    headerLevel? line = some record.level.toNat :=
  headerLevel?_eq_some_iff.mpr
    ⟨record.level, (headerOf_iff index).mpr ⟨record, found, rfl⟩, rfl⟩

/-- A header names a tag and so is no end mark. -/
theorem isTerminator_chars (pieces : HeaderPieces) : isTerminator pieces.chars = false := by
  have tagged : Text.contains "(DW_TAG_".toList pieces.chars = true := by
    rw [Text.contains_iff_isInfix]
    refine ⟨pieces.indent ++ ['<'] ++ pieces.level ++ ['>', '<'] ++ pieces.address ++ ['>', ':'] ++
      pieces.gap ++ "Abbrev Number:".toList ++ pieces.space ++ pieces.abbreviation ++
        pieces.separator, pieces.tag ++ ([')'] ++ pieces.rest), ?_⟩
    simp only [HeaderPieces.chars, HeaderPieces.afterLevel, List.append_assoc]
  rw [isTerminator]
  split
  · rfl
  · rw [tagged]
    rfl

theorem markedLevel?_of_headerLevel? {line : List Char} {level : Nat}
    (found : headerLevel? line = some level) : markedLevel? line = some level := by
  obtain ⟨number, ⟨pieces, abbreviation, valid, rfl⟩, rfl⟩ := headerLevel?_eq_some_iff.mp found
  rw [markedLevel?, isTerminator_chars, valid.levelMark?_chars]
  exact natural?_eq_some_iff.mpr ⟨valid.level.nonempty, valid.level.digit, valid.level.value⟩

end Record

/-- The level of the header on a line. -/
def headerLevelAt (lines : List String) (index : Nat) : Option Nat :=
  lines[index]?.bind fun line => Record.headerLevel? line.toList

/-- The level of a line that begins like a header. -/
def markedLevelAt (lines : List String) (index : Nat) : Option Nat :=
  lines[index]?.bind fun line => Record.markedLevel? line.toList

theorem markedLevelAt_of_headerLevelAt {lines : List String} {index level : Nat}
    (found : headerLevelAt lines index = some level) : markedLevelAt lines index = some level := by
  obtain ⟨line, stands, found⟩ := Option.bind_eq_some_iff.mp found
  rw [markedLevelAt, stands]
  exact Record.markedLevel?_of_headerLevel? found

/-- The nearest line above another one whose level is smaller than a given
one. -/
structure NearestAbove (levelAt : Nat → Option Nat) (line level upper : Nat) : Prop where
  before : upper < line
  above : ∃ smaller < level, levelAt upper = some smaller
  between : ∀ other, upper < other → other < line →
    ∀ stated, levelAt other = some stated → level ≤ stated

/-! ## Records and the lines of their headers -/

namespace Record

theorem line_of_header? {line : List Char} {index : Nat} {record : Record}
    (found : header? line index = some record) : record.line = index := by
  obtain ⟨_, _, _, _, _, rfl⟩ := header?_eq_some_iff.mp found
  rfl

theorem headerLevelAt_of_mem_ofDump {dump : String} {record : Record}
    (member : record ∈ (ofDump dump).1) :
    headerLevelAt (Text.lines dump) record.line = some record.level.toNat := by
  have opened := List.mem_map_of_mem (f := bare) member
  rw [map_bare_ofDump, List.mem_filterMap] at opened
  obtain ⟨⟨line, index⟩, stands, found⟩ := opened
  change headerLevelAt (Text.lines dump) record.bare.line = some record.bare.level.toNat
  rw [line_of_header? found, headerLevelAt, List.mk_mem_zipIdx_iff_getElem?.mp stands]
  exact headerLevel?_of_header? found

theorem exists_mem_ofDump_of_headerLevelAt {dump : String} {index level : Nat}
    (found : headerLevelAt (Text.lines dump) index = some level) :
    ∃ record ∈ (ofDump dump).1, record.line = index ∧ record.level.toNat = level := by
  obtain ⟨line, stands, found⟩ := Option.bind_eq_some_iff.mp found
  obtain ⟨number, header, rfl⟩ := headerLevel?_eq_some_iff.mp found
  obtain ⟨opened, isHeader, rfl⟩ := (headerOf_iff index).mp header
  have listed : opened ∈ (ofDump dump).1.map bare := by
    rw [map_bare_ofDump, List.mem_filterMap]
    exact ⟨(line, index), List.mk_mem_zipIdx_iff_getElem?.mpr stands, isHeader⟩
  obtain ⟨record, member, rfl⟩ := List.mem_map.mp listed
  have standsAt : record.bare.line = index := line_of_header? isHeader
  exact ⟨record, member, standsAt, rfl⟩

/-- The headers of records stand one below the other. -/
theorem pairwise_line_ofDump (dump : String) :
    (ofDump dump).1.Pairwise fun first second => first.line < second.line := by
  have numbered : (Text.lines dump).zipIdx.Pairwise fun first second => first.2 < second.2 := by
    rw [← List.pairwise_map (f := Prod.snd), List.zipIdx_map_snd]
    exact List.pairwise_lt_range'
  have heads : ((ofDump dump).1.map bare).Pairwise fun first second =>
      first.line < second.line := by
    rw [map_bare_ofDump, List.pairwise_filterMap]
    refine numbered.imp fun before first firstFound second secondFound => ?_
    rw [line_of_header? firstFound, line_of_header? secondFound]
    exact before
  rwa [List.pairwise_map] at heads

end Record

/-! ## Records and their places -/

namespace TreeBuilder

/-- Every entry is the place of a record among the others. -/
theorem exists_split_of_mem_ids {records : List Record} {id : NodeId}
    (member : id ∈ (SymbolTree.ofRecords records).1.ids) :
    ∃ earlier record later, records = earlier ++ record :: later ∧
      ((pushAll {} earlier).1.push record).2.1 = some id := by
  induction records using List.reverseRecOn with
  | nil => cases member
  | append_singleton earlier record ih =>
      have old : id ∈ (SymbolTree.ofRecords earlier).1.ids →
          ∃ before other after, earlier ++ [record] = before ++ other :: after ∧
            ((pushAll {} before).1.push other).2.1 = some id := by
        intro inEarlier
        obtain ⟨before, other, after, rfl, placed⟩ := ih inEarlier
        exact ⟨before, other, after ++ [record], by simp, placed⟩
      rw [SymbolTree.mem_ids_iff] at member old
      have tree : (SymbolTree.ofRecords (earlier ++ [record])).1 =
          ((pushAll {} earlier).1.push record).1.finish :=
        congrArg finish (pushAll_concat_fst {} earlier record)
      rw [tree] at member
      rcases push_cases (pushAll {} earlier).1 record with
        ⟨parent, opened, result⟩ | ⟨_, result⟩
      · rw [result] at member
        have inside : id < (pushAll {} earlier).1.nodes.size + 1 := by
          rw [← size_attach _ record parent]
          exact member.2
        rcases Nat.lt_succ_iff_lt_or_eq.mp inside with before | rfl
        · exact old ⟨member.1, before⟩
        · exact ⟨earlier, record, [], rfl, by rw [result]⟩
      · rw [result] at member
        exact old member

/-- The record of the nearest offer above a level stands before records that do
not stand above it. -/
theorem exists_split_of_nearestAbove? {records : List Record} {level : Nat} {offer : Offer}
    (found : nearestAbove? level (offers {} records) = some offer) :
    ∃ before between, records = before ++ offer.record :: between ∧
      ((pushAll {} before).1.push offer.record).2.1 = offer.place ∧
      offer.record.level.toNat < level ∧
      ∀ other ∈ between, level ≤ other.level.toNat := by
  induction records using List.reverseRecOn with
  | nil => cases found
  | append_singleton earlier record ih =>
      rw [offers_concat, nearestAbove?_concat] at found
      split at found
      · rename_i above
        cases found
        exact ⟨earlier, [], rfl, rfl, above, nofun⟩
      · rename_i notAbove
        obtain ⟨before, between, rfl, placed, above, deep⟩ := ih found
        refine ⟨before, between ++ [record], by simp, placed, above, fun other member => ?_⟩
        rcases List.mem_append.mp member with inBetween | isLast
        · exact deep other inBetween
        · rw [List.mem_singleton.mp isLast]
          exact Nat.le_of_not_lt notAbove

end TreeBuilder

/-! ## The header above an entry -/

/-- The headers above a record are those of the records before it. -/
theorem nearestAbove_of_split {dump : String} {before between later : List Record}
    {upper record : Record}
    (split : (Record.ofDump dump).1 = before ++ upper :: (between ++ record :: later))
    (above : upper.level.toNat < record.level.toNat)
    (deep : ∀ other ∈ between, record.level.toNat ≤ other.level.toNat) :
    NearestAbove (headerLevelAt (Text.lines dump)) record.line record.level.toNat upper.line := by
  have ordered := Record.pairwise_line_ofDump dump
  have stated : headerLevelAt (Text.lines dump) upper.line = some upper.level.toNat :=
    Record.headerLevelAt_of_mem_ofDump (by rw [split]; simp)
  rw [split, List.pairwise_append, List.pairwise_cons, List.pairwise_append,
    List.pairwise_cons] at ordered
  obtain ⟨_, ⟨belowUpper, _, ⟨belowRecord, _⟩, _⟩, aboveUpper⟩ := ordered
  refine ⟨belowUpper record (by simp), ⟨_, above, stated⟩, fun index after earlier level found => ?_⟩
  obtain ⟨other, member, rfl, rfl⟩ := Record.exists_mem_ofDump_of_headerLevelAt found
  rw [split, List.mem_append, List.mem_cons, List.mem_append, List.mem_cons] at member
  rcases member with inBefore | rfl | inBetween | rfl | inLater
  · exact absurd (aboveUpper other inBefore upper List.mem_cons_self) (Nat.not_lt_of_lt after)
  · exact absurd after (Nat.lt_irrefl _)
  · exact deep other inBetween
  · exact absurd earlier (Nat.lt_irrefl _)
  · exact absurd (belowRecord other inLater) (Nat.not_lt_of_lt earlier)

/-- The nearest header is also the nearest line that begins like one, unless a
header of a smaller level that cannot be read stands in between. -/
theorem nearestAbove_marked_iff {lines : List String} {line level upper : Nat}
    (nearest : NearestAbove (headerLevelAt lines) line level upper) :
    NearestAbove (markedLevelAt lines) line level upper ↔
      ∀ lost, upper < lost → lost < line → headerLevelAt lines lost = none →
        ∀ stated, markedLevelAt lines lost = some stated → level ≤ stated := by
  constructor
  · intro marked lost after earlier _
    exact marked.between lost after earlier
  · intro noneLost
    obtain ⟨smaller, less, stated⟩ := nearest.above
    refine ⟨nearest.before, ⟨smaller, less, markedLevelAt_of_headerLevelAt stated⟩, ?_⟩
    intro other after earlier level found
    cases header : headerLevelAt lines other with
    | none => exact noneLost other after earlier header level found
    | some read =>
        rw [markedLevelAt_of_headerLevelAt header, Option.some.injEq] at found
        exact found ▸ nearest.between other after earlier read header

namespace SymbolTree

/-- An entry with its header among the lines of a dump. -/
structure StandsOn (tree : SymbolTree) (lines : List String) (id : NodeId) (line level : Nat) :
    Prop where
  member : id ∈ tree.ids
  onLine : (tree.node id).line = some line
  header : headerLevelAt lines line = some level
  atLevel : (tree.node id).level = min (level : Int) Node.maxLevel

/-- The parent of an entry, told from the lines of the dump. -/
structure HangsBelow (tree : SymbolTree) (lines : List String) (id : NodeId) (line level : Nat) :
    Prop where
  standsOn : tree.StandsOn lines id line level
  top : level = 0 → (tree.node id).parent = some 0
  /-- The parent has the nearest header above that states a smaller level, and
  that level is smaller by one.  It is the nearest line that begins like such a
  header unless one was lost in between. -/
  nested : 0 < level → ∃ parent upper above, (tree.node id).parent = some parent ∧
    tree.StandsOn lines parent upper above ∧ above + 1 = level ∧
    NearestAbove (headerLevelAt lines) line level upper ∧
    (NearestAbove (markedLevelAt lines) line level upper ↔
      ∀ lost, upper < lost → lost < line → headerLevelAt lines lost = none →
        ∀ stated, markedLevelAt lines lost = some stated → level ≤ stated)

open TreeBuilder in
theorem standsOn_of_placed {dump : String} {earlier later : List Record} {record : Record}
    {id : NodeId} (split : (Record.ofDump dump).1 = earlier ++ record :: later)
    (placed : ((pushAll {} earlier).1.push record).2.1 = some id) :
    (ofRecords (Record.ofDump dump).1).1.resolve.tree.StandsOn (Text.lines dump) id record.line
      record.level.toNat := by
  obtain ⟨parent, node, child, _⟩ := exists_parent_of_placed placed later
  rw [← split] at node child
  have wellFormed := wellFormed_ofRecords (Record.ofDump dump).1
  constructor
  · rw [ids_resolve]
    exact wellFormed.mem_ids_of_mem_children child
  · rw [node_resolve]
    exact Node.eq_of_withoutChildren node Node.line fun _ => rfl
  · exact Record.headerLevelAt_of_mem_ofDump (by rw [split]; simp)
  · rw [node_resolve]
    exact Node.eq_of_withoutChildren node Node.level fun _ => rfl

open TreeBuilder in
/-- Every entry of a dump hangs below the nearest header above it. -/
theorem ofDump_hangsBelow {dump : String} {tree : SymbolTree} {id : NodeId}
    (built : (ofDump dump).1 = .ok tree) (member : id ∈ tree.ids) :
    ∃ line level, tree.HangsBelow (Text.lines dump) id line level := by
  obtain ⟨_, rfl⟩ := (ofDump_eq_ok_iff dump tree).mp built
  rw [ids_resolve] at member
  obtain ⟨earlier, record, later, split, placed⟩ := exists_split_of_mem_ids member
  obtain ⟨parent, node, _, nearest⟩ := exists_parent_of_placed placed later
  rw [← split] at node
  have hangs : ((ofRecords (Record.ofDump dump).1).1.resolve.tree.node id).parent =
      some parent := by
    rw [node_resolve]
    exact Node.eq_of_withoutChildren node Node.parent fun _ => rfl
  refine ⟨record.line, record.level.toNat, standsOn_of_placed split placed, fun top => ?_,
    fun nested => ?_⟩
  · split at nearest
    · omega
    · rw [hangs, nearest.1]
  · split at nearest
    · rename_i offer found
      obtain ⟨before, between, rfl, upperPlaced, above, deep⟩ := exists_split_of_nearestAbove? found
      rw [List.append_assoc, List.cons_append] at split
      have header := nearestAbove_of_split split above deep
      exact ⟨parent, offer.record.line, offer.record.level.toNat, hangs,
        standsOn_of_placed split (upperPlaced.trans nearest.1), nearest.2, header,
        nearestAbove_marked_iff header⟩
    · omega

/-! ## A header that is lost -/

/-- The dump of two classes, where the header of the second cannot be read, and
of a member function of the second. -/
def lostDump : String :=
  " <0><b>: Abbrev Number: 1 (DW_TAG_class_type)\n    <c>   DW_AT_name : Lamp\n" ++
  " <0><10>: Abbrev Number: ?? (DW_TAG_class_type)\n    <11>   DW_AT_name : Motor\n" ++
  " <1><20>: Abbrev Number: 2 (DW_TAG_subprogram)\n    <21>   DW_AT_name : spin\n"

theorem lines_lostDump : Text.lines lostDump =
    [" <0><b>: Abbrev Number: 1 (DW_TAG_class_type)", "    <c>   DW_AT_name : Lamp",
      " <0><10>: Abbrev Number: ?? (DW_TAG_class_type)", "    <11>   DW_AT_name : Motor",
      " <1><20>: Abbrev Number: 2 (DW_TAG_subprogram)", "    <21>   DW_AT_name : spin"] := by
  have joined : lostDump = String.ofList (_ ++ _ ++ _) :=
    (congrArg (· ++ _) String.ofList_append.symm).trans String.ofList_append.symm
  rw [joined, Text.lines, String.toList_ofList]
  rfl

/-- The records of the first class and of the member function. -/
theorem records_lostDump : (Record.ofDump lostDump).1 = [
    { level := 0, address := "b", abbreviation := 1, tag := .classType,
      name := some "Lamp", fullName := some "Lamp", line := 0 },
    { level := 1, address := "20", abbreviation := 2, tag := .subprogram,
      name := some "spin", fullName := some "spin", line := 4 }] := by
  rw [Record.ofDump, lines_lostDump]
  decide +kernel

theorem built_lostDump :
    (ofDump lostDump).1 = .ok (ofRecords (Record.ofDump lostDump).1).1.resolve.tree := by
  rw [ofDump_eq_ok_iff, records_lostDump]
  exact ⟨List.cons_ne_nil _ _, rfl⟩

/-- What the tree says about the two entries. -/
theorem nodes_lostDump {tree : SymbolTree} (built : (ofDump lostDump).1 = .ok tree) :
    tree.ids = [1, 2] ∧ (tree.node 1).line = some 0 ∧ (tree.node 2).parent = some 1 ∧
      (tree.node 2).line = some 4 ∧ (tree.node 2).level = 1 := by
  obtain ⟨_, rfl⟩ := (ofDump_eq_ok_iff lostDump tree).mp built
  simp only [ids_resolve, node_resolve, records_lostDump]
  decide +kernel

theorem ofDump_hangsBelow_lost :
    ∃ tree, (ofDump lostDump).1 = .ok tree ∧ 2 ∈ tree.ids ∧
      ∃ line level, tree.HangsBelow (Text.lines lostDump) 2 line level := by
  have built := built_lostDump
  have member : 2 ∈ (ofRecords (Record.ofDump lostDump).1).1.resolve.tree.ids := by
    rw [(nodes_lostDump built).1]
    decide
  exact ⟨_, built, member, ofDump_hangsBelow built member⟩

/-- Every nested entry hangs below the entry of the nearest line above that
begins like a header of a smaller level. -/
def NestsByMarks (dump : String) : Prop :=
  ∀ tree, (ofDump dump).1 = .ok tree → ∀ id ∈ tree.ids, 1 ≤ (tree.node id).level →
    ∃ parent line upper, ∃ level : Nat, (tree.node id).parent = some parent ∧
      (tree.node id).line = some line ∧ (tree.node parent).line = some upper ∧
      (tree.node id).level = level ∧
      NearestAbove (markedLevelAt (Text.lines dump)) line level upper

/-- The member function of the second class ends up in the first. -/
theorem not_nestsByMarks_lost : ¬ NestsByMarks lostDump := by
  intro nests
  obtain ⟨ids, upperLine, hangsBelow, ownLine, ownLevel⟩ := nodes_lostDump built_lostDump
  obtain ⟨parent, line, upper, level, hangs, onLine, standsOn, atLevel, nearest⟩ :=
    nests _ built_lostDump 2 (by rw [ids]; decide) (Int.le_of_eq ownLevel.symm)
  cases hangsBelow.symm.trans hangs
  cases ownLine.symm.trans onLine
  cases upperLine.symm.trans standsOn
  cases Int.ofNat_inj.mp (ownLevel.symm.trans atLevel)
  -- The header that was lost stands in between.
  have lost : markedLevelAt (Text.lines lostDump) 2 = some 0 := by
    rw [lines_lostDump]
    decide +kernel
  exact absurd (nearest.between 2 (by decide) (by decide) 0 lost) (by decide)

end SymbolTree

end Bindery
