import Bindery.Proofs.AppendedDump
import Bindery.Proofs.LinkTargets
import Bindery.Proofs.NearestHeaders
import Bindery.Proofs.Rebuilding

/-!
# Links that dangle

A raw link that refers to an address without an entry stays raw and is reported
at the header of its own entry.  No two entries share a header, so each of these
warnings belongs to one entry.  Text that refers to no address stays raw as
well, but nothing is said about it.
-/

namespace Bindery

/-! ## Warnings about links -/

/-- Whether a finding warns of a type reference without a target. -/
def Diagnostic.isUnresolved (finding : Diagnostic) : Bool :=
  finding.isWarning &&
    (Text.after? "Unresolved type reference ".toList finding.message.toList).isSome

theorem isUnresolved_danglingWarning (node : Node) (text : String) :
    (SymbolTree.danglingWarning node text).isUnresolved = true := by
  have message : (SymbolTree.danglingWarning node text).message =
      "Unresolved type reference " ++ (text ++ " on <" ++ node.address ++ ">") := by
    rw [SymbolTree.danglingWarning]
    cases node.line <;> simp [Diagnostic.atLine, Diagnostic.warning, String.append_assoc]
  rw [Diagnostic.isUnresolved, Diagnostic.isWarning, SymbolTree.severity_danglingWarning, message,
    String.toList_append, Text.after?_append]
  rfl

/-- What a finding begins with tells it from a warning about a link. -/
theorem isUnresolved_eq_false {finding : Diagnostic} (first : Char) (other : first ≠ 'U')
    (starts : finding.message.toList.head? = some first) : finding.isUnresolved = false := by
  rw [Diagnostic.isUnresolved, Bool.and_eq_false_iff]
  right
  cases chars : finding.message.toList with
  | nil => rfl
  | cons c rest =>
      rw [chars] at starts
      cases starts
      have noLead : Text.after? "Unresolved type reference ".toList (first :: rest) = none :=
        if_neg other
      rw [noLead]
      rfl

namespace Record

/-- No finding about a line is a warning about a link. -/
theorem isUnresolved_of_mem_absorb {record : Record} {index : Nat} {lines : List String}
    {finding : Diagnostic} (member : finding ∈ (Block.absorb record index lines).2) :
    finding.isUnresolved = false := by
  induction lines generalizing record index with
  | nil => cases member
  | cons line rest ih =>
      rw [Block.absorb] at member
      cases pair : attribute? line.toList with
      | some read =>
          rw [pair] at member
          exact ih member
      | none =>
          rw [pair] at member
          rcases List.mem_cons.mp member with rfl | later
          · apply isUnresolved_eq_false 'C' (by decide)
            simp only [Diagnostic.atLine, Diagnostic.warning, String.toList_append]
            rfl
          · exact ih later

theorem isUnresolved_of_mem_record {block : Block} {finding : Diagnostic}
    (member : finding ∈ block.record.2) : finding.isUnresolved = false := by
  rw [Block.record] at member
  split at member
  · exact isUnresolved_of_mem_absorb member
  · split at member
    · cases member
    · rw [List.mem_singleton.mp member]
      apply isUnresolved_eq_false 'C' (by decide)
      simp only [Diagnostic.atLine, Diagnostic.warning, String.toList_append]
      rfl

theorem isUnresolved_of_mem_ofDump {dump : String} {finding : Diagnostic}
    (member : finding ∈ (ofDump dump).2) : finding.isUnresolved = false := by
  obtain ⟨result, inResults, inFindings⟩ := List.mem_flatMap.mp member
  obtain ⟨block, _, rfl⟩ := List.mem_map.mp inResults
  exact isUnresolved_of_mem_record inFindings

end Record

namespace TreeBuilder

/-- No finding about a dropped record is a warning about a link. -/
theorem isUnresolved_of_mem_pushAll {builder : TreeBuilder} {records : List Record}
    {finding : Diagnostic} (member : finding ∈ (builder.pushAll records).2) :
    finding.isUnresolved = false := by
  induction records generalizing builder with
  | nil => cases member
  | cons record rest ih =>
      rw [pushAll] at member
      rcases List.mem_append.mp member with here | later
      · rcases push_cases builder record with ⟨parent, _, result⟩ | ⟨_, result⟩
        · rw [result] at here
          cases here
        · rw [result] at here
          rw [List.mem_singleton.mp here]
          apply isUnresolved_eq_false 'D' (by decide)
          simp only [skippedLevel, Diagnostic.withHelp, Diagnostic.atLine, Diagnostic.warning,
            String.toList_append]
          rfl
      · exact ih later

/-! ## Headers of entries -/

theorem exists_attached_of_mem_ids {records : List Record} {id : NodeId}
    (member : id ∈ (SymbolTree.ofRecords records).1.ids) :
    ∃ index record, id = index + 1 ∧ (attachedOf {} records)[index]? = some record ∧
      ((SymbolTree.ofRecords records).1.node id).line = some record.line := by
  have laid := laid_pushAll records
  obtain ⟨positive, inside⟩ := (SymbolTree.mem_ids_iff _ _).mp member
  obtain ⟨index, rfl⟩ := Nat.exists_eq_add_of_lt positive
  rw [Nat.zero_add] at inside ⊢
  have size : (SymbolTree.ofRecords records).1.nodes.size = (attachedOf {} records).length + 1 :=
    laid.size
  rw [size] at inside
  have small : index < (attachedOf {} records).length := Nat.lt_of_succ_lt_succ inside
  have found := List.getElem?_eq_getElem small
  obtain ⟨parent, same⟩ := laid.node index _ found
  exact ⟨index, _, rfl, found, Node.eq_of_withoutChildren same Node.line fun _ => rfl⟩

/-- Entries with the same header are the same. -/
theorem eq_of_line_eq {dump : String} {first second : NodeId}
    (member : first ∈ (SymbolTree.ofRecords (Record.ofDump dump).1).1.ids)
    (other : second ∈ (SymbolTree.ofRecords (Record.ofDump dump).1).1.ids)
    (same : ((SymbolTree.ofRecords (Record.ofDump dump).1).1.node first).line =
      ((SymbolTree.ofRecords (Record.ofDump dump).1).1.node second).line) : first = second := by
  have ordered := (Record.pairwise_line_ofDump dump).sublist (attachedOf_sublist {} _)
  have distinct : ((attachedOf {} (Record.ofDump dump).1).map Record.line).Nodup :=
    List.pairwise_map.mpr (ordered.imp Nat.ne_of_lt)
  obtain ⟨index, record, rfl, found, line⟩ := exists_attached_of_mem_ids member
  obtain ⟨place, another, rfl, foundOther, lineOther⟩ := exists_attached_of_mem_ids other
  rw [line, lineOther, Option.some.injEq] at same
  have sameLine : ((attachedOf {} (Record.ofDump dump).1).map Record.line)[index]? =
      ((attachedOf {} (Record.ofDump dump).1).map Record.line)[place]? := by
    rw [List.getElem?_map, List.getElem?_map, found, foundOther, Option.map_some, Option.map_some,
      same]
  have inside : index < ((attachedOf {} (Record.ofDump dump).1).map Record.line).length := by
    rw [List.length_map]
    exact (List.getElem?_eq_some_iff.mp found).1
  rw [(List.getElem?_inj inside distinct).mp sameLine]

end TreeBuilder

namespace SymbolTree

open TreeBuilder

variable {tree : SymbolTree}

/-! ## Links that are left over -/

/-- The link of a node refers to an address and is not resolved. -/
def LeftOver (tree : SymbolTree) (id : NodeId) : Prop :=
  ∃ text digits, (tree.node id).link = .raw text ∧ RefersTo text digits

/-- Only an entry has a type reference. -/
theorem WellFormed.mem_ids_of_raw (wellFormed : tree.WellFormed) {id : NodeId} {text : String}
    (link : (tree.node id).link = .raw text) : id ∈ tree.ids := by
  rw [mem_ids_iff]
  refine ⟨Nat.pos_of_ne_zero ?_, List.mem_range.mp (mem_range_of_raw link)⟩
  rintro rfl
  rw [Node.eq_of_withoutChildren wellFormed.root Node.link fun _ => rfl] at link
  cases link

theorem raw_of_settledLink {link : Link} {text : String}
    (kept : tree.settledLink link = .raw text) : link = .raw text := by
  cases link with
  | absent => exact kept
  | target other => exact kept
  | raw other =>
      rw [settledLink] at kept
      cases found : tree.referent? other with
      | none =>
          rw [found] at kept
          exact kept
      | some target =>
          rw [found] at kept
          cases kept

theorem LowerAddresses.node_resolve_of_dangles (lower : tree.LowerAddresses) {id : NodeId}
    (dangles : tree.Dangles id) : tree.resolve.tree.node id = tree.node id := by
  obtain ⟨text, digits, link, refersTo, nowhere⟩ := dangles
  apply node_resolve_of_not_linked
  rw [Bool.eq_false_iff, Ne, lower.isLinked_iff]
  rintro ⟨target, _, _, sameLink, sameRefersTo, last⟩
  cases link.symm.trans sameLink
  cases refersTo.unique sameRefersTo
  exact nowhere target last.stands

/-- The links that dangle are those that are left over. -/
theorem LowerAddresses.leftOver_resolve_iff (lower : tree.LowerAddresses) {id : NodeId} :
    tree.resolve.tree.LeftOver id ↔ tree.Dangles id := by
  constructor
  · rintro ⟨text, digits, kept, refersTo⟩
    rw [node_resolve] at kept
    have link := raw_of_settledLink kept
    refine ⟨text, digits, link, refersTo, ?_⟩
    have noMark := mark_not_mem_of_isHexDigit refersTo.hex
    rw [← lower.find?_eq_none_iff noMark]
    cases found : tree.ids.reverse.find? fun id =>
        (tree.node id).address = addressKey (String.ofList digits) with
    | none => rfl
    | some target =>
        have linked := lower.resolution_eq_linked_iff.mpr
          ⟨text, digits, link, refersTo, (lower.find?_eq_some_iff noMark).mp found⟩
        have made := congrArg Node.link (node_resolve_of_linked linked)
        rw [node_resolve] at made
        cases kept.symm.trans made
  · intro dangles
    have kept := lower.node_resolve_of_dangles dangles
    obtain ⟨text, digits, link, refersTo, _⟩ := dangles
    exact ⟨text, digits, by rw [kept, link], refersTo⟩

/-! ## Reports of whole dumps -/

/-- A finding is about the header line of an entry. -/
def AtHeader (tree : SymbolTree) (finding : Diagnostic) (id : NodeId) : Prop :=
  ∃ line, (tree.node id).line = some line ∧ finding.line = some (line + 1)

/-- A finding is about an entry whose type reference is still raw text. -/
structure BelongsTo (tree : SymbolTree) (finding : Diagnostic) (id : NodeId) : Prop where
  entry : id ∈ tree.ids
  raw : ∃ text, (tree.node id).link = .raw text
  atHeader : tree.AtHeader finding id

/-- The warnings about links are one for each link that is left over, in the order
of the entries. -/
def WarnsOfLeftOvers (tree : SymbolTree) (findings : Diagnostics) : Prop :=
  ∃ left : List NodeId, left.Pairwise (· < ·) ∧
    (∀ id, id ∈ left ↔ id ∈ tree.ids ∧ tree.LeftOver id) ∧
    findings.filter Diagnostic.isUnresolved = left.map fun id =>
      danglingWarning (tree.node id) (Text.trimmed (tree.node id).link.text)

/-- What is reported about the links of a dump. -/
structure ReportsReferences (tree : SymbolTree) (findings : Diagnostics) : Prop where
  warnings : tree.WarnsOfLeftOvers findings
  /-- Raw text has a warning at its header exactly if it refers to an address. -/
  reported : ∀ id ∈ tree.ids, ∀ text, (tree.node id).link = .raw text →
    ((∃ finding ∈ findings, finding.isUnresolved = true ∧ tree.AtHeader finding id) ↔
      ∃ digits, RefersTo text digits)
  belongs : ∀ finding ∈ findings, finding.isUnresolved = true → ∃! id, tree.BelongsTo finding id

/-- Reading and building report other things, and resolving reports nothing else. -/
theorem warnsOfLeftOvers_ofDump {dump : String} {findings : Diagnostics}
    (built : ofDump dump = (.ok tree, findings)) : tree.WarnsOfLeftOvers findings := by
  obtain ⟨_, rfl, rfl⟩ := ofDump_eq_iff.mp built
  have lower := lowerAddresses_ofDump dump
  obtain ⟨dangling, ascending, mem_iff, findings, _⟩ := lower.links_resolve.findings
  refine ⟨dangling, ascending, fun id => ?_, ?_⟩
  · rw [mem_iff, lower.leftOver_resolve_iff, ids_resolve]
    refine ⟨fun dangles => ⟨?_, dangles⟩, And.right⟩
    obtain ⟨text, _, link, _⟩ := dangles
    exact (wellFormed_ofRecords _).mem_ids_of_raw link
  · have read : (Record.ofDump dump).2.filter Diagnostic.isUnresolved = [] :=
      List.filter_eq_nil_iff.mpr fun finding member => by
        rw [Record.isUnresolved_of_mem_ofDump member]
        exact Bool.false_ne_true
    have dropped : (ofRecords (Record.ofDump dump).1).2.filter Diagnostic.isUnresolved = [] :=
      List.filter_eq_nil_iff.mpr fun finding member => by
        rw [isUnresolved_of_mem_pushAll member]
        exact Bool.false_ne_true
    rw [List.filter_append, List.filter_append, read, dropped, List.append_nil, List.nil_append,
      findings, List.filter_eq_self.mpr]
    · apply List.map_congr_left
      intro id member
      rw [lower.node_resolve_of_dangles ((mem_iff id).mp member)]
    · intro finding member
      obtain ⟨id, _, rfl⟩ := List.mem_map.mp member
      exact isUnresolved_danglingWarning _ _

theorem exists_line_ofDump {dump : String} {findings : Diagnostics}
    (built : ofDump dump = (.ok tree, findings)) {id : NodeId} (member : id ∈ tree.ids) :
    ∃ line, (tree.node id).line = some line := by
  obtain ⟨_, rfl, _⟩ := ofDump_eq_iff.mp built
  rw [ids_resolve] at member
  obtain ⟨_, record, _, _, line⟩ := exists_attached_of_mem_ids member
  exact ⟨record.line, by rw [node_resolve]; exact line⟩

theorem eq_of_atHeader {dump : String} {findings : Diagnostics}
    (built : ofDump dump = (.ok tree, findings)) {finding : Diagnostic} {first second : NodeId}
    (member : first ∈ tree.ids) (other : second ∈ tree.ids) (here : tree.AtHeader finding first)
    (there : tree.AtHeader finding second) : first = second := by
  obtain ⟨line, onLine, foundAt⟩ := here
  obtain ⟨otherLine, onOther, foundAtOther⟩ := there
  rw [foundAt, Option.some.injEq, Nat.add_right_cancel_iff] at foundAtOther
  rw [← foundAtOther, ← onLine] at onOther
  obtain ⟨_, rfl, _⟩ := ofDump_eq_iff.mp built
  rw [ids_resolve] at member other
  rw [node_resolve, node_resolve] at onOther
  exact eq_of_line_eq member other onOther.symm

theorem atHeader_danglingWarning {id : NodeId} {line : Nat}
    (onLine : (tree.node id).line = some line) (text : String) :
    tree.AtHeader (danglingWarning (tree.node id) text) id := by
  refine ⟨line, onLine, ?_⟩
  rw [danglingWarning, onLine]
  rfl

/-- A warning about a link stands at the header of an entry whose link is left
over. -/
theorem exists_leftOver_of_isUnresolved {dump : String} {findings : Diagnostics}
    (built : ofDump dump = (.ok tree, findings)) {finding : Diagnostic}
    (found : finding ∈ findings) (unresolved : finding.isUnresolved = true) :
    ∃ id ∈ tree.ids, tree.LeftOver id ∧ tree.AtHeader finding id := by
  obtain ⟨left, _, mem_iff, warnings⟩ := warnsOfLeftOvers_ofDump built
  have listed := List.mem_filter.mpr ⟨found, unresolved⟩
  rw [warnings] at listed
  obtain ⟨id, inLeft, rfl⟩ := List.mem_map.mp listed
  obtain ⟨member, leftOver⟩ := (mem_iff id).mp inLeft
  obtain ⟨line, onLine⟩ := exists_line_ofDump built member
  exact ⟨id, member, leftOver, atHeader_danglingWarning onLine _⟩

/-- A warning about a link stands at the header of an entry exactly if the link
of the entry is left over. -/
theorem exists_atHeader_iff {dump : String} {findings : Diagnostics}
    (built : ofDump dump = (.ok tree, findings)) {id : NodeId} (member : id ∈ tree.ids) :
    (∃ finding ∈ findings, finding.isUnresolved = true ∧ tree.AtHeader finding id) ↔
      tree.LeftOver id := by
  constructor
  · rintro ⟨finding, found, unresolved, atHeader⟩
    obtain ⟨other, otherMember, leftOver, otherHeader⟩ :=
      exists_leftOver_of_isUnresolved built found unresolved
    exact eq_of_atHeader built otherMember member otherHeader atHeader ▸ leftOver
  · intro leftOver
    obtain ⟨left, _, mem_iff, warnings⟩ := warnsOfLeftOvers_ofDump built
    obtain ⟨line, onLine⟩ := exists_line_ofDump built member
    have listed := List.mem_map_of_mem
      (f := fun id => danglingWarning (tree.node id) (Text.trimmed (tree.node id).link.text))
      ((mem_iff id).mpr ⟨member, leftOver⟩)
    rw [← warnings] at listed
    obtain ⟨found, unresolved⟩ := List.mem_filter.mp listed
    exact ⟨_, found, unresolved, atHeader_danglingWarning onLine _⟩

/-- The warnings about the links of a dump are those about the links that refer
to an address and are left over. -/
theorem ofDump_reportsReferences {dump : String} {findings : Diagnostics}
    (built : ofDump dump = (.ok tree, findings)) : tree.ReportsReferences findings where
  warnings := warnsOfLeftOvers_ofDump built
  reported := by
    intro id member text link
    rw [exists_atHeader_iff built member]
    constructor
    · rintro ⟨_, digits, sameLink, refersTo⟩
      cases link.symm.trans sameLink
      exact ⟨digits, refersTo⟩
    · rintro ⟨digits, refersTo⟩
      exact ⟨text, digits, link, refersTo⟩
  belongs := by
    intro finding found unresolved
    obtain ⟨id, member, ⟨text, _, link, _⟩, atHeader⟩ :=
      exists_leftOver_of_isUnresolved built found unresolved
    exact ⟨id, ⟨member, ⟨text, link⟩, atHeader⟩, fun other belongs =>
      eq_of_atHeader built belongs.entry member belongs.atHeader atHeader⟩

/-! ## A link that is passed over -/

/-- The dump of two pointers.  The first refers to an address without an entry,
the second to the address of an entry in another file. -/
def alternateDump : String :=
  " <0><10>: Abbrev Number: 1 (DW_TAG_pointer_type)\n    <11>   DW_AT_type : <0x99>\n" ++
  " <0><20>: Abbrev Number: 1 (DW_TAG_pointer_type)\n    <21>   DW_AT_type : <alt 0x99>\n"

theorem lines_alternateDump : Text.lines alternateDump =
    [" <0><10>: Abbrev Number: 1 (DW_TAG_pointer_type)", "    <11>   DW_AT_type : <0x99>",
      " <0><20>: Abbrev Number: 1 (DW_TAG_pointer_type)", "    <21>   DW_AT_type : <alt 0x99>"] := by
  have joined : alternateDump = String.ofList (_ ++ _) := String.ofList_append.symm
  rw [joined, Text.lines, String.toList_ofList]
  rfl

theorem records_alternateDump : (Record.ofDump alternateDump).1 = [
    { level := 0, address := "10", abbreviation := 1, tag := .pointerType,
      attributes := ⟨[("type", "<0x99>")]⟩, line := 0 },
    { level := 0, address := "20", abbreviation := 1, tag := .pointerType,
      attributes := ⟨[("type", "<alt 0x99>")]⟩, line := 2 }] := by
  rw [Record.ofDump, lines_alternateDump]
  decide +kernel

theorem built_alternateDump : ∃ tree findings, ofDump alternateDump = (.ok tree, findings) ∧
    tree.ids = [1, 2] ∧ (tree.node 1).link = .raw "<0x99>" ∧
      (tree.node 2).link = .raw "<alt 0x99>" := by
  have nonempty : (Record.ofDump alternateDump).1 ≠ [] := by
    rw [records_alternateDump]
    exact List.cons_ne_nil _ _
  refine ⟨_, _, ofDump_eq_iff.mpr ⟨nonempty, rfl, rfl⟩, ?_⟩
  simp only [ids_resolve, node_resolve, records_alternateDump]
  decide +kernel

theorem ofDump_reportsReferences_alternate :
    ∃ tree findings, ofDump alternateDump = (.ok tree, findings) ∧ tree.ids = [1, 2] ∧
      tree.ReportsReferences findings := by
  obtain ⟨tree, findings, built, ids, _⟩ := built_alternateDump
  exact ⟨tree, findings, built, ids, ofDump_reportsReferences built⟩

/-- Every entry whose type reference is still raw text has a warning at its
header, and every such warning belongs to exactly one of these entries. -/
def ReportsRawLinks (dump : String) : Prop :=
  ∀ tree findings, ofDump dump = (.ok tree, findings) →
    (∀ id ∈ tree.ids, ∀ text, (tree.node id).link = .raw text →
      ∃ finding ∈ findings, finding.isUnresolved = true ∧ tree.AtHeader finding id) ∧
    ∀ finding ∈ findings, finding.isUnresolved = true → ∃! id, tree.BelongsTo finding id

/-- Nothing is said about the second pointer. -/
theorem not_reportsRawLinks_alternate : ¬ ReportsRawLinks alternateDump := by
  intro reports
  obtain ⟨tree, findings, built, ids, _, link⟩ := built_alternateDump
  have member : 2 ∈ tree.ids := by
    rw [ids]
    decide
  have warned := (reports tree findings built).1 2 member _ link
  obtain ⟨_, digits, sameLink, refersTo⟩ := (exists_atHeader_iff built member).mp warned
  cases link.symm.trans sameLink
  have noReference : reference? "<alt 0x99>".toList = none := by decide
  rw [reference?_eq_some_iff.mpr refersTo] at noReference
  cases noReference

end SymbolTree

end Bindery
