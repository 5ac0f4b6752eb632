import Bindery.Proofs.ReadRecords
import Bindery.Proofs.Resolution

/-!
# Where links lead

A raw link that refers to an address leads to the last entry at that address,
wherever in the dump it stands and in whichever case its digits are written.
Nothing else in a tree changes when its links are resolved, and resolving them
once more changes nothing at all.
-/

namespace Bindery

/-- The text of a link that is not resolved. -/
def Link.text : Link → String
  | .raw text => text
  | _ => ""

namespace SymbolTree

open Bindery.Text

/-! ## References -/

/-- A text refers to the address with some hexadecimal digits: blanks aside, it
begins with `<0x`, the digits and `>`. -/
structure RefersTo (text : String) (digits : List Char) : Prop where
  nonempty : digits ≠ []
  hex : ∀ c ∈ digits, isHexDigit c = true
  form : ∃ rest, trim text.toList = ['<', '0', 'x'] ++ (digits ++ '>' :: rest)

theorem reference?_eq_some_iff {text : String} {digits : List Char} :
    reference? text.toList = some digits ↔ RefersTo text digits := by
  simp only [reference?, Option.bind_eq_bind, Option.bind_eq_some_iff, Option.pure_def,
    Option.some.injEq, Prod.exists, after?_eq_some_iff, run?_eq_some_iff]
  constructor
  · rintro ⟨_, form, digits, _, ⟨rfl, nonempty, hex, _⟩, rest, rfl, rfl⟩
    exact ⟨nonempty, hex, rest, form⟩
  · rintro ⟨nonempty, hex, rest, form⟩
    refine ⟨_, form, digits, '>' :: rest, ⟨rfl, nonempty, hex, ?_⟩, rest, rfl, rfl⟩
    rintro c ⟨⟩
    decide

theorem RefersTo.unique {text : String} {digits others : List Char}
    (refers : RefersTo text digits) (other : RefersTo text others) : others = digits :=
  Option.some.inj
    ((reference?_eq_some_iff.mpr other).symm.trans (reference?_eq_some_iff.mpr refers))

/-! ## Addresses -/

/-- The entry at a place stands at the address with some digits, whichever case
these are written in. -/
structure StandsAt (tree : SymbolTree) (digits : List Char) (id : NodeId) : Prop where
  entry : id ∈ tree.ids
  same : (tree.node id).address.toList.map Char.toLower = digits.map Char.toLower

/-- No entry after this one stands at the address. -/
structure LastAt (tree : SymbolTree) (digits : List Char) (target : NodeId) : Prop where
  stands : tree.StandsAt digits target
  greatest : ∀ other, tree.StandsAt digits other → other ≤ target

/-- Addresses are written in hexadecimal digits without capital letters. -/
def LowerAddresses (tree : SymbolTree) : Prop :=
  ∀ id ∈ tree.ids, ∀ c ∈ (tree.node id).address.toList, isLowerHexDigit c = true

theorem withoutHexMark_eq_self {digits : List Char} (noMark : 'x' ∉ digits) :
    withoutHexMark digits = digits := by
  unfold withoutHexMark
  split
  · exact absurd (List.mem_cons_of_mem _ List.mem_cons_self) noMark
  · rfl

theorem addressKey_eq {address : String} (noMark : 'x' ∉ address.toList) :
    addressKey address = String.ofList (address.toList.map Char.toLower) := by
  rw [addressKey, withoutHexMark_eq_self noMark]

theorem addressKey_marked (address : String) : addressKey ("0x" ++ address) = addressKey address := by
  rw [addressKey, addressKey, String.toList_append]
  rfl

theorem map_toLower_of_isLowerHexDigit {digits : List Char}
    (lower : ∀ c ∈ digits, isLowerHexDigit c = true) : digits.map Char.toLower = digits := by
  rw [List.map_congr_left fun c member => toLower_of_isLowerHexDigit (lower c member), List.map_id']

theorem mark_not_mem_of_isHexDigit {digits : List Char}
    (hex : ∀ c ∈ digits, isHexDigit c = true) : 'x' ∉ digits :=
  fun member => absurd (hex _ member) (by decide)

/-- An entry is found by the key of its address. -/
theorem LowerAddresses.address_eq_iff {tree : SymbolTree} (lower : tree.LowerAddresses)
    {id : NodeId} (entry : id ∈ tree.ids) {digits : List Char} (noMark : 'x' ∉ digits) :
    (tree.node id).address = addressKey (String.ofList digits) ↔ tree.StandsAt digits id := by
  have mark : 'x' ∉ (String.ofList digits).toList := by
    rwa [String.toList_ofList]
  have lowered := map_toLower_of_isLowerHexDigit (lower id entry)
  rw [addressKey_eq mark, String.toList_ofList]
  constructor
  · intro same
    refine ⟨entry, ?_⟩
    rw [lowered, same, String.toList_ofList]
  · intro stands
    rw [← stands.same, lowered, String.ofList_toList]

theorem find?_reverse_ids_eq_some_iff {tree : SymbolTree} {test : NodeId → Bool}
    {target : NodeId} :
    tree.ids.reverse.find? test = some target ↔
      (target ∈ tree.ids ∧ test target = true) ∧
        ∀ other ∈ tree.ids, test other = true → other ≤ target := by
  have ascending : tree.ids.Pairwise (· < ·) := List.pairwise_lt_range'
  rw [List.find?_eq_some_iff_append]
  constructor
  · rintro ⟨holds, after, before, split, fails⟩
    have order : tree.ids = before.reverse ++ target :: after.reverse := by
      rw [← List.reverse_reverse tree.ids, split]
      simp
    rw [order, List.pairwise_append, List.pairwise_cons] at ascending
    refine ⟨⟨?_, holds⟩, fun other member passes => ?_⟩
    · rw [order]
      exact List.mem_append_right _ List.mem_cons_self
    · rw [order, List.mem_append, List.mem_cons] at member
      rcases member with earlier | rfl | later
      · exact Nat.le_of_lt (ascending.2.2 other earlier target List.mem_cons_self)
      · exact Nat.le_refl _
      · have failed := fails other (List.mem_reverse.mp later)
        rw [passes] at failed
        cases failed
  · rintro ⟨⟨member, holds⟩, greatest⟩
    obtain ⟨before, after, order⟩ := List.append_of_mem member
    rw [order, List.pairwise_append, List.pairwise_cons] at ascending
    refine ⟨holds, after.reverse, before.reverse, by rw [order]; simp, fun other later => ?_⟩
    have behind : other ∈ after := List.mem_reverse.mp later
    rw [Bool.not_eq_true', Bool.eq_false_iff]
    intro passes
    have above := ascending.2.1.1 other behind
    have atMost := greatest other
      (order ▸ List.mem_append_right _ (List.mem_cons_of_mem _ behind)) passes
    exact absurd above (Nat.not_lt.mpr atMost)

/-- What is found at the key of an address is the last entry there. -/
theorem LowerAddresses.find?_eq_some_iff {tree : SymbolTree} (lower : tree.LowerAddresses)
    {digits : List Char} (noMark : 'x' ∉ digits) {target : NodeId} :
    (tree.ids.reverse.find? fun id =>
        (tree.node id).address = addressKey (String.ofList digits)) = some target ↔
      tree.LastAt digits target := by
  rw [find?_reverse_ids_eq_some_iff]
  constructor
  · rintro ⟨⟨entry, same⟩, greatest⟩
    refine ⟨(lower.address_eq_iff entry noMark).mp (of_decide_eq_true same), fun other stands => ?_⟩
    exact greatest other stands.entry
      (decide_eq_true ((lower.address_eq_iff stands.entry noMark).mpr stands))
  · rintro ⟨stands, greatest⟩
    refine ⟨⟨stands.entry, decide_eq_true ((lower.address_eq_iff stands.entry noMark).mpr stands)⟩,
      fun other entry same => ?_⟩
    exact greatest other ((lower.address_eq_iff entry noMark).mp (of_decide_eq_true same))

theorem LowerAddresses.find?_eq_none_iff {tree : SymbolTree} (lower : tree.LowerAddresses)
    {digits : List Char} (noMark : 'x' ∉ digits) :
    (tree.ids.reverse.find? fun id =>
        (tree.node id).address = addressKey (String.ofList digits)) = none ↔
      ∀ id, ¬ tree.StandsAt digits id := by
  rw [List.find?_eq_none]
  constructor
  · intro none id stands
    exact none id (List.mem_reverse.mpr stands.entry)
      (decide_eq_true ((lower.address_eq_iff stands.entry noMark).mpr stands))
  · intro none id entry same
    exact none id ((lower.address_eq_iff (List.mem_reverse.mp entry) noMark).mp
      (of_decide_eq_true same))

/-! ## What becomes of a link -/

/-- The link of a node refers to an entry. -/
def Refers (tree : SymbolTree) (id target : NodeId) : Prop :=
  ∃ text digits, (tree.node id).link = .raw text ∧ RefersTo text digits ∧
    tree.LastAt digits target

/-- The link of a node refers to an address at which no entry stands. -/
def Dangles (tree : SymbolTree) (id : NodeId) : Prop :=
  ∃ text digits, (tree.node id).link = .raw text ∧ RefersTo text digits ∧
    ∀ other, ¬ tree.StandsAt digits other

variable {tree : SymbolTree}

theorem LowerAddresses.resolution_eq_linked_iff (lower : tree.LowerAddresses) {id target : NodeId} :
    resolution tree.addressIndex (tree.node id) = .linked target ↔ tree.Refers id target := by
  unfold resolution
  constructor
  · intro decided
    split at decided
    · rename_i text link
      split at decided
      · cases decided
      · rename_i digits reference
        have refersTo := reference?_eq_some_iff.mp reference
        split at decided
        · rename_i found
          cases decided
          rw [getElem?_addressIndex] at found
          exact ⟨text, digits, link, refersTo,
            (lower.find?_eq_some_iff (mark_not_mem_of_isHexDigit refersTo.hex)).mp found⟩
        · cases decided
    · cases decided
  · rintro ⟨text, digits, link, refersTo, last⟩
    have found := (lower.find?_eq_some_iff (mark_not_mem_of_isHexDigit refersTo.hex)).mpr last
    simp only [link, reference?_eq_some_iff.mpr refersTo, getElem?_addressIndex, found]

theorem LowerAddresses.resolution_eq_dangling_iff (lower : tree.LowerAddresses) {id : NodeId}
    {text : String} :
    resolution tree.addressIndex (tree.node id) = .dangling text ↔
      tree.Dangles id ∧ text = trimmed (tree.node id).link.text := by
  unfold resolution
  constructor
  · intro decided
    split at decided
    · rename_i raw link
      split at decided
      · cases decided
      · rename_i digits reference
        have refersTo := reference?_eq_some_iff.mp reference
        split at decided
        · cases decided
        · rename_i missing
          cases decided
          rw [getElem?_addressIndex] at missing
          refine ⟨⟨raw, digits, link, refersTo, ?_⟩, by rw [link]; rfl⟩
          exact (lower.find?_eq_none_iff (mark_not_mem_of_isHexDigit refersTo.hex)).mp missing
    · cases decided
  · rintro ⟨⟨raw, digits, link, refersTo, nowhere⟩, rfl⟩
    have missing := (lower.find?_eq_none_iff (mark_not_mem_of_isHexDigit refersTo.hex)).mpr nowhere
    simp only [link, reference?_eq_some_iff.mpr refersTo, getElem?_addressIndex, missing, Link.text]

/-! ## One pass -/

theorem toList_nodes (tree : SymbolTree) :
    tree.nodes.toList = (List.range tree.nodes.size).map tree.node := by
  apply List.ext_getElem (by simp)
  intro index small _
  simp only [List.getElem_map, List.getElem_range, node, Array.getD, Array.length_toList] at small ⊢
  rw [dif_pos small, Array.getElem_toList]
  rfl

theorem eq_of_node_eq {first second : SymbolTree} (size : first.nodes.size = second.nodes.size)
    (same : ∀ id, first.node id = second.node id) : first = second := by
  have lists : first.nodes.toList = second.nodes.toList := by
    rw [toList_nodes, toList_nodes, size, funext same]
  cases first
  cases second
  simpa using lists

/-- Whether a node has its link made. -/
def isLinked (tree : SymbolTree) (id : NodeId) : Bool :=
  match resolution tree.addressIndex (tree.node id) with
  | .linked _ => true
  | _ => false

/-- What is reported about the link of a node. -/
def danglingFinding? (tree : SymbolTree) (id : NodeId) : Option Diagnostic :=
  match resolution tree.addressIndex (tree.node id) with
  | .dangling text => some (danglingWarning (tree.node id) text)
  | _ => none

theorem linked_resolve (tree : SymbolTree) :
    tree.resolve.linked = ((List.range tree.nodes.size).filter tree.isLinked).length := by
  rw [← List.countP_eq_length_filter]
  simp only [resolve, toList_nodes, List.countP_map]
  rfl

theorem findings_resolve (tree : SymbolTree) :
    tree.resolve.findings = (List.range tree.nodes.size).filterMap tree.danglingFinding? := by
  simp only [resolve, toList_nodes, List.filterMap_map]
  rfl

theorem LowerAddresses.isLinked_iff (lower : tree.LowerAddresses) {id : NodeId} :
    tree.isLinked id = true ↔ ∃ target, tree.Refers id target := by
  simp only [← lower.resolution_eq_linked_iff, isLinked]
  cases resolution tree.addressIndex (tree.node id) <;> simp

theorem LowerAddresses.isSome_danglingFinding?_iff (lower : tree.LowerAddresses) {id : NodeId} :
    (tree.danglingFinding? id).isSome = true ↔ tree.Dangles id := by
  unfold danglingFinding?
  constructor
  · intro found
    cases decided : resolution tree.addressIndex (tree.node id) with
    | dangling text => exact (lower.resolution_eq_dangling_iff.mp decided).1
    | untouched | linked target =>
        rw [decided] at found
        cases found
  · intro dangles
    rw [lower.resolution_eq_dangling_iff.mpr ⟨dangles, rfl⟩]
    rfl

/-- The findings are the warnings about the links that dangle. -/
theorem LowerAddresses.findings_eq_map (lower : tree.LowerAddresses) :
    tree.resolve.findings =
      ((List.range tree.nodes.size).filter fun id => (tree.danglingFinding? id).isSome).map
        fun id => danglingWarning (tree.node id) (trimmed (tree.node id).link.text) := by
  rw [findings_resolve, ← List.filterMap_eq_map, List.filterMap_filter]
  congr 1
  funext id
  cases found : tree.danglingFinding? id with
  | none => rfl
  | some finding =>
      have dangles := lower.isSome_danglingFinding?_iff.mp (Option.isSome_of_mem found)
      rw [← found, danglingFinding?, lower.resolution_eq_dangling_iff.mpr ⟨dangles, rfl⟩]
      rfl

theorem severity_danglingWarning (node : Node) (text : String) :
    (danglingWarning node text).severity = .warning := by
  unfold danglingWarning
  cases node.line <;> rfl

theorem node_resolve_of_linked {id target : NodeId}
    (linked : resolution tree.addressIndex (tree.node id) = .linked target) :
    tree.resolve.tree.node id = { tree.node id with link := .target target } := by
  rw [node_resolve, ← settle_eq, linked]

theorem node_resolve_of_not_linked {id : NodeId} (kept : tree.isLinked id = false) :
    tree.resolve.tree.node id = tree.node id := by
  rw [node_resolve, ← settle_eq]
  unfold isLinked at kept
  cases decided : resolution tree.addressIndex (tree.node id) <;> simp_all

/-! ## A second pass -/

theorem addressIndex_resolve (tree : SymbolTree) (address : String) :
    tree.resolve.tree.addressIndex[address]? = tree.addressIndex[address]? := by
  simp only [getElem?_addressIndex, ids_resolve, node_resolve]

/-- A link that was made is left alone, and every other one fares as before. -/
theorem resolution_resolve (tree : SymbolTree) (id : NodeId) :
    resolution tree.resolve.tree.addressIndex (tree.resolve.tree.node id) =
      match resolution tree.addressIndex (tree.node id) with
      | .linked _ => .untouched
      | other => other := by
  cases decided : resolution tree.addressIndex (tree.node id) with
  | linked target =>
      rw [node_resolve_of_linked decided]
      rfl
  | untouched | dangling text =>
      have kept : tree.isLinked id = false := by rw [isLinked, decided]
      have sameIndex : resolution tree.resolve.tree.addressIndex (tree.node id) =
          resolution tree.addressIndex (tree.node id) := by
        simp only [resolution, addressIndex_resolve]
      rw [node_resolve_of_not_linked kept, sameIndex, decided]

theorem isLinked_resolve (tree : SymbolTree) (id : NodeId) :
    tree.resolve.tree.isLinked id = false := by
  rw [isLinked, resolution_resolve]
  cases resolution tree.addressIndex (tree.node id) <;> rfl

theorem danglingFinding?_resolve (tree : SymbolTree) (id : NodeId) :
    tree.resolve.tree.danglingFinding? id = tree.danglingFinding? id := by
  rw [danglingFinding?, danglingFinding?, resolution_resolve, node_resolve]
  cases resolution tree.addressIndex (tree.node id) <;> rfl

theorem resolve_resolve (tree : SymbolTree) :
    tree.resolve.tree.resolve.tree = tree.resolve.tree ∧
      tree.resolve.tree.resolve.linked = 0 ∧
      tree.resolve.tree.resolve.findings = tree.resolve.findings := by
  refine ⟨eq_of_node_eq (size_resolve _) fun id => ?_, ?_, ?_⟩
  · exact node_resolve_of_not_linked (isLinked_resolve tree id)
  · rw [linked_resolve, List.filter_eq_nil_iff.mpr, List.length_nil]
    intro id _
    rw [isLinked_resolve]
    exact Bool.false_ne_true
  · rw [findings_resolve, findings_resolve, size_resolve, funext (danglingFinding?_resolve tree)]

/-! ## Whole dumps -/

/-- What resolving the links of a tree amounts to. -/
structure Links (tree : SymbolTree) (resolved : Resolved) : Prop where
  size : resolved.tree.nodes.size = tree.nodes.size
  linked : ∀ id target, tree.Refers id target →
    resolved.tree.node id = { tree.node id with link := .target target }
  kept : ∀ id, (∀ target, ¬ tree.Refers id target) → resolved.tree.node id = tree.node id
  linkedCount : ∃ made : List NodeId, made.Pairwise (· < ·) ∧
    (∀ id, id ∈ made ↔ ∃ target, tree.Refers id target) ∧ resolved.linked = made.length
  /-- There is one warning for each link that dangles, in the order of the
  entries. -/
  findings : ∃ dangling : List NodeId, dangling.Pairwise (· < ·) ∧
    (∀ id, id ∈ dangling ↔ tree.Dangles id) ∧
    resolved.findings = dangling.map (fun id =>
      danglingWarning (tree.node id) (trimmed (tree.node id).link.text)) ∧
    resolved.dangling = dangling.length
  warnings : ∀ finding ∈ resolved.findings, finding.severity = .warning
  /-- A target is found at its address, marked or not and in any letter case. -/
  lookup : ∀ id target, tree.Refers id target → ∀ written : String,
    written.toList.map Char.toLower = (tree.node target).address.toList →
      resolved.tree.lookup? written = some target ∧
        resolved.tree.lookup? ("0x" ++ written) = some target
  again : resolved.tree.resolve.tree = resolved.tree ∧ resolved.tree.resolve.linked = 0 ∧
    resolved.tree.resolve.findings = resolved.findings ∧
    resolved.tree.resolve.dangling = resolved.dangling

theorem lowerAddresses_ofDump (dump : String) :
    (ofRecords (Record.ofDump dump).1).1.LowerAddresses := by
  intro id entry
  obtain ⟨record, member, parent, same⟩ := exists_record_ofRecords _ entry
  rw [Node.eq_of_withoutChildren same Node.address fun _ => rfl]
  exact (Record.regular_of_mem_ofDump member).address

/-- No place past the end has a raw link. -/
theorem mem_range_of_raw {id : NodeId} {text : String}
    (link : (tree.node id).link = .raw text) : id ∈ List.range tree.nodes.size := by
  rw [List.mem_range]
  by_contra outside
  rw [node_of_size_le (Nat.le_of_not_lt outside)] at link
  cases link

theorem LowerAddresses.lookup?_resolve (lower : tree.LowerAddresses) {digits : List Char}
    {target : NodeId} (last : tree.LastAt digits target) {written : String}
    (same : written.toList.map Char.toLower = (tree.node target).address.toList) :
    tree.resolve.tree.lookup? written = some target := by
  have lowerTarget := lower target last.stands.entry
  have noMark : 'x' ∉ written.toList := by
    intro member
    have lowered : 'x' ∈ written.toList.map Char.toLower := List.mem_map.mpr ⟨'x', member, rfl⟩
    rw [same] at lowered
    exact absurd (lowerTarget _ lowered) (by decide)
  have sameDigits : written.toList.map Char.toLower = digits.map Char.toLower := by
    rw [same, ← last.stands.same, map_toLower_of_isLowerHexDigit lowerTarget]
  have lastWritten : tree.LastAt written.toList target :=
    ⟨⟨last.stands.entry, sameDigits ▸ last.stands.same⟩, fun other stands =>
      last.greatest other ⟨stands.entry, stands.same.trans sameDigits⟩⟩
  have found := (lower.find?_eq_some_iff noMark).mpr lastWritten
  rw [String.ofList_toList] at found
  rw [lookup?, ids_resolve]
  simpa only [node_resolve] using found

theorem LowerAddresses.links_resolve (lower : tree.LowerAddresses) : tree.Links tree.resolve where
  size := size_resolve tree
  linked := fun id target refers =>
    node_resolve_of_linked (lower.resolution_eq_linked_iff.mpr refers)
  kept := fun id none => by
    apply node_resolve_of_not_linked
    rw [Bool.eq_false_iff, Ne, lower.isLinked_iff]
    exact fun ⟨target, refers⟩ => none target refers
  linkedCount := by
    refine ⟨_, List.pairwise_lt_range.filter _, fun id => ?_, linked_resolve tree⟩
    rw [List.mem_filter, lower.isLinked_iff, and_iff_right_iff_imp]
    rintro ⟨_, _, _, link, _⟩
    exact mem_range_of_raw link
  findings := by
    refine ⟨(List.range tree.nodes.size).filter fun id => (tree.danglingFinding? id).isSome,
      List.pairwise_lt_range.filter _, fun id => ?_, lower.findings_eq_map, ?_⟩
    · rw [List.mem_filter, lower.isSome_danglingFinding?_iff, and_iff_right_iff_imp]
      rintro ⟨_, _, link, _⟩
      exact mem_range_of_raw link
    · rw [Resolved.dangling, lower.findings_eq_map, List.length_map]
  warnings := by
    rw [lower.findings_eq_map]
    intro finding member
    obtain ⟨id, _, rfl⟩ := List.mem_map.mp member
    exact severity_danglingWarning _ _
  lookup := fun id target ⟨_, _, _, _, last⟩ written same => by
    have found := lower.lookup?_resolve last same
    refine ⟨found, ?_⟩
    rw [← found, lookup?, lookup?, addressKey_marked]
  again := by
    obtain ⟨same, none, findings⟩ := resolve_resolve tree
    exact ⟨same, none, findings, congrArg List.length findings⟩

/-- The links of every dump are resolved exactly. -/
theorem ofRecords_links (dump : String) :
    (ofRecords (Record.ofDump dump).1).1.Links (ofRecords (Record.ofDump dump).1).1.resolve :=
  (lowerAddresses_ofDump dump).links_resolve

end SymbolTree

end Bindery
