import Mathlib.Algebra.GroupWithZero.Nat
import Mathlib.Data.List.Forall2
import Bindery.Proofs.DepthFirst

/-!
# Trees and the records in them

A tree holds the records that were attached and nothing else: a walk through it
meets one node for each of them, in their order, and each node says what its
record said.  Building from what the walk reads off gives the same tree again,
and no record is dropped this time.
-/

namespace Bindery

/-- A node and a record say the same.  The record holds its type among the
attributes, wherever it stands there. -/
structure Node.Holds (node : Node) (record : Record) : Prop where
  level : node.level = record.level.toNat
  address : node.address = record.address
  abbreviation : node.abbreviation = record.abbreviation
  tag : node.tag = record.tag
  name : node.name = record.name
  fullName : node.fullName = record.fullName
  attributes : node.attributes = record.attributes.erase "type"
  link : node.link = ((record.attributes.get? "type").map Link.raw).getD .absent
  line : node.line = some record.line

/-- The node of a record says what the record says, unless the record lies
deeper than nodes can. -/
theorem Node.holds_of_ofRecord {node : Node} {record : Record} {parent : NodeId}
    (same : node.withoutChildren = Node.ofRecord record parent)
    (low : record.level.toNat ≤ Node.maxLevel) : node.Holds record where
  level := by
    rw [Node.eq_of_withoutChildren same Node.level fun _ => rfl]
    exact Int.min_eq_left (Int.ofNat_le.mpr low)
  address := Node.eq_of_withoutChildren same Node.address fun _ => rfl
  abbreviation := Node.eq_of_withoutChildren same Node.abbreviation fun _ => rfl
  tag := Node.eq_of_withoutChildren same Node.tag fun _ => rfl
  name := Node.eq_of_withoutChildren same Node.name fun _ => rfl
  fullName := Node.eq_of_withoutChildren same Node.fullName fun _ => rfl
  attributes := Node.eq_of_withoutChildren same Node.attributes fun _ => rfl
  link := by
    rw [Node.eq_of_withoutChildren same Node.link fun _ => rfl, Node.ofRecord]
    cases record.attributes.get? "type" <;> rfl
  line := Node.eq_of_withoutChildren same Node.line fun _ => rfl

/-- Records of which the same nodes are made. -/
structure Record.Alike (first second : Record) : Prop where
  level : first.level = second.level
  node : ∀ parent, Node.ofRecord first parent = Node.ofRecord second parent

theorem Node.Holds.alike {node : Node} {first second : Record} (holds : node.Holds first)
    (other : node.Holds second) : first.Alike second := by
  have level : first.level = second.level := by
    have same := holds.level.symm.trans other.level
    exact UInt32.toNat_inj.mp (Int.ofNat_inj.mp same)
  have type : first.attributes.get? "type" = second.attributes.get? "type" := by
    have same := holds.link.symm.trans other.link
    cases held : first.attributes.get? "type" <;> cases others : second.attributes.get? "type" <;>
      simp_all
  refine ⟨level, fun parent => ?_⟩
  simp only [Node.ofRecord, level, type, ← holds.attributes, ← other.attributes,
    ← holds.address, ← other.address, ← holds.abbreviation, ← other.abbreviation, ← holds.tag,
    ← other.tag, ← holds.name, ← other.name, ← holds.fullName, ← other.fullName]
  rw [← holds.line, ← other.line]

theorem Record.alike_of_holds {nodes : List Node} {first second : List Record}
    (holds : List.Forall₂ Node.Holds nodes first) (others : List.Forall₂ Node.Holds nodes second) :
    List.Forall₂ Record.Alike first second := by
  induction holds generalizing second with
  | nil =>
      cases others
      exact .nil
  | cons same _ ih =>
      cases others with
      | cons other rest => exact .cons (same.alike other) (ih rest)

namespace TreeBuilder

/-! ## Attached records -/

/-- The records that are attached when some are offered. -/
def attachedOf (builder : TreeBuilder) (records : List Record) : List Record :=
  ((builder.offers records).filter fun offer => offer.place.isSome).map Offer.record

theorem attachedOf_concat (builder : TreeBuilder) (records : List Record) (record : Record) :
    builder.attachedOf (records ++ [record]) = builder.attachedOf records ++
      if ((builder.pushAll records).1.push record).2.1.isSome then [record] else [] := by
  rw [attachedOf, offers_concat, List.filter_append, List.map_append]
  cases place : ((builder.pushAll records).1.push record).2.1 <;> rfl

theorem map_record_offers (builder : TreeBuilder) (records : List Record) :
    (builder.offers records).map Offer.record = records := by
  induction records generalizing builder with
  | nil => rfl
  | cons record rest ih => simp [offers, ih]

theorem attachedOf_sublist (builder : TreeBuilder) (records : List Record) :
    (builder.attachedOf records).Sublist records := by
  have kept : (builder.attachedOf records).Sublist ((builder.offers records).map Offer.record) :=
    List.filter_sublist.map Offer.record
  rwa [map_record_offers] at kept

/-- Dropped records leave no mark: without them the same is built, and nothing
is dropped. -/
theorem pushAll_attachedOf (builder : TreeBuilder) (records : List Record) :
    builder.pushAll (builder.attachedOf records) = ((builder.pushAll records).1, []) := by
  induction records generalizing builder with
  | nil => rfl
  | cons record rest ih =>
      rcases builder.push_cases record with ⟨parent, _, result⟩ | ⟨_, result⟩
      · have kept : builder.attachedOf (record :: rest) =
            record :: (builder.attach record parent).attachedOf rest := by
          simp [attachedOf, offers, result]
        rw [kept]
        simp [pushAll, result, ih]
      · have dropped : builder.attachedOf (record :: rest) = builder.attachedOf rest := by
          simp [attachedOf, offers, result]
        rw [dropped, ih]
        simp [pushAll, result]

/-- Records of which the same nodes are made build the same, as long as none is
dropped. -/
theorem pushAll_alike {builder : TreeBuilder} {records others : List Record}
    (alike : List.Forall₂ Record.Alike others records) (kept : (builder.pushAll records).2 = []) :
    builder.pushAll others = builder.pushAll records := by
  induction alike generalizing builder with
  | nil => rfl
  | @cons other record others records same _ ih =>
      rcases builder.push_cases record with ⟨parent, opened, result⟩ | ⟨_, result⟩
      · have attached : builder.attach other parent = builder.attach record parent := by
          simp only [attach, same.level, same.node]
        have pushed : builder.push other = builder.push record := by
          rw [result, push, same.level, opened, ← attached]
        simp only [pushAll, result, List.nil_append] at kept
        simp only [pushAll, pushed, result, ih kept]
      · simp [pushAll, result] at kept

/-! ## The walk through what was built -/

open SymbolTree

/-- The stops of a walk below the root when some records are attached one after
another. -/
def stops (attached : List Record) : List Visit :=
  attached.zipIdx.map fun (record, index) => ⟨record.level.toNat + 1, index + 1⟩

theorem stops_concat (attached : List Record) (record : Record) :
    stops (attached ++ [record]) =
      stops attached ++ [⟨record.level.toNat + 1, attached.length + 1⟩] := by
  simp [stops, List.zipIdx_append]

theorem map_node_stops (attached : List Record) :
    (stops attached).map Visit.node = List.range' 1 attached.length := by
  induction attached using List.reverseRecOn with
  | nil => rfl
  | append_singleton earlier record ih =>
      rw [stops_concat, List.map_append, ih, List.length_append, List.length_singleton,
        List.range'_concat, List.map_singleton, Nat.one_mul, Nat.add_comm 1]

theorem exists_of_mem_stops {attached : List Record} {visit : Visit}
    (member : visit ∈ stops attached) : ∃ (index : Nat) (record : Record),
      attached[index]? = some record ∧ visit = ⟨record.level.toNat + 1, index + 1⟩ := by
  obtain ⟨⟨record, index⟩, indexed, rfl⟩ := List.mem_map.mp member
  exact ⟨index, record, List.mem_zipIdx_iff_getElem?.mp indexed, rfl⟩

/-- What stands in a builder after some records were attached. -/
structure Laid (builder : TreeBuilder) (attached : List Record) : Prop where
  grounded : builder.Grounded
  size : builder.nodes.size = attached.length + 1
  /-- No record lies deeper than the number of records before it. -/
  level_lt : ∀ record ∈ attached, record.level.toNat < attached.length
  short : builder.openPath.length ≤ builder.nodes.size
  rightmost : ∃ path, builder.openPath = 0 :: path ∧ builder.finish.Rightmost 0 path
  walk : builder.finish.DepthFirst 0 [0] (⟨0, 0⟩ :: stops attached)
  node : ∀ (index : Nat) (record : Record), attached[index]? = some record →
    ∃ parent, (builder.finish.node (index + 1)).withoutChildren = Node.ofRecord record parent
  ascending : ∀ id, (builder.finish.children id).Pairwise (· < ·)

theorem laid_empty : Laid {} [] where
  grounded := grounded_empty
  size := rfl
  level_lt := fun _ member => nomatch member
  short := Nat.le_refl 1
  rightmost := ⟨[], rfl, rfl⟩
  walk := by
    have alone : (finish {}).DepthFirst 0 [0] (⟨0, 0⟩ :: ([] ++ [])) := .visit (.done 1) (.done 0)
    exact alone
  node := fun _ _ found => by cases found
  ascending := fun id => by
    rw [children_empty]
    exact List.Pairwise.nil

/-- An attached record grows the tree at its end. -/
theorem grows_attach {builder : TreeBuilder} {parent : NodeId}
    (inside : parent < builder.nodes.size) (record : Record) :
    builder.finish.Grows (builder.attach record parent).finish parent builder.nodes.size where
  children := children_attach inside record
  childless := by
    have outside : builder.finish.children builder.nodes.size = [] :=
      congrArg (fun node => node.children.toList) (node_of_size_le (Nat.le_refl _))
    rw [children_attach inside, outside, if_neg (Nat.ne_of_gt inside)]
    rfl

/-- The walk through the tree meets an attached record last. -/
theorem Laid.walk_attach {builder : TreeBuilder} {attached : List Record}
    (laid : builder.Laid attached) {record : Record} {parent : NodeId} {path : List NodeId}
    (rightmost : builder.finish.Rightmost 0 path)
    (grows : builder.finish.Grows (builder.attach record parent).finish parent builder.nodes.size)
    (opened : (0 :: path)[record.level.toNat]? = some parent) :
    (builder.attach record parent).finish.DepthFirst 0 [0]
      (⟨0, 0⟩ :: stops (attached ++ [record])) := by
  have ascending : ((⟨0, 0⟩ :: stops attached : List Visit).map Visit.node).Pairwise (· < ·) := by
    rw [List.map_cons, map_node_stops, List.pairwise_cons]
    refine ⟨fun id member => ?_, List.pairwise_lt_range'⟩
    exact (List.mem_range'_1.mp member).1
  have walk : builder.finish.DepthFirst 0 ([] ++ [0]) (⟨0, 0⟩ :: stops attached) := laid.walk
  have grown := walk.grow laid.grounded.tree ascending rightmost grows opened
  rw [stops_concat, ← laid.size]
  rwa [Nat.zero_add] at grown

/-- The node of an attached record says what the record said, and the earlier
nodes say what they said before. -/
theorem Laid.node_attach {builder : TreeBuilder} {attached : List Record}
    (laid : builder.Laid attached) {record other : Record} {parent : NodeId}
    (inside : parent < builder.nodes.size) {index : Nat}
    (found : (attached ++ [record])[index]? = some other) :
    ∃ above, ((builder.attach record parent).finish.node (index + 1)).withoutChildren =
      Node.ofRecord other above := by
  rcases Nat.lt_or_ge index attached.length with earlier | last
  · rw [List.getElem?_append_left earlier] at found
    obtain ⟨above, same⟩ := laid.node index other found
    have old : index + 1 ≠ builder.nodes.size := by
      rw [laid.size]
      omega
    exact ⟨above, (withoutChildren_attach inside record old).trans same⟩
  · have isLast : index = attached.length := by
      have bound := (List.getElem?_eq_some_iff.mp found).1
      rw [List.length_append, List.length_singleton] at bound
      omega
    subst isLast
    rw [List.getElem?_concat_length, Option.some.injEq] at found
    subst found
    refine ⟨parent, ?_⟩
    rw [← laid.size, node_finish_attach inside, if_pos rfl]
    rfl

theorem Laid.attach {builder : TreeBuilder} {attached : List Record} (laid : builder.Laid attached)
    {record : Record} {parent : NodeId}
    (opened : builder.openPath[record.level.toNat]? = some parent) :
    (builder.attach record parent).Laid (attached ++ [record]) := by
  have inside : parent < builder.nodes.size :=
    laid.grounded.inRange parent (List.mem_of_getElem? opened)
  have grows := grows_attach inside record
  have level : record.level.toNat < builder.openPath.length :=
    (List.getElem?_eq_some_iff.mp opened).1
  have wellFormed := laid.grounded.tree
  have length := length_take_openPath opened
  have short := laid.short
  obtain ⟨path, isPath, rightmost⟩ := laid.rightmost
  have onPath : (0 :: path)[record.level.toNat]? = some parent := isPath ▸ opened
  constructor
  case grounded => exact laid.grounded.attach opened
  case size => rw [size_attach, laid.size, List.length_append, List.length_singleton]
  case level_lt =>
    intro other member
    rw [List.length_append, List.length_singleton]
    rcases List.mem_append.mp member with earlier | new
    · exact Nat.lt_succ_of_lt (laid.level_lt other earlier)
    · rw [List.mem_singleton.mp new, ← laid.size]
      exact Nat.lt_of_lt_of_le level short
  case short =>
    rw [size_attach, TreeBuilder.attach, List.length_append, length, List.length_singleton]
    omega
  case rightmost =>
    refine ⟨path.take record.level.toNat ++ [builder.nodes.size], ?_,
      rightmost.grow wellFormed grows onPath⟩
    rw [TreeBuilder.attach, isPath, List.take_succ_cons, List.cons_append]
  case walk => exact laid.walk_attach rightmost grows onPath
  case node => exact fun _ _ found => laid.node_attach inside found
  case ascending =>
    intro id
    rw [grows.children, List.pairwise_append]
    refine ⟨laid.ascending id, ?_, ?_⟩
    · split <;> simp
    · intro child member new inNew
      split at inNew
      · rw [List.mem_singleton.mp inNew]
        exact (wellFormed.lt_of_mem_children member).2
      · cases inNew

theorem laid_pushAll (records : List Record) :
    (pushAll {} records).1.Laid (attachedOf {} records) := by
  induction records using List.reverseRecOn with
  | nil => exact laid_empty
  | append_singleton earlier record ih =>
      rw [pushAll_concat_fst, attachedOf_concat]
      rcases push_cases (pushAll {} earlier).1 record with ⟨parent, opened, result⟩ | ⟨_, result⟩
      · rw [result]
        exact ih.attach opened
      · rw [result]
        simpa using ih

end TreeBuilder

/-! ## Reading a tree -/

namespace SymbolTree

open TreeBuilder

/-- What the walk through a tree meets below the root when some records were
attached. -/
structure Layout (tree : SymbolTree) (attached : List Record) (visits : List Visit) : Prop where
  walk : ∀ others, tree.DepthFirst 0 [0] others ↔ others = ⟨0, 0⟩ :: visits
  order : visits.map Visit.node = List.range' 1 tree.size
  depth : ∀ visit ∈ visits, (visit.depth : Int) = (tree.node visit.node).level + 1
  /-- A node stands once among the children of its parent and of no other node. -/
  parent : ∀ visit ∈ visits, ∃ above, (tree.node visit.node).parent = some above ∧
    ∀ other, (tree.children other).count visit.node = if other = above then 1 else 0
  held : List.Forall₂ Node.Holds (visits.map fun visit => tree.node visit.node) attached
  /-- Whatever records are read off the nodes, the tree of them is the same. -/
  rebuilt : ∀ again, List.Forall₂ Node.Holds (visits.map fun visit => tree.node visit.node) again →
    ofRecords again = (tree, [])

theorem count_children {builder : TreeBuilder} {attached : List Record}
    (laid : builder.Laid attached) {id above : NodeId}
    (named : (builder.finish.node id).parent = some above) (other : NodeId) :
    (builder.finish.children other).count id = if other = above then 1 else 0 := by
  have wellFormed := laid.grounded.tree
  have member : id ∈ builder.finish.children other ↔ other = above := by
    rw [wellFormed.mem_children_iff, named, Option.some.injEq, eq_comm]
    exact and_iff_right ⟨Nat.lt_of_le_of_lt (Nat.zero_le _) (wellFormed.parent_lt named).1,
      (wellFormed.parent_lt named).2⟩
  have distinct : (builder.finish.children other).Nodup :=
    (laid.ascending other).imp Nat.ne_of_lt
  rw [distinct.count]
  simp only [member]

/-- The nodes that the walk meets say what the attached records said. -/
theorem holds_stops {builder : TreeBuilder} {attached : List Record}
    (laid : builder.Laid attached)
    (low : ∀ record ∈ attached, record.level.toNat ≤ Node.maxLevel) :
    List.Forall₂ Node.Holds
      ((stops attached).map fun visit => builder.finish.node visit.node) attached := by
  refine List.forall₂_iff_get.mpr ⟨by simp [stops], fun index small inside => ?_⟩
  obtain ⟨parent, same⟩ := laid.node index attached[index] (List.getElem?_eq_getElem inside)
  have holds := Node.holds_of_ofRecord same (low _ (List.getElem_mem inside))
  simpa [stops] using holds

/-- A tree of records holds the attached ones in their order, and can be built
again from what it holds. -/
theorem ofRecords_layout (records : List Record) (few : records.length < 2 ^ 31) :
    ∃ visits, Layout (ofRecords records).1 (attachedOf {} records) visits := by
  have laid := laid_pushAll records
  have size : (ofRecords records).1.nodes.size = (attachedOf {} records).length + 1 := laid.size
  have low : ∀ record ∈ attachedOf {} records, record.level.toNat ≤ Node.maxLevel := by
    intro record member
    have below := laid.level_lt record member
    have fewer := (attachedOf_sublist {} records).length_le
    have greatest : Node.maxLevel = 2 ^ 31 - 1 := rfl
    omega
  have held := holds_stops laid low
  refine ⟨stops (attachedOf {} records), {
    walk := fun others => ⟨laid.walk.unique, ?_⟩
    order := ?_, depth := ?_, parent := ?_, held := held, rebuilt := ?_ }⟩
  · rintro rfl
    exact laid.walk
  · rw [map_node_stops, SymbolTree.size, size, Nat.add_sub_cancel]
  · intro visit member
    obtain ⟨index, record, found, rfl⟩ := exists_of_mem_stops member
    obtain ⟨parent, same⟩ := laid.node index record found
    have holds := Node.holds_of_ofRecord same (low record (List.mem_of_getElem? found))
    exact (Int.natCast_succ _).trans (congrArg (· + 1) holds.level.symm)
  · intro visit member
    obtain ⟨index, record, found, rfl⟩ := exists_of_mem_stops member
    obtain ⟨parent, same⟩ := laid.node index record found
    have named := Node.eq_of_withoutChildren same Node.parent fun _ => rfl
    exact ⟨parent, named, count_children laid named⟩
  · intro again same
    have built := pushAll_alike (Record.alike_of_holds same held)
      (congrArg Prod.snd (pushAll_attachedOf {} records))
    rw [pushAll_attachedOf] at built
    simp only [ofRecords, built]

/-- A record below a class is dropped because it skips a level, and the type of
a member stands among its attributes. -/
theorem ofRecords_layout_lamp :
    let lamp : Record := ⟨0, "2d", 1, .classType, some "Lamp", some "Lamp", {}, 0⟩
    let lost : Record := ⟨2, "30", 2, .formalParameter, none, none, {}, 2⟩
    let level : Record :=
      ⟨1, "34", 3, .member, some "level", some "level", ⟨[("type", "<0x4a>"), ("line", "7")]⟩, 3⟩
    let records := [lamp, lost, level, lamp]
    records.length < 2 ^ 31 ∧ attachedOf {} records = [lamp, level, lamp] ∧
      ∃ visits, Layout (ofRecords records).1 (attachedOf {} records) visits :=
  ⟨by decide, by decide, ofRecords_layout _ (by decide)⟩

end SymbolTree

end Bindery
