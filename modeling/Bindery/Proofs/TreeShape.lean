import Mathlib.Data.List.Induction
import Bindery.SymbolTree.Builder

/-!
# The shape of built trees

A builder only ever adds a node at the end of the array, below a node that
stands already on the open path.  So every parent stands before its children,
and a node lists as its children exactly the nodes that name it as their parent.
Nothing but the list of children of a node ever changes.
-/

namespace Bindery

/-- A node as it was attached, before it had children. -/
def Node.withoutChildren (node : Node) : Node :=
  { node with children := #[] }

/-- Children apart, what is read off a node was there from the beginning. -/
theorem Node.eq_of_withoutChildren {α : Type} {node fresh : Node}
    (same : node.withoutChildren = fresh) (field : Node → α)
    (blind : ∀ node : Node, field node.withoutChildren = field node) :
    field node = field fresh := by
  rw [← same, blind]

namespace SymbolTree

theorem node_of_size_le {tree : SymbolTree} {id : NodeId} (outside : tree.nodes.size ≤ id) :
    tree.node id = Node.root := by
  simp [node, outside]

/-- Parents stand before their children, and both name each other. -/
structure WellFormed (tree : SymbolTree) : Prop where
  nonempty : 0 < tree.nodes.size
  root : (tree.node 0).withoutChildren = Node.root
  parent : ∀ id, 0 < id → id < tree.nodes.size →
    ∃ above < id, (tree.node id).parent = some above
  mem_children_iff : ∀ id child, child ∈ tree.children id ↔
    (0 < child ∧ child < tree.nodes.size) ∧ (tree.node child).parent = some id

namespace WellFormed

variable {tree : SymbolTree}

theorem parent_root (wellFormed : tree.WellFormed) : (tree.node 0).parent = none :=
  Node.eq_of_withoutChildren wellFormed.root Node.parent fun _ => rfl

/-- Whatever a node names as its parent stands before it. -/
theorem parent_lt (wellFormed : tree.WellFormed) {id above : NodeId}
    (named : (tree.node id).parent = some above) : above < id ∧ id < tree.nodes.size := by
  rcases Nat.eq_zero_or_pos id with rfl | positive
  · rw [wellFormed.parent_root] at named
    contradiction
  · rcases Nat.lt_or_ge id tree.nodes.size with inside | outside
    · rcases wellFormed.parent id positive inside with ⟨found, before, same⟩
      rw [named, Option.some.injEq] at same
      exact ⟨same ▸ before, inside⟩
    · rw [node_of_size_le outside] at named
      contradiction

theorem mem_ids_of_mem_children (wellFormed : tree.WellFormed) {id child : NodeId}
    (member : child ∈ tree.children id) : child ∈ tree.ids :=
  (mem_ids_iff tree child).mpr ((wellFormed.mem_children_iff id child).mp member).1

theorem lt_of_mem_children (wellFormed : tree.WellFormed) {id child : NodeId}
    (member : child ∈ tree.children id) : id < child ∧ child < tree.nodes.size :=
  wellFormed.parent_lt ((wellFormed.mem_children_iff id child).mp member).2

end WellFormed

end SymbolTree

namespace TreeBuilder

/-- A push either attaches the record below a node of the open path or changes
nothing. -/
theorem push_cases (builder : TreeBuilder) (record : Record) :
    (∃ parent, builder.openPath[record.level.toNat]? = some parent ∧
      builder.push record = (builder.attach record parent, some builder.nodes.size, [])) ∨
    (builder.openPath[record.level.toNat]? = none ∧
      builder.push record = (builder, none, [builder.skippedLevel record])) := by
  cases found : builder.openPath[record.level.toNat]? with
  | some parent => exact Or.inl ⟨parent, rfl, by simp [push, found]⟩
  | none => exact Or.inr ⟨rfl, by simp [push, found]⟩

theorem pushAll_append (builder : TreeBuilder) (first second : List Record) :
    builder.pushAll (first ++ second) =
      (((builder.pushAll first).1.pushAll second).1,
        (builder.pushAll first).2 ++ ((builder.pushAll first).1.pushAll second).2) := by
  induction first generalizing builder with
  | nil => rfl
  | cons record rest ih => simp [pushAll, ih, List.append_assoc]

theorem pushAll_concat_fst (builder : TreeBuilder) (records : List Record) (record : Record) :
    (builder.pushAll (records ++ [record])).1 = ((builder.pushAll records).1.push record).1 := by
  rw [pushAll_append]
  rfl

/-- The nodes after a record was attached: the new one stands at the end, its
parent has one more child, and all others are as before. -/
theorem node_finish_attach {builder : TreeBuilder} {parent : NodeId}
    (inside : parent < builder.nodes.size) (record : Record) (id : NodeId) :
    (builder.attach record parent).finish.node id =
      if id = builder.nodes.size then Node.ofRecord record parent
      else if id = parent then (builder.finish.node id).withChild builder.nodes.size
      else builder.finish.node id := by
  simp only [SymbolTree.node, finish, attach, Array.getD_eq_getD_getElem?,
    Array.getElem?_push, Array.size_modify, Array.getElem?_modify]
  by_cases new : id = builder.nodes.size
  · simp [new]
  · by_cases above : id = parent
    · subst above
      simp [new, inside]
    · simp [new, above, Ne.symm above]

theorem parent_attach {builder : TreeBuilder} {parent : NodeId}
    (inside : parent < builder.nodes.size) (record : Record) (id : NodeId) :
    ((builder.attach record parent).finish.node id).parent =
      if id = builder.nodes.size then some parent else (builder.finish.node id).parent := by
  rw [node_finish_attach inside]
  split
  · rfl
  · split <;> rfl

theorem withoutChildren_attach {builder : TreeBuilder} {parent : NodeId}
    (inside : parent < builder.nodes.size) (record : Record) {id : NodeId}
    (old : id ≠ builder.nodes.size) :
    ((builder.attach record parent).finish.node id).withoutChildren =
      (builder.finish.node id).withoutChildren := by
  rw [node_finish_attach inside, if_neg old]
  split <;> rfl

theorem children_attach {builder : TreeBuilder} {parent : NodeId}
    (inside : parent < builder.nodes.size) (record : Record) (id : NodeId) :
    (builder.attach record parent).finish.children id =
      builder.finish.children id ++ if id = parent then [builder.nodes.size] else [] := by
  unfold SymbolTree.children
  rw [node_finish_attach inside]
  by_cases new : id = builder.nodes.size
  · have notParent : id ≠ parent := fun same => Nat.ne_of_lt inside (same.symm.trans new)
    have outside : builder.finish.nodes.size ≤ id := Nat.le_of_eq new.symm
    rw [if_pos new, if_neg notParent, SymbolTree.node_of_size_le outside]
    rfl
  · by_cases above : id = parent
    · rw [if_neg new, if_pos above, if_pos above]
      exact Array.toList_push
    · rw [if_neg new, if_neg above, if_neg above, List.append_nil]

theorem children_empty (id : NodeId) : SymbolTree.children (finish {}) id = [] := by
  rcases Nat.eq_zero_or_pos id with rfl | positive
  · rfl
  · rw [SymbolTree.children, SymbolTree.node_of_size_le positive]
    rfl

/-- A well-formed tree with an open path that leads from its root. -/
structure Grounded (builder : TreeBuilder) : Prop where
  tree : builder.finish.WellFormed
  openPath_zero : builder.openPath[0]? = some 0
  inRange : ∀ id ∈ builder.openPath, id < builder.nodes.size

theorem grounded_empty : Grounded {} where
  tree := {
    nonempty := Nat.zero_lt_one
    root := rfl
    parent := fun id positive inside => absurd inside (Nat.not_lt.mpr positive)
    mem_children_iff := fun id child => by
      have oneNode : (finish {}).nodes.size = 1 := rfl
      rw [children_empty, oneNode]
      simp only [List.not_mem_nil, false_iff]
      rintro ⟨⟨positive, inside⟩, _⟩
      exact absurd inside (Nat.not_lt.mpr positive) }
  openPath_zero := rfl
  inRange := fun id member => by
    have root : id = 0 := List.mem_singleton.mp member
    exact root ▸ Nat.zero_lt_one

/-- Where nodes are the children of those that they name as their parents, they
still are once a record is attached. -/
theorem mem_children_attach_iff {builder : TreeBuilder} (wellFormed : builder.finish.WellFormed)
    {parent : NodeId} (inside : parent < builder.nodes.size) (record : Record) (id child : NodeId) :
    child ∈ (builder.attach record parent).finish.children id ↔
      (0 < child ∧ child < builder.nodes.size + 1) ∧
        ((builder.attach record parent).finish.node child).parent = some id := by
  have nonempty : 0 < builder.nodes.size := wellFormed.nonempty
  rw [children_attach inside, parent_attach inside, List.mem_append, wellFormed.mem_children_iff]
  by_cases new : child = builder.nodes.size
  · have notBefore : ¬ child < builder.finish.nodes.size := Nat.not_lt.mpr (Nat.le_of_eq new.symm)
    rw [if_pos new]
    by_cases above : id = parent
    · simp [new, above, nonempty]
    · simp [notBefore, above, Ne.symm above]
  · have notListed : child ∉ if id = parent then [builder.nodes.size] else [] := by
      split <;> simp [new]
    have sameRange : child < builder.nodes.size + 1 ↔ child < builder.finish.nodes.size :=
      ⟨fun small => Nat.lt_of_le_of_ne (Nat.le_of_lt_succ small) new, Nat.lt_succ_of_lt⟩
    rw [if_neg new, sameRange, or_iff_left notListed]

theorem wellFormed_attach {builder : TreeBuilder} (wellFormed : builder.finish.WellFormed)
    {parent : NodeId} (inside : parent < builder.nodes.size) (record : Record) :
    (builder.attach record parent).finish.WellFormed := by
  have size : (builder.attach record parent).finish.nodes.size = builder.nodes.size + 1 :=
    size_attach builder record parent
  constructor
  case nonempty =>
    rw [size]
    exact Nat.succ_pos _
  case root =>
    rw [withoutChildren_attach inside record (Nat.ne_of_lt wellFormed.nonempty)]
    exact wellFormed.root
  case parent =>
    intro id positive small
    rw [parent_attach inside]
    split
    · rename_i new
      exact ⟨parent, new ▸ inside, rfl⟩
    · rename_i old
      rw [size] at small
      exact wellFormed.parent id positive (Nat.lt_of_le_of_ne (Nat.le_of_lt_succ small) old)
  case mem_children_iff =>
    intro id child
    rw [size]
    exact mem_children_attach_iff wellFormed inside record id child

theorem Grounded.attach {builder : TreeBuilder} (grounded : builder.Grounded) {record : Record}
    {parent : NodeId} (opened : builder.openPath[record.level.toNat]? = some parent) :
    (builder.attach record parent).Grounded := by
  have inside : parent < builder.nodes.size :=
    grounded.inRange parent (List.mem_of_getElem? opened)
  constructor
  case tree => exact wellFormed_attach grounded.tree inside record
  case openPath_zero =>
    have root := grounded.openPath_zero
    rcases builder with ⟨nodes, _ | ⟨first, rest⟩⟩
    · contradiction
    · exact root
  case inRange =>
    intro id member
    rw [size_attach]
    rcases List.mem_append.mp member with old | new
    · exact Nat.lt_succ_of_lt (grounded.inRange id (List.mem_of_mem_take old))
    · rw [List.mem_singleton.mp new]
      exact Nat.lt_succ_self _

theorem Grounded.push {builder : TreeBuilder} (grounded : builder.Grounded) (record : Record) :
    (builder.push record).1.Grounded := by
  rcases builder.push_cases record with ⟨parent, opened, result⟩ | ⟨_, result⟩
  · rw [result]
    exact grounded.attach opened
  · rw [result]
    exact grounded

theorem grounded_pushAll (records : List Record) : (pushAll {} records).1.Grounded := by
  induction records using List.reverseRecOn with
  | nil => exact grounded_empty
  | append_singleton earlier record ih =>
      rw [pushAll_concat_fst]
      exact ih.push record

/-! ## Nodes that stand already -/

theorem size_le_push (builder : TreeBuilder) (record : Record) :
    builder.nodes.size ≤ (builder.push record).1.nodes.size := by
  rcases builder.push_cases record with ⟨parent, _, result⟩ | ⟨_, result⟩
  · rw [result, size_attach]
    exact Nat.le_succ _
  · exact Nat.le_of_eq (congrArg (fun answer => answer.1.nodes.size) result.symm)

theorem withoutChildren_push {builder : TreeBuilder} (grounded : builder.Grounded)
    (record : Record) {id : NodeId} (old : id < builder.nodes.size) :
    ((builder.push record).1.finish.node id).withoutChildren =
      (builder.finish.node id).withoutChildren := by
  rcases builder.push_cases record with ⟨parent, opened, result⟩ | ⟨_, result⟩
  · rw [result]
    exact withoutChildren_attach (grounded.inRange parent (List.mem_of_getElem? opened)) record
      (Nat.ne_of_lt old)
  · rw [result]

/-- Later records give a node at most more children. -/
theorem withoutChildren_pushAll {builder : TreeBuilder} (grounded : builder.Grounded)
    (records : List Record) {id : NodeId} (old : id < builder.nodes.size) :
    ((builder.pushAll records).1.finish.node id).withoutChildren =
      (builder.finish.node id).withoutChildren := by
  induction records generalizing builder with
  | nil => rfl
  | cons record rest ih =>
      have stillOld := Nat.lt_of_lt_of_le old (builder.size_le_push record)
      exact (ih (grounded.push record) stillOld).trans (withoutChildren_push grounded record old)

theorem size_le_pushAll (builder : TreeBuilder) (records : List Record) :
    builder.nodes.size ≤ (builder.pushAll records).1.nodes.size := by
  induction records generalizing builder with
  | nil => exact Nat.le_refl _
  | cons record rest ih => exact Nat.le_trans (builder.size_le_push record) (ih _)

/-- Every node that records add is the node of one of them. -/
theorem exists_record_pushAll {builder : TreeBuilder} (grounded : builder.Grounded)
    (records : List Record) {id : NodeId} (new : builder.nodes.size ≤ id)
    (inside : id < (builder.pushAll records).1.nodes.size) :
    ∃ record ∈ records, ∃ parent,
      ((builder.pushAll records).1.finish.node id).withoutChildren =
        Node.ofRecord record parent := by
  induction records generalizing builder with
  | nil => exact absurd inside (Nat.not_lt.mpr new)
  | cons record rest ih =>
      have later : (builder.push record).1.nodes.size ≤ id →
          ∃ other ∈ record :: rest, ∃ parent,
            ((builder.pushAll (record :: rest)).1.finish.node id).withoutChildren =
              Node.ofRecord other parent := by
        intro stillNew
        rcases ih (grounded.push record) stillNew inside with ⟨other, member, parent, same⟩
        exact ⟨other, List.mem_cons_of_mem _ member, parent, same⟩
      rcases builder.push_cases record with ⟨parent, opened, result⟩ | ⟨_, result⟩
      · rcases Nat.eq_or_lt_of_le new with rfl | after
        · have below := grounded.inRange parent (List.mem_of_getElem? opened)
          refine ⟨record, List.mem_cons_self, parent, ?_⟩
          simp only [pushAll, result]
          rw [withoutChildren_pushAll (grounded.attach opened) rest
            (by rw [size_attach]; exact Nat.lt_succ_self _), node_finish_attach below, if_pos rfl]
          rfl
        · apply later
          rw [result, size_attach]
          exact after
      · apply later
        rw [result]
        exact new

end TreeBuilder

namespace SymbolTree

theorem wellFormed_ofRecords (records : List Record) : (ofRecords records).1.WellFormed :=
  (TreeBuilder.grounded_pushAll records).tree

theorem exists_record_ofRecords (records : List Record) {id : NodeId}
    (member : id ∈ (ofRecords records).1.ids) :
    ∃ record ∈ records, ∃ parent,
      ((ofRecords records).1.node id).withoutChildren = Node.ofRecord record parent := by
  rcases (mem_ids_iff _ id).mp member with ⟨positive, inside⟩
  exact TreeBuilder.exists_record_pushAll TreeBuilder.grounded_empty records positive inside

/-- No link of a tree that was just built names a node. -/
theorem link_ofRecords (records : List Record) (id target : NodeId) :
    ((ofRecords records).1.node id).link ≠ .target target := by
  have wellFormed := wellFormed_ofRecords records
  rcases Nat.eq_zero_or_pos id with rfl | positive
  · have root : ((ofRecords records).1.node 0).link = .absent := congrArg Node.link wellFormed.root
    rw [root]
    exact Link.noConfusion
  · rcases Nat.lt_or_ge id (ofRecords records).1.nodes.size with inside | outside
    · obtain ⟨record, _, parent, same⟩ :=
        exists_record_ofRecords records ((mem_ids_iff _ id).mpr ⟨positive, inside⟩)
      rw [Node.eq_of_withoutChildren same Node.link fun _ => rfl, Node.ofRecord]
      dsimp only
      split <;> exact Link.noConfusion
    · rw [node_of_size_le outside]
      exact Link.noConfusion

end SymbolTree

end Bindery
