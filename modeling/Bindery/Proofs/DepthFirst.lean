import Bindery.Proofs.OpenPath

/-!
# Depth-first walks

A walk that visits every node before its children, and the children from the
left to the right, meets the entries of a tree in the order of their records.
The open path of a builder is the rightmost path of its tree, so a record that
is attached comes after everything that was visited before.

What the walk reads off the nodes is what the records held, so the same tree can
be built from it again.
-/

namespace Bindery

namespace SymbolTree

/-! ## Walks -/

/-- A node met on a walk, with the number of steps down to it. -/
structure Visit where
  depth : Nat
  node : NodeId
  deriving DecidableEq, Repr

/-- The walk through some nodes, which stand at one depth, and through all that
is below them. -/
inductive DepthFirst (tree : SymbolTree) : (depth : Nat) → List NodeId → List Visit → Prop where
  | done (depth : Nat) : DepthFirst tree depth [] []
  | visit {depth : Nat} {id : NodeId} {rest : List NodeId} {below after : List Visit}
      (down : DepthFirst tree (depth + 1) (tree.children id) below)
      (onward : DepthFirst tree depth rest after) :
      DepthFirst tree depth (id :: rest) (⟨depth, id⟩ :: (below ++ after))

variable {tree grown : SymbolTree} {depth : Nat} {ids : List NodeId} {visits : List Visit}

/-- A walk has no choice. -/
theorem DepthFirst.unique (walk : tree.DepthFirst depth ids visits) {others : List Visit}
    (other : tree.DepthFirst depth ids others) : others = visits := by
  induction walk generalizing others with
  | done =>
      cases other
      rfl
  | visit down onward ihDown ihOnward =>
      cases other with
      | visit otherDown otherOnward => rw [ihDown otherDown, ihOnward otherOnward]

theorem DepthFirst.append {first second : List NodeId} {before after : List Visit}
    (walk : tree.DepthFirst depth first before) (later : tree.DepthFirst depth second after) :
    tree.DepthFirst depth (first ++ second) (before ++ after) := by
  induction walk with
  | done => exact later
  | visit down onward _ ih =>
      rw [List.cons_append, List.cons_append, List.append_assoc]
      exact .visit down (ih later)

theorem DepthFirst.exists_split {first second : List NodeId}
    (walk : tree.DepthFirst depth (first ++ second) visits) :
    ∃ before after, visits = before ++ after ∧ tree.DepthFirst depth first before ∧
      tree.DepthFirst depth second after := by
  induction first generalizing visits with
  | nil => exact ⟨[], visits, rfl, .done depth, walk⟩
  | cons id rest ih =>
      cases walk with
      | visit down onward =>
          obtain ⟨before, after, rfl, early, late⟩ := ih onward
          refine ⟨_, after, ?_, .visit down early, late⟩
          rw [List.cons_append, List.append_assoc]

/-- Only the children of the nodes that are met matter to a walk. -/
theorem DepthFirst.congr (walk : tree.DepthFirst depth ids visits)
    (same : ∀ visit ∈ visits, grown.children visit.node = tree.children visit.node) :
    grown.DepthFirst depth ids visits := by
  induction walk with
  | done depth => exact .done depth
  | visit down onward ihDown ihOnward =>
      apply DepthFirst.visit
      · rw [same _ List.mem_cons_self]
        exact ihDown fun visit member =>
          same visit (List.mem_cons_of_mem _ (List.mem_append_left _ member))
      · exact ihOnward fun visit member =>
          same visit (List.mem_cons_of_mem _ (List.mem_append_right _ member))

/-! ## The rightmost path -/

/-- The path from a node to its last child, to the last child of that, and so on
down to a node without children. -/
def Rightmost (tree : SymbolTree) : (id : NodeId) → (path : List NodeId) → Prop
  | id, [] => tree.children id = []
  | id, next :: rest => (tree.children id).getLast? = some next ∧ tree.Rightmost next rest

/-- One tree is another one with a node more, which has no children and is the
last child of its parent. -/
structure Grows (tree grown : SymbolTree) (parent new : NodeId) : Prop where
  children : ∀ id, grown.children id = tree.children id ++ if id = parent then [new] else []
  childless : grown.children new = []

namespace Grows

variable {parent new : NodeId}

theorem children_parent (grows : tree.Grows grown parent new) :
    grown.children parent = tree.children parent ++ [new] := by
  rw [grows.children, if_pos rfl]

theorem children_of_ne (grows : tree.Grows grown parent new) {id : NodeId} (other : id ≠ parent) :
    grown.children id = tree.children id := by
  rw [grows.children, if_neg other, List.append_nil]

end Grows

/-- Every node of the rightmost path stands at or after the one at its
beginning. -/
theorem Rightmost.le (wellFormed : tree.WellFormed) {id other : NodeId} {path : List NodeId}
    (rightmost : tree.Rightmost id path) (member : other ∈ id :: path) : id ≤ other := by
  induction path generalizing id with
  | nil => exact Nat.le_of_eq (List.mem_singleton.mp member).symm
  | cons next rest ih =>
      rcases List.mem_cons.mp member with rfl | below
      · exact Nat.le_refl _
      · have child := wellFormed.lt_of_mem_children (List.mem_of_getLast? rightmost.1)
        exact Nat.le_trans (Nat.le_of_lt child.1) (ih rightmost.2 below)

/-- A new last child of a node of the rightmost path ends the new one. -/
theorem Rightmost.grow (wellFormed : tree.WellFormed) {id parent new : NodeId}
    {path : List NodeId} {level : Nat} (rightmost : tree.Rightmost id path)
    (grows : tree.Grows grown parent new) (found : (id :: path)[level]? = some parent) :
    grown.Rightmost id (path.take level ++ [new]) := by
  induction level generalizing id path with
  | zero =>
      cases found
      rw [List.take_zero, List.nil_append]
      refine ⟨?_, grows.childless⟩
      rw [grows.children_parent, List.getLast?_concat]
  | succ level ih =>
      cases path with
      | nil => cases found
      | cons next rest =>
          have child := wellFormed.lt_of_mem_children (List.mem_of_getLast? rightmost.1)
          have below := rightmost.2.le wellFormed (List.mem_of_getElem? found)
          have notParent : id ≠ parent := Nat.ne_of_lt (Nat.lt_of_lt_of_le child.1 below)
          refine ⟨?_, ih rightmost.2 found⟩
          rw [grows.children_of_ne notParent]
          exact rightmost.1

/-- The walk through the last of some nodes comes after the walk through the
others. -/
theorem DepthFirst.exists_last {id : NodeId} {front : List NodeId}
    (walk : tree.DepthFirst depth (front ++ [id]) visits) :
    ∃ before below, visits = before ++ ⟨depth, id⟩ :: below ∧ tree.DepthFirst depth front before ∧
      tree.DepthFirst (depth + 1) (tree.children id) below := by
  obtain ⟨before, after, rfl, early, late⟩ := walk.exists_split
  cases late with
  | @visit _ _ _ below _ down onward =>
      cases onward
      exact ⟨before, below, by rw [List.append_nil], early, down⟩

theorem DepthFirst.last {id : NodeId} {front : List NodeId} {before below : List Visit}
    (early : tree.DepthFirst depth front before)
    (down : tree.DepthFirst (depth + 1) (tree.children id) below) :
    tree.DepthFirst depth (front ++ [id]) (before ++ ⟨depth, id⟩ :: below) := by
  have late := early.append (.visit down (.done depth))
  rwa [List.append_nil] at late

/-- A walk that ends with the rightmost path meets a node that is added to the
path after all others. -/
theorem DepthFirst.grow (wellFormed : tree.WellFormed) {id parent new : NodeId}
    {front path : List NodeId} {level : Nat} (walk : tree.DepthFirst depth (front ++ [id]) visits)
    (ascending : (visits.map Visit.node).Pairwise (· < ·)) (rightmost : tree.Rightmost id path)
    (grows : tree.Grows grown parent new) (found : (id :: path)[level]? = some parent) :
    grown.DepthFirst depth (front ++ [id]) (visits ++ [⟨depth + level + 1, new⟩]) := by
  induction level generalizing id path front depth visits with
  | zero =>
      have isParent : id = parent := Option.some.inj found
      subst isParent
      obtain ⟨before, below, rfl, early, down⟩ := walk.exists_last
      rw [List.map_append, List.map_cons, List.pairwise_append, List.pairwise_cons] at ascending
      obtain ⟨_, ⟨after, _⟩, earlier⟩ := ascending
      -- The walk meets the parent once, so nothing changes around it.
      have before' : grown.DepthFirst depth front before := early.congr fun visit member =>
        grows.children_of_ne
          (Nat.ne_of_lt (earlier _ (List.mem_map_of_mem member) _ List.mem_cons_self))
      have below' : grown.DepthFirst (depth + 1) (tree.children id) below :=
        down.congr fun visit member =>
          grows.children_of_ne (Nat.ne_of_gt (after _ (List.mem_map_of_mem member)))
      have leaf : grown.DepthFirst (depth + 2) (grown.children new) [] := by
        rw [grows.childless]
        exact .done (depth + 2)
      have inside := below'.last leaf
      rw [← grows.children_parent] at inside
      have whole := before'.last inside
      rw [List.append_assoc]
      exact whole
  | succ level ih =>
      cases path with
      | nil => cases found
      | cons next rest =>
          obtain ⟨before, below, rfl, early, down⟩ := walk.exists_last
          rw [List.map_append, List.map_cons, List.pairwise_append, List.pairwise_cons] at ascending
          obtain ⟨_, ⟨_, inOrder⟩, earlier⟩ := ascending
          have child := wellFormed.lt_of_mem_children (List.mem_of_getLast? rightmost.1)
          have beforeParent : id < parent :=
            Nat.lt_of_lt_of_le child.1 (rightmost.2.le wellFormed (List.mem_of_getElem? found))
          have before' : grown.DepthFirst depth front before := early.congr fun visit member =>
            grows.children_of_ne (Nat.ne_of_lt (Nat.lt_trans
              (earlier _ (List.mem_map_of_mem member) _ List.mem_cons_self) beforeParent))
          obtain ⟨others, children⟩ := List.getLast?_eq_some_iff.mp rightmost.1
          have inside := ih (children ▸ down) inOrder rightmost.2 found
          rw [← children, ← grows.children_of_ne (Nat.ne_of_lt beforeParent)] at inside
          have whole := before'.last inside
          have sameDepth : depth + 1 + level + 1 = depth + (level + 1) + 1 := by omega
          rw [sameDepth] at whole
          rw [List.append_assoc]
          exact whole

end SymbolTree

end Bindery
