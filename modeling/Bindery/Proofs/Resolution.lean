import Bindery.Proofs.TreeShape
import Bindery.SymbolTree.Query
import Bindery.SymbolTree.Resolution

/-!
# What resolving changes

Resolving turns some raw links into links to nodes and leaves all else as it
is.  The target of a link is the last entry at the address that the link
refers to.
-/

namespace Bindery.SymbolTree

/-- The entry that the text of a raw link refers to. -/
def referent? (tree : SymbolTree) (text : String) : Option NodeId :=
  (reference? text.toList).bind fun digits =>
    tree.ids.reverse.find? fun id => (tree.node id).address = addressKey (String.ofList digits)

/-- The link of a node after resolving. -/
def settledLink (tree : SymbolTree) : Link → Link
  | .raw text => ((tree.referent? text).map Link.target).getD (.raw text)
  | link => link

/-- What one step of resolving makes of a node. -/
theorem settle_eq (tree : SymbolTree) (node : Node) :
    (match resolution tree.addressIndex node with
      | .linked target => { node with link := .target target }
      | _ => node) = { node with link := tree.settledLink node.link } := by
  cases link : node.link with
  | absent =>
      simp only [resolution, link, settledLink]
      rw [← link]
  | target other =>
      simp only [resolution, link, settledLink]
      rw [← link]
  | raw text =>
      simp only [resolution, link, settledLink, referent?]
      cases reference? text.toList with
      | none =>
          simp only [Option.bind_none, Option.map_none, Option.getD_none]
          rw [← link]
      | some digits =>
          simp only [getElem?_addressIndex, Option.bind_some]
          cases tree.ids.reverse.find? fun id =>
              (tree.node id).address = addressKey (String.ofList digits) with
          | none =>
              simp only [Option.map_none, Option.getD_none]
              rw [← link]
          | some target => rfl

/-- A node after resolving differs at most in its link. -/
theorem node_resolve (tree : SymbolTree) (id : NodeId) :
    tree.resolve.tree.node id =
      { tree.node id with link := tree.settledLink (tree.node id).link } := by
  rw [← settle_eq, node, node, Array.getD_eq_getD_getElem?, Array.getD_eq_getD_getElem?, resolve]
  rw [Array.getElem?_map]
  cases tree.nodes[id]? with
  | none => rfl
  | some node => rfl

theorem size_resolve (tree : SymbolTree) : tree.resolve.tree.nodes.size = tree.nodes.size :=
  Array.size_map

theorem ids_resolve (tree : SymbolTree) : tree.resolve.tree.ids = tree.ids := by
  rw [ids, size, size_resolve]
  rfl

theorem children_resolve (tree : SymbolTree) (id : NodeId) :
    tree.resolve.tree.children id = tree.children id := by
  rw [children, node_resolve]
  rfl

/-- Classes are found without regard to links. -/
theorem findClass?_resolve (tree : SymbolTree) (name : String) :
    tree.resolve.tree.findClass? name = tree.findClass? name := by
  have named : tree.resolve.tree.isClassNamed name = tree.isClassNamed name := by
    funext id
    rw [isClassNamed, node_resolve]
    rfl
  have declared : (fun id => !(tree.resolve.tree.node id).isDeclaration) =
      fun id => !(tree.node id).isDeclaration := by
    funext id
    rw [node_resolve]
    rfl
  simp only [findClass?, ids_resolve, named, declared]

theorem WellFormed.resolve {tree : SymbolTree} (wellFormed : tree.WellFormed) :
    tree.resolve.tree.WellFormed where
  nonempty := by
    rw [size_resolve]
    exact wellFormed.nonempty
  root := by
    have noLink : (tree.node 0).link = .absent :=
      Node.eq_of_withoutChildren wellFormed.root Node.link fun _ => rfl
    have settled : tree.settledLink (tree.node 0).link = (tree.node 0).link := by
      rw [noLink]
      rfl
    rw [node_resolve, settled]
    exact wellFormed.root
  parent := by
    intro id positive inside
    rw [size_resolve] at inside
    rw [node_resolve]
    exact wellFormed.parent id positive inside
  mem_children_iff := by
    intro id child
    rw [children_resolve, size_resolve, node_resolve]
    exact wellFormed.mem_children_iff id child

theorem mem_ids_of_referent? {tree : SymbolTree} {text : String} {target : NodeId}
    (found : tree.referent? text = some target) : target ∈ tree.ids := by
  obtain ⟨digits, _, found⟩ := Option.bind_eq_some_iff.mp found
  exact List.mem_reverse.mp (List.mem_of_find?_eq_some found)

/-- Every link to a node leads to an entry. -/
def Closed (tree : SymbolTree) : Prop :=
  ∀ id target, (tree.node id).link = .target target → target ∈ tree.ids

theorem closed_resolve {tree : SymbolTree}
    (unresolved : ∀ id target, (tree.node id).link ≠ .target target) :
    tree.resolve.tree.Closed := by
  intro id target named
  rw [ids_resolve]
  rw [node_resolve] at named
  dsimp only at named
  cases link : (tree.node id).link with
  | absent =>
      rw [link] at named
      cases named
  | target other => exact absurd link (unresolved id other)
  | raw text =>
      rw [link] at named
      simp only [settledLink] at named
      cases found : tree.referent? text with
      | none =>
          rw [found] at named
          cases named
      | some other =>
          rw [found] at named
          cases named
          exact mem_ids_of_referent? found

end Bindery.SymbolTree
