import Bindery.Json
import Bindery.SymbolTree.Basic

/-!
# A subtree as JSON

A node is shown as an object with its fields, its attributes, its type and its
children.  Children are shown in full.  A type is shown in place, without its
children and only to a given depth of links; the link after the last one is
shown as an address, so types that refer to themselves come to an end.
-/

namespace Bindery.SymbolTree

/-- The members of an object under construction. -/
abbrev Members := OrderedMap String Json

/-- The fields and attributes of a node.  An attribute takes the place of a
field of the same name. -/
def fields (node : Node) : Members :=
  let base : Members := ⟨[
    ("level", .number node.level),
    ("address", .string node.address),
    ("tag", .string node.tag.name)]⟩
  let named :=
    match node.name with
    | some name => base.insert "name" (.string name)
    | none => base
  let full :=
    match node.fullName with
    | some name => named.insert "fullName" (.string name)
    | none => named
  node.attributes.entries.foldl
    (fun members entry => members.insert entry.1 (.string entry.2)) full

/-- An address in the form of a raw link. -/
def addressText (address : String) : String :=
  "<0x" ++ address ++ ">"

/-- The fields of a node with its type, which is shown in place to the given
depth. -/
def typedFields (tree : SymbolTree) (depth : Nat) (id : NodeId) : Members :=
  let members := fields (tree.node id)
  match (tree.node id).link, depth with
  | .absent, _ => members
  | .raw text, _ => members.insert "type" (.string text)
  | .target target, 0 =>
      members.insert "type" (.string (addressText (tree.node target).address))
  | .target target, depth + 1 =>
      members.insert "type" (.object (tree.typedFields depth target).entries)

/-- The object of a node with the objects of its descendants down to the given
number of generations. -/
def viewTo (tree : SymbolTree) (depth : Nat) : (generations : Nat) → NodeId → Json
  | 0, id => .object ((tree.typedFields depth id).insert "children" (.array [])).entries
  | generations + 1, id =>
      let children := (tree.children id).map (tree.viewTo depth generations)
      .object ((tree.typedFields depth id).insert "children" (.array children)).entries

/-- The object of a node and all its descendants, with types shown in place to
the given depth of links.  A tree has no more generations than nodes. -/
def view (tree : SymbolTree) (id : NodeId) (depth : Nat) : Json :=
  tree.viewTo depth tree.nodes.size id

end Bindery.SymbolTree
