import Bindery.Record

/-!
# Symbol trees

The entries of a dump as a tree.  All nodes stand in one array and refer to
each other by their place in it.  Place zero holds a root that is no entry of
the dump; the entries follow in document order.

A node owns its children.  Its link to a type is only a reference, so links may
run in circles: a class has members that take a pointer to the class.
-/

namespace Bindery

/-- The place of a node in its tree. -/
abbrev NodeId := Nat

/-- The type reference of a node. -/
inductive Link where
  /-- The entry has no type, as with a function that returns nothing. -/
  | absent
  /-- The reference as it stood in the dump, not yet or never resolved. -/
  | raw (text : String)
  /-- The reference names a node. -/
  | target (node : NodeId)
  deriving DecidableEq, Repr

namespace Link

/-- The node that a link names. -/
def node? : Link → Option NodeId
  | .target node => some node
  | _ => none

end Link

/-- One symbol. -/
structure Node where
  /-- The depth of the entry; the root is one level above the first. -/
  level : Int
  address : String
  abbreviation : UInt32
  tag : Tag
  name : Option String
  fullName : Option String
  /-- The attributes of the entry apart from its type. -/
  attributes : OrderedMap String String
  link : Link
  children : Array NodeId
  /-- The index of the header line, which the root does not have. -/
  line : Option Nat
  parent : Option NodeId
  deriving DecidableEq, Repr

namespace Node

/-- The node above every entry. -/
def root : Node where
  level := -1
  address := ""
  abbreviation := 0
  tag := .other "root"
  name := none
  fullName := none
  attributes := {}
  link := .absent
  children := #[]
  line := none
  parent := none

/-- The greatest level that a node can carry. -/
def maxLevel : Nat :=
  Int32.maxValue.toInt.toNat

/-- The childless node of a record below a parent.  The attribute `type`
becomes the link. -/
def ofRecord (record : Record) (parent : NodeId) : Node where
  level := min record.level.toNat maxLevel
  address := record.address
  abbreviation := record.abbreviation
  tag := record.tag
  name := record.name
  fullName := record.fullName
  attributes := record.attributes.erase "type"
  link :=
    match record.attributes.get? "type" with
    | some text => .raw text
    | none => .absent
  children := #[]
  line := some record.line
  parent := some parent

/-- A node with one more child after the others. -/
def withChild (child : NodeId) (node : Node) : Node :=
  { node with children := node.children.push child }

end Node

/-- The symbols of a dump. -/
structure SymbolTree where
  nodes : Array Node
  deriving DecidableEq, Repr

namespace SymbolTree

/-- The node at a place.  A place past the end reads as a root, which no link
names. -/
def node (tree : SymbolTree) (id : NodeId) : Node :=
  tree.nodes.getD id Node.root

/-- The number of entries. -/
def size (tree : SymbolTree) : Nat :=
  tree.nodes.size - 1

/-- Whether the dump left no entry. -/
def isEmpty (tree : SymbolTree) : Bool :=
  tree.size = 0

/-- The places of the entries in document order. -/
def ids (tree : SymbolTree) : List NodeId :=
  List.range' 1 tree.size

theorem mem_ids_iff (tree : SymbolTree) (id : Nat) :
    id ∈ tree.ids ↔ 0 < id ∧ id < tree.nodes.size := by
  simp only [ids, size, List.mem_range'_1]
  omega

/-- The children of a node in document order. -/
def children (tree : SymbolTree) (id : NodeId) : List NodeId :=
  (tree.node id).children.toList

/-- The node that the type of a node names. -/
def typeOf? (tree : SymbolTree) (id : NodeId) : Option NodeId :=
  (tree.node id).link.node?

/-! ## Addresses -/

/-- An address without the marks `0x` in front of it. -/
def withoutHexMark : List Char → List Char
  | '0' :: 'x' :: rest => withoutHexMark rest
  | digits => digits

/-- The form in which an address is compared: without `0x` and in lower case. -/
def addressKey (address : String) : String :=
  String.ofList ((withoutHexMark address.toList).map Char.toLower)

/-- The last entry at an address, which may carry `0x` and be written in any
letter case. -/
def lookup? (tree : SymbolTree) (address : String) : Option NodeId :=
  tree.ids.reverse.find? fun id => (tree.node id).address = addressKey address

end SymbolTree

end Bindery
