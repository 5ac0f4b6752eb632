import Bindery.SymbolTree.Basic

/-!
# Questions about a tree

What a reader of the symbols wants to know: which node is a class, who may use
a member, what a function takes, what a symbol is called in full, which values an
enumeration has, and which type stands behind a `const`.

A dump writes access as a number, as a word or as both: `1`, `1 (public)`.
-/

namespace Bindery

/-- Who may use a class member. -/
inductive Access where
  | isPublic
  | isProtected
  | isPrivate
  deriving DecidableEq, Repr

namespace Access

/-- Read the access that an attribute value states.  The words are looked for
anywhere in the value, the numbers must stand alone. -/
def ofValue? (value : String) : Option Access :=
  let chars := Text.trim value.toList
  if Text.contains "public".toList chars || chars = ['1'] then some .isPublic
  else if Text.contains "protected".toList chars || chars = ['2'] then some .isProtected
  else if Text.contains "private".toList chars || chars = ['3'] then some .isPrivate
  else none

end Access

/-- Whether an entry only announces what another entry defines. -/
def Node.isDeclaration (node : Node) : Bool :=
  (node.attributes.get? "declaration").any fun value => Text.trimmed value = "1"

/-- A named constant of an enumeration. -/
structure Enumerator where
  name : String
  value : Int
  deriving DecidableEq, Repr

namespace SymbolTree

/-! ## Classes and their members -/

/-- Whether a node is a class or structure of the given name. -/
def isClassNamed (tree : SymbolTree) (name : String) (id : NodeId) : Bool :=
  (tree.node id).tag.isRecord && (tree.node id).name = some name

/-- The class or structure of a name.  A definition wins over a mere
declaration, and among equals the first in the dump wins. -/
def findClass? (tree : SymbolTree) (name : String) : Option NodeId :=
  let candidates := tree.ids.filter (tree.isClassNamed name)
  (candidates.find? fun id => !(tree.node id).isDeclaration).or candidates.head?

/-- Who may use a class member.  Where the dump is silent, members of a
structure are public and all others private. -/
def access (tree : SymbolTree) (member : NodeId) : Access :=
  match ((tree.node member).attributes.get? "accessibility").bind Access.ofValue? with
  | some stated => stated
  | none =>
      match (tree.node member).parent.map fun parent => (tree.node parent).tag with
      | some .structureType => .isPublic
      | _ => .isPrivate

/-- The public member functions of a class in the order of their declaration. -/
def publicMembers (tree : SymbolTree) (owner : NodeId) : List NodeId :=
  (tree.children owner).filter fun id =>
    (tree.node id).tag = .subprogram && tree.access id = .isPublic

/-- The formal parameters of a function, its receiver included. -/
def parameters (tree : SymbolTree) (function : NodeId) : List NodeId :=
  (tree.children function).filter fun id => (tree.node id).tag = .formalParameter

/-! ## Full names -/

/-- At most `steps` nodes on the way from a parent up to the root. -/
def ancestorsFrom (tree : SymbolTree) : (steps : Nat) → Option NodeId → List NodeId
  | 0, _ => []
  | _ + 1, none => []
  | steps + 1, some id => id :: tree.ancestorsFrom steps (tree.node id).parent

/-- The nodes above a node, the nearest first.  Every parent stands before its
children, so the way up is no longer than the array of nodes. -/
def ancestors (tree : SymbolTree) (id : NodeId) : List NodeId :=
  tree.ancestorsFrom tree.nodes.size (tree.node id).parent

/-- The name that a node lends to what it encloses: namespaces and records do,
all other nodes do not. -/
def scopeName? (tree : SymbolTree) (id : NodeId) : Option String :=
  let node := tree.node id
  if node.tag = .nameSpace || node.tag.isRecord then node.name else none

/-- The name of a node with the names of the scopes around it, the outermost
first. -/
def qualifiedName? (tree : SymbolTree) (id : NodeId) : Option String :=
  (tree.node id).name.map fun name =>
    let scopes := (tree.ancestors id).filterMap tree.scopeName?
    "::".intercalate (scopes.reverse ++ [name])

/-! ## Enumerations -/

/-- The number that opens an attribute value, in base ten or after `0x` in base
sixteen. -/
def constant? (value : String) : Option Int := do
  let word ← Text.firstWord? value.toList
  match word with
  | '0' :: 'x' :: digits => Text.signed64? 16 digits
  | digits => Text.signed64? 10 digits

/-- The constant that a node at a position of its enumeration stands for.  A
value that is missing or cannot be read is the position. -/
def enumerator? (tree : SymbolTree) (position : Nat) (id : NodeId) : Option Enumerator :=
  (tree.node id).name.map fun name =>
    { name
      value :=
        (((tree.node id).attributes.get? "const_value").bind constant?).getD position }

/-- The named constants of an enumeration in the order of their declaration.
Positions count the constants without a name too. -/
def enumerators (tree : SymbolTree) (enumeration : NodeId) : List Enumerator :=
  (((tree.children enumeration).filter fun id =>
      (tree.node id).tag = .enumerator).zipIdx).filterMap fun (id, position) =>
    tree.enumerator? position id

/-! ## Looking through `const` -/

/-- The length of a run of `const` nodes that is not looked through any more. -/
def maxConstRun : Nat :=
  8

/-- The first node that is no `const`, found among the next `steps` nodes. -/
def withoutConstIn? (tree : SymbolTree) : (steps : Nat) → NodeId → Option NodeId
  | 0, _ => none
  | steps + 1, id =>
      if (tree.node id).tag = .constType then
        (tree.typeOf? id).bind (tree.withoutConstIn? steps)
      else some id

/-- The type behind a run of `const` nodes.  There is none when the run ends
without a type or is too long. -/
def withoutConst? (tree : SymbolTree) (id : NodeId) : Option NodeId :=
  tree.withoutConstIn? maxConstRun id

end SymbolTree

end Bindery
