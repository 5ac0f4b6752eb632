import Bindery.SymbolTree.Query
import Bindery.Unbindable

/-!
# Spelling types

How a type is written in C++: a name with its scopes, or the wrapped type with
the mark of the wrapper.
-/

namespace Bindery.SymbolTree

/-- The way in which library strings are named by their template. -/
def isStringTemplate (name : String) : Bool :=
  (Text.after? "basic_string<char".toList name.toList).isSome

/-- The node that a wrapping type wraps. -/
def wrapped (tree : SymbolTree) (id : NodeId) : Except Unbindable NodeId :=
  match (tree.node id).link with
  | .target inner => .ok inner
  | .raw text => .error (.unresolvedType text)
  | .absent => .error (.wrapsNothing (tree.node id).tag)

/-- The spelling of a type that is at most `links - 1` wrappers deep. -/
def spellingIn (tree : SymbolTree) : (links : Nat) → NodeId → Except Unbindable String
  | 0, _ => .error .tooDeep
  | links + 1, id =>
      let node := tree.node id
      match node.tag with
      | .pointerType =>
          match tree.typeOf? id with
          | some inner => do return (← tree.spellingIn links inner) ++ "*"
          | none => .ok "void*"
      | .referenceType => do
          let inner ← tree.wrapped id
          return (← tree.spellingIn links inner) ++ "&"
      | .constType =>
          match tree.typeOf? id with
          | some inner => do return "const " ++ (← tree.spellingIn links inner)
          | none => .ok "const void"
      | .baseType => node.name.elim (.error .anonymous) .ok
      | tag =>
          if tag.isRecord && node.name.any isStringTemplate then .ok "std::string"
          else (tree.qualifiedName? id).elim (.error .anonymous) .ok

/-- The spelling of a named type or of a chain of pointers, references and
`const`. -/
def spelling (tree : SymbolTree) (id : NodeId) : Except Unbindable String :=
  tree.spellingIn (maxTypeDepth + 1) id

end Bindery.SymbolTree
