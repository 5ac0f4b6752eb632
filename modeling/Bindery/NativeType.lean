import Bindery.NativeType.Spelling
import Bindery.SymbolTree.Query

/-!
# Native types

What a type link means for values that cross between script and native code.
The categories form a closed set: each one has its own way to check, convert
and return a value.

* `const` is transparent.
* A typedef stands for the type below it.  The category is the one found there;
  types that are held by value keep the name of the typedef.
* A string class, or a typedef named like one, is a string held by value.
* A pointer or reference looks through `const` and typedefs at its target.
-/

namespace Bindery

/-- The shapes of values that can be marshalled. -/
inductive Category where
  | void
  | numeric
  | boolean
  /-- A string class held by value. -/
  | ownedString
  /-- A pointer to plain characters. -/
  | cString
  | enumeration (node : NodeId)
  /-- A pointer to a class or structure. -/
  | handle (node : NodeId)
  /-- A reference to a class or structure. -/
  | byReference (node : NodeId)
  /-- A class or structure held by value. -/
  | object (node : NodeId)
  deriving DecidableEq, Repr

namespace Category

/-- Whether values of the category are held by value, so that the name of a
typedef may stand for the type. -/
def heldByValue : Category → Bool
  | .numeric | .boolean | .enumeration _ | .ownedString | .object _ => true
  | .void | .cString | .handle _ | .byReference _ => false

end Category

/-- A category with the spelling of the type. -/
structure NativeType where
  category : Category
  spelling : String
  deriving DecidableEq, Repr

/-! ## Names with a meaning -/

/-- The base types that are numbers. -/
def numericBaseTypes : List String :=
  ["int", "unsigned int", "short int", "short unsigned int", "long int",
   "long unsigned int", "long long int", "long long unsigned int", "char",
   "signed char", "unsigned char", "float", "double", "long double"]

/-- The typedefs that are numbers even when the type below them is missing. -/
def integerAliases : List String :=
  ["size_t", "ssize_t", "uintptr_t", "intptr_t", "int8_t", "int16_t", "int32_t",
   "int64_t", "uint8_t", "uint16_t", "uint32_t", "uint64_t"]

/-- The part of a name after its last `::`. -/
def lastSegment : List Char → List Char
  | [] => []
  | c :: rest =>
      if Text.contains [':', ':'] rest then lastSegment rest
      else
        match c, rest with
        | ':', ':' :: segment => segment
        | _, _ => c :: rest

/-- Whether a typedef of the name is a number by its name alone. -/
def isIntegerAlias (name : String) : Bool :=
  integerAliases.contains (String.ofList (lastSegment name.toList))

/-- Whether a record or typedef of the name is a string. -/
def isStringLike (name : String) : Bool :=
  name = "string" || name = "String" || SymbolTree.isStringTemplate name

namespace SymbolTree

/-- Whether a node is named like a string. -/
def isNamedString (tree : SymbolTree) (id : NodeId) : Bool :=
  (tree.node id).name.any isStringLike

/-! ## The target of a pointer or reference -/

/-- The type behind at most `steps` typedefs, each with the `const` in front of
it.  A typedef named like a string counts as the record that it names. -/
def underlyingIn (tree : SymbolTree) : (steps : Nat) → NodeId → Except Unbindable NodeId
  | 0, _ => .error .tooDeep
  | steps + 1, id =>
      match tree.withoutConst? id with
      | none => .error (.unsupportedPointer "const void")
      | some plain =>
          if (tree.node plain).tag ≠ .typedef then .ok plain
          else if tree.isNamedString plain then
            match tree.typeOf? plain with
            | none => .ok plain
            | some inner => .ok ((tree.withoutConst? inner).getD inner)
          else do
            let inner ← tree.wrapped plain
            tree.underlyingIn steps inner

/-- The spelling of a type that is refused, or its tag if it has no spelling. -/
def refusedSpelling (tree : SymbolTree) (id target : NodeId) : String :=
  match tree.spelling id with
  | .ok spelling => spelling
  | .error _ => (tree.node target).tag.word

/-- The native type of a pointer, whose target lies behind at most `steps`
typedefs. -/
def pointerType (tree : SymbolTree) (steps : Nat) (id : NodeId) :
    Except Unbindable NativeType :=
  match tree.typeOf? id with
  | none => .error (.unsupportedPointer "void*")
  | some pointee => do
      let target ← tree.underlyingIn steps pointee
      let node := tree.node target
      if node.tag = .baseType && node.name = some "char" then
        if (tree.node pointee).tag = .constType then
          return ⟨.cString, "const char*"⟩
        else
          return ⟨.cString, "char*"⟩
      else if node.tag.isRecord then
        return ⟨.handle target, (← tree.spelling pointee) ++ "*"⟩
      else
        .error (.unsupportedPointer (tree.refusedSpelling pointee target ++ "*"))

/-- The native type of a reference, whose target lies behind at most `steps`
typedefs. -/
def referenceType (tree : SymbolTree) (steps : Nat) (id : NodeId) :
    Except Unbindable NativeType := do
  let referent ← tree.wrapped id
  let target ← tree.underlyingIn steps referent
  if (tree.node target).tag.isRecord then
    let spelling ← tree.spelling target
    if tree.isNamedString target then
      return ⟨.ownedString, spelling⟩
    else
      return ⟨.byReference target, spelling ++ "&"⟩
  else
    .error (.unsupportedReference (tree.refusedSpelling referent target))

/-! ## The native type of a node -/

/-- The native type of a base type. -/
def baseType (node : Node) : Except Unbindable NativeType :=
  match node.name with
  | none => .error .anonymous
  | some name =>
      if name = "bool" then .ok ⟨.boolean, name⟩
      else if numericBaseTypes.contains name then .ok ⟨.numeric, name⟩
      else .error (.unknownBaseType name)

/-- The native type of a typedef without a resolved type below it. -/
def opaqueTypedef (node : Node) (name qualified : String) : Except Unbindable NativeType :=
  if isIntegerAlias name then .ok ⟨.numeric, qualified⟩
  else
    match node.link with
    | .raw text => .error (.unresolvedType text)
    | _ => .error (.opaqueTypedef name)

/-- A native type found below a typedef, under the name of the typedef where it
is held by value. -/
def renamed (native : NativeType) (qualified : String) : NativeType :=
  if native.category.heldByValue then { native with spelling := qualified } else native

/-- The native type of a node that is at most `links - 1` links deep. -/
def nativeTypeIn (tree : SymbolTree) : (links : Nat) → NodeId → Except Unbindable NativeType
  | 0, _ => .error .tooDeep
  | links + 1, id =>
      let node := tree.node id
      match node.tag with
      | .baseType => baseType node
      | .typedef =>
          match node.name with
          | none => .error .anonymous
          | some name => do
              let qualified ← tree.spelling id
              if isStringLike name then
                return ⟨.ownedString, qualified⟩
              match tree.typeOf? id with
              | none => opaqueTypedef node name qualified
              | some inner => return renamed (← tree.nativeTypeIn links inner) qualified
      | .constType => do
          let inner ← tree.wrapped id
          tree.nativeTypeIn links inner
      | .pointerType => tree.pointerType links id
      | .referenceType => tree.referenceType links id
      | .classType | .structureType => do
          let spelling ← tree.spelling id
          if tree.isNamedString id then
            return ⟨.ownedString, spelling⟩
          else
            return ⟨.object id, spelling⟩
      | .enumerationType => return ⟨.enumeration id, ← tree.spelling id⟩
      | tag => .error (.unknownTag tag)

/-- The native type that a link names.  No link is `void`. -/
def nativeType (tree : SymbolTree) (link : Link) : Except Unbindable NativeType :=
  match link with
  | .absent => .ok ⟨.void, "void"⟩
  | .raw text => .error (.unresolvedType text)
  | .target id => tree.nativeTypeIn (maxTypeDepth + 1) id

end SymbolTree

end Bindery
