import Bindery.SymbolTree.Query

/-!
# Kinds of class members

A dump lists every member function with its hidden receiver as the first
parameter.  Constructors, methods and the members that are never bound are told
apart by name and by type; the rules are tried in a fixed order, so exactly one
kind applies.
-/

namespace Bindery

/-- Why a function is no member that could be bound. -/
inductive Rejection where
  | unnamedClass
  | unnamedFunction
  | notAReceiver
  | noReceiver
  deriving DecidableEq, Repr

/-- The wording of a rejection. -/
def Rejection.message : Rejection → String
  | .unnamedClass => "owning class has no name"
  | .unnamedFunction => "function has no name"
  | .notAReceiver => "first parameter is not a receiver pointer"
  | .noReceiver => "no receiver parameter (static or free function)"

/-- The two kinds of functions that are bound. -/
inductive Role where
  | constructor
  | method
  deriving DecidableEq, Repr

/-- The kinds of functions that are passed over without a warning. -/
inductive Skipped where
  | copyConstructor
  | destructor
  | operator
  deriving DecidableEq, Repr

/-- The word for a kind that is passed over. -/
def Skipped.word : Skipped → String
  | .copyConstructor => "CopyConstructor"
  | .destructor => "Destructor"
  | .operator => "Operator"

/-- What a function is to a class. -/
inductive MemberKind where
  | bindable (role : Role)
  | skipped (kind : Skipped)
  | rejected (reason : Rejection)
  deriving DecidableEq, Repr

/-- Whether functions of a kind get bindings. -/
def MemberKind.isBindable : MemberKind → Bool
  | .bindable _ => true
  | .skipped _ | .rejected _ => false

/-! ## Names -/

/-- A class name up to its template arguments. -/
def baseChars (name : List Char) : List Char :=
  Text.trimEnd (name.takeWhile fun c => c != '<')

/-- A class name up to its template arguments, as a string. -/
def baseName (name : String) : String :=
  String.ofList (baseChars name.toList)

namespace SymbolTree

/-! ## Types of parameters and results -/

/-- Whether a link is a pointer to a class.  The pointer and the class may both
be `const`. -/
def isPointerTo (tree : SymbolTree) (link : Link) (owner : NodeId) : Bool :=
  match link.node?.bind tree.withoutConst? with
  | none => false
  | some pointer =>
      (tree.node pointer).tag = .pointerType &&
        (tree.typeOf? pointer).bind tree.withoutConst? = some owner

/-- Whether a link is exactly a reference to a `const` class. -/
def isConstReferenceTo (tree : SymbolTree) (link : Link) (owner : NodeId) : Bool :=
  match link.node? with
  | none => false
  | some reference =>
      (tree.node reference).tag = .referenceType &&
        match tree.typeOf? reference with
        | none => false
        | some qualified =>
            (tree.node qualified).tag = .constType && tree.typeOf? qualified = some owner

/-! ## The kind of a function -/

/-- The kind of a function that is named like no special member. -/
def receiverKind (tree : SymbolTree) (owner : NodeId) : (parameters : List NodeId) → MemberKind
  | [] => .rejected .noReceiver
  | receiver :: _ =>
      if tree.isPointerTo (tree.node receiver).link owner then .bindable .method
      else .rejected .notAReceiver

/-- Whether the parameters are a receiver and a `const` reference to the
class. -/
def copiesOwner (tree : SymbolTree) (owner : NodeId) : (parameters : List NodeId) → Bool
  | [_, source] => tree.isConstReferenceTo (tree.node source).link owner
  | _ => false

/-- What a function is to a class. -/
def memberKind (tree : SymbolTree) (owner function : NodeId) : MemberKind :=
  match (tree.node owner).name, (tree.node function).name with
  | none, _ => .rejected .unnamedClass
  | some _, none => .rejected .unnamedFunction
  | some className, some name =>
      let base := baseChars className.toList
      let parameters := tree.parameters function
      if (Text.after? "operator".toList name.toList).isSome then .skipped .operator
      else if (Text.after? ['~'] name.toList).any fun rest => baseChars rest = base then
        .skipped .destructor
      else if baseChars name.toList = base && tree.copiesOwner owner parameters then
        .skipped .copyConstructor
      else if baseChars name.toList = base &&
          tree.isPointerTo (tree.node function).link owner then
        .bindable .constructor
      else tree.receiverKind owner parameters

end SymbolTree

end Bindery
