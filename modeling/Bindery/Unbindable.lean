import Bindery.Tag

/-!
# Why a declaration cannot be bound

A declaration whose types cannot cross between script and native code is left
out of the bindings, with one of these reasons.  None of them stops a run.
-/

namespace Bindery

/-- The number of links after which a chain of types is given up. -/
def maxTypeDepth : Nat :=
  16

/-- Why the types of a declaration cannot be bound. -/
inductive Unbindable where
  /-- No rule covers the kind of type. -/
  | unknownTag (tag : Tag)
  /-- A type that wraps another one names none. -/
  | wrapsNothing (tag : Tag)
  | unknownBaseType (name : String)
  | unresolvedType (reference : String)
  | opaqueTypedef (name : String)
  | unsupportedPointer (spelling : String)
  | unsupportedReference (spelling : String)
  | unsupportedReturn (spelling : String)
  /-- The parameter at an index, the receiver not counted, has no type. -/
  | missingParameterType (index : Nat)
  | tooDeep
  | anonymous
  deriving DecidableEq, Repr

/-- The wording of a reason. -/
def Unbindable.message : Unbindable → String
  | .unknownTag tag => "unsupported type tag " ++ tag.word
  | .wrapsNothing tag => "unsupported type tag " ++ tag.word ++ " without a type"
  | .unknownBaseType name => "unknown base type '" ++ name ++ "'"
  | .unresolvedType reference => "unresolved type reference " ++ reference
  | .opaqueTypedef name => "typedef '" ++ name ++ "' has no underlying type"
  | .unsupportedPointer spelling => "unsupported pointer type '" ++ spelling ++ "'"
  | .unsupportedReference spelling => "unsupported reference type '" ++ spelling ++ "'"
  | .unsupportedReturn spelling => "cannot return '" ++ spelling ++ "' to JavaScript"
  | .missingParameterType index => "parameter " ++ toString index ++ " has no type"
  | .tooDeep => "type chain deeper than " ++ toString maxTypeDepth ++ " links"
  | .anonymous => "unnamed type"

end Bindery
