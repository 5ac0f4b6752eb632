import Bindery.Marshal
import Bindery.MemberKind

/-!
# Overloads

A bindable declaration lowered to statements, and the set of all declarations
of one name.  A script call is told apart by its number of arguments alone, so
a set holds one overload for each number.
-/

namespace Bindery

/-- One declaration lowered to statements. -/
structure Overload where
  /-- The plans of the arguments, the receiver not counted. -/
  arguments : List ArgumentPlan
  /-- The plan of the call, which a constructor does without. -/
  result : Option ResultPlan
  /-- The enumerations among the types of the parameters and the result. -/
  enumerations : List NodeId
  deriving DecidableEq, Repr

namespace Overload

/-- The number of arguments of a script call. -/
def arity (overload : Overload) : Nat :=
  overload.arguments.length

/-- The statements that make native values of all arguments. -/
def conversions (overload : Overload) : List Statement :=
  overload.arguments.flatMap ArgumentPlan.conversion

/-- The statements that undo the conversions after the call. -/
def cleanups (overload : Overload) : List Statement :=
  overload.arguments.flatMap ArgumentPlan.cleanup

/-- The call of a method with what follows it. -/
def callAndReturn (overload : Overload) : List Statement :=
  match overload.result with
  | none => []
  | some plan => plan.call ++ overload.cleanups ++ plan.giveBack

/-- The whole body of a method. -/
def methodBody (overload : Overload) : List Statement :=
  overload.conversions ++ overload.callAndReturn

/-- The making of a native object by a constructor.  The pointer is declared
there when no other overload shares it. -/
def construction (overload : Overload) (record : String) (declares : Bool) :
    List Statement :=
  overload.conversions ++
    [if declares then .declareNew record overload.arity
     else .assignNew record overload.arity] ++
    overload.cleanups

end Overload

/-- The overloads of one name by their number of arguments. -/
abbrev OverloadSet := OrderedMap Nat Overload

namespace OverloadSet

/-- Whether the first of two entries has no more arguments. -/
def arityAtMost (first second : Nat × Overload) : Bool :=
  first.1 ≤ second.1

/-- The overloads in ascending order of their numbers of arguments. -/
def sorted (overloads : OverloadSet) : OverloadSet :=
  ⟨overloads.entries.mergeSort arityAtMost⟩

end OverloadSet

/-! ## Lowering a declaration -/

namespace SymbolTree

/-- The enumeration that a native type is, if it is one. -/
def enumerationOf : NativeType → List NodeId
  | ⟨.enumeration node, _⟩ => [node]
  | _ => []

/-- Lower parameters, of which the first is the argument at an index.  The
answer holds the plans and the enumerations in order; the first parameter that
cannot be lowered decides the reason. -/
def lowerParameters (tree : SymbolTree) (index : Nat) :
    List NodeId → Except Unbindable (List ArgumentPlan × List NodeId)
  | [] => .ok ([], [])
  | parameter :: rest => do
      let native ← tree.nativeType (tree.node parameter).link
      let plan ← tree.argumentPlan native index
      let (plans, enumerations) ← tree.lowerParameters (index + 1) rest
      return (plan :: plans, enumerationOf native ++ enumerations)

/-- The call of a method on the receiver. -/
def methodCall (name : String) (arity : Nat) : String :=
  "native_ptr->" ++ name ++ "(" ++ argumentList arity ++ ")"

/-- Lower a declaration in its role.  The receiver is not an argument. -/
def lower (tree : SymbolTree) (owner function : NodeId) (role : Role) :
    Except Unbindable Overload := do
  let (plans, enumerations) ←
    tree.lowerParameters 0 ((tree.parameters function).drop 1)
  match role with
  | .constructor => return { arguments := plans, result := none, enumerations }
  | .method =>
      match (tree.node function).name with
      | none => .error .anonymous
      | some name =>
          let native ← tree.nativeType (tree.node function).link
          let plan ← tree.resultPlan owner native (methodCall name plans.length)
          return {
            arguments := plans
            result := some plan
            enumerations := enumerations ++ enumerationOf native
          }

end SymbolTree

end Bindery
