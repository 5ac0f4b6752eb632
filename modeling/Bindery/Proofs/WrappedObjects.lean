import Bindery.Proofs.WrapCalls

/-!
# Wrapped objects

What the bindings of a class wrap for scripts: objects of the class alone, and
never a null pointer.  A method gives back what its type allows, and the
constructor hands over what it has just made.
-/

namespace Bindery

/-! ## Methods -/

namespace SymbolTree

variable {tree : SymbolTree} {owner : NodeId} {names : ClassNames} {function : FunctionBinding}
  {overloads : OverloadSet}

end SymbolTree

end Bindery
