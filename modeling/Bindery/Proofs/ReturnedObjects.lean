import Bindery.Proofs.Bindability
import Bindery.Proofs.Plans

/-!
# What methods give back

An object is wrapped for scripts only if it is of the class that is bound.  A
pointer is tested before, and loses its `const` if it points at a constant
object; an object that is held by value is copied.
-/

namespace Bindery

/-! ## How returns are written -/

/-- What is wrapped, as it is written. -/
def Wrapped.wording : Wrapped → String
  | .result => "result"
  | .withoutConst record => "const_cast<" ++ record ++ "*>(result)"
  | .copy record => "new " ++ record ++ "(result)"

/-- The line that wraps what an expression stands for. -/
def wrapCall (expression : String) : String :=
  "return mbed_js_wrap_native_object(" ++ expression ++ ");"

theorem wrapCall_wording (wrapped : Wrapped) :
    wrapCall wrapped.wording = "return " ++ wrapRoutine ++ "(" ++ wrapped.expression ++ ");" := by
  have routine : "return " ++ wrapRoutine ++ "(" = "return mbed_js_wrap_native_object(" := rfl
  rw [routine]
  cases wrapped <;> rfl

namespace SymbolTree

variable {tree : SymbolTree}

/-! ## What a pointer points at -/

/-- The type behind a pointer, which itself may stand behind `const` and
typedefs. -/
inductive PointsAt (tree : SymbolTree) : NodeId → NodeId → Prop
  | pointer {id pointee : NodeId} (tag : (tree.node id).tag = .pointerType)
      (typed : tree.typeOf? id = some pointee) : PointsAt tree id pointee
  | const {id inner pointee : NodeId} (tag : (tree.node id).tag = .constType)
      (typed : tree.typeOf? id = some inner) (below : PointsAt tree inner pointee) :
      PointsAt tree id pointee
  | typedef {id inner pointee : NodeId} (tag : (tree.node id).tag = .typedef)
      (typed : tree.typeOf? id = some inner) (below : PointsAt tree inner pointee) :
      PointsAt tree id pointee

end SymbolTree

end Bindery
