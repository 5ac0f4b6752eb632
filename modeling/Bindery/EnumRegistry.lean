import Bindery.Code
import Bindery.Diagnostic
import Bindery.SymbolTree.Query

/-!
# Enumerations for scripts

The enumerations that the kept bindings use become global objects of the
script.  Scripts know them by their plain names, so the first enumeration of a
name keeps it and another one of the same name is refused.
-/

namespace Bindery

/-- One enumeration as scripts see it. -/
structure EnumBinding where
  name : String
  node : NodeId
  address : String
  values : List Enumerator
  deriving DecidableEq, Repr

/-- Enumerations by name, in the order of their registration. -/
abbrev EnumRegistry := OrderedMap String EnumBinding

namespace EnumRegistry

/-- Register an enumeration.  The answer tells whether an entry was added. -/
def register (registry : EnumRegistry) (tree : SymbolTree) (id : NodeId) :
    EnumRegistry × Bool × Diagnostics :=
  let node := tree.node id
  match node.name with
  | none =>
      (registry, false, [Diagnostic.warning
        ("anonymous enumeration at <0x" ++ node.address ++ "> cannot be exported")])
  | some name =>
      match registry.get? name with
      | some first =>
          if first.node = id then (registry, false, [])
          else
            (registry, false, [Diagnostic.warning
              ("enumeration '" ++ name ++ "' at <0x" ++ node.address ++
                "> clashes with <0x" ++ first.address ++ ">; keeping the first")])
      | none =>
          let binding : EnumBinding :=
            { name, node := id, address := node.address, values := tree.enumerators id }
          (registry.insert name binding, true, [])

/-- Register enumerations one after another. -/
def registerAll (registry : EnumRegistry) (tree : SymbolTree) :
    List NodeId → EnumRegistry × Diagnostics
  | [] => (registry, [])
  | id :: rest =>
      let (next, _, findings) := register registry tree id
      let (last, later) := registerAll next tree rest
      (last, findings ++ later)

/-! ## Publishing -/

/-- A text as a script string. -/
def scriptString (text : String) : String :=
  "jerry_create_string((const jerry_char_t*)\"" ++ text ++ "\")"

/-- The property of a constant. -/
def constantCode (constant : Enumerator) : Code :=
  .line ("jerry_set_property(enum_obj, " ++ scriptString constant.name ++
    ", jerry_create_number((double) " ++ toString constant.value ++ "));")

/-- The block that publishes one enumeration as a global object. -/
def bindingCode (binding : EnumBinding) : Code :=
  .block "\x7b" "\x7d"
    ([.line "jerry_value_t enum_obj = jerry_create_object();", .blank] ++
      binding.values.map constantCode ++
      [.blank,
        .line "jerry_value_t global_obj = jerry_get_global_object();",
        .line ("jerry_set_property(global_obj, " ++ scriptString binding.name ++
          ", enum_obj);"),
        .line "jerry_release_value(global_obj);"])

/-- The setup routine of a script class. -/
def setupName (scriptName : String) : String :=
  "mbed_js_" ++ scriptName ++ "_setup()"

/-- The setup routine, which publishes every enumeration. -/
def setupText (registry : EnumRegistry) (scriptName : String) : String :=
  Code.render [.block ("void " ++ setupName scriptName ++ " \x7b") "\x7d"
    ((registry.values.map bindingCode).intersperse .blank)]

end EnumRegistry

end Bindery
