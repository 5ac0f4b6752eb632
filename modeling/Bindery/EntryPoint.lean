import Bindery.Overload
import Bindery.Text.Blank

/-!
# Entry points

The functions through which scripts reach a class: one for each method name,
and one constructor.  An entry point first checks the number and the types of
its arguments and then runs the overload for that number.

With a single overload the checks are unconditional and the body stands by
itself.  With several overloads each check names its number of arguments, and
each body stands in a block of its own.
-/

namespace Bindery

/-- The name under which constructors are registered. -/
def constructorName : String :=
  "__constructor"

/-- How a class is called by scripts and in native code. -/
structure ClassNames where
  script : String
  native : String
  deriving DecidableEq, Repr

/-! ## Checks -/

/-- A check at the beginning of an entry point. -/
inductive Guard where
  /-- The number of arguments is one of those listed. -/
  | count (arities : List Nat)
  /-- The argument at an index has a type. -/
  | always (index : Nat) (check : ScriptType)
  /-- The argument at an index has a type, if there are so many arguments. -/
  | onCount (index : Nat) (check : ScriptType) (arity : Nat)
  deriving DecidableEq, Repr

/-- The condition that the number of arguments is the given one. -/
def countTest (arity : Nat) : String :=
  "args_count == " ++ toString arity

/-- The text of a check in the entry point of a name. -/
def Guard.code (names : ClassNames) (name : String) : Guard → Code
  | .count arities =>
      .line ("CHECK_ARGUMENT_COUNT(" ++ names.script ++ ", " ++ name ++ ", (" ++
        " || ".intercalate (arities.map countTest) ++ "));")
  | .always index check =>
      .line ("CHECK_ARGUMENT_TYPE_ALWAYS(" ++ names.script ++ ", " ++ name ++ ", " ++
        toString index ++ ", " ++ check.word ++ ");")
  | .onCount index check arity =>
      .line ("CHECK_ARGUMENT_TYPE_ON_CONDITION(" ++ names.script ++ ", " ++ name ++ ", " ++
        toString index ++ ", " ++ check.word ++ ", (" ++ countTest arity ++ "));")

namespace OverloadSet

/-- The checks of the argument types of one overload. -/
def typeGuards (single : Bool) (overload : Overload) : List Guard :=
  overload.arguments.zipIdx.map fun (plan, index) =>
    if single then .always index plan.check
    else .onCount index plan.check overload.arity

/-- The checks of an entry point: first the number, then the types. -/
def guards (overloads : OverloadSet) : List Guard :=
  .count overloads.keys ::
    overloads.values.flatMap (typeGuards (overloads.size = 1))

/-! ## Bodies -/

/-- A comment above a function. -/
def comment (lines : List String) : List Code :=
  [.line "/**"] ++ lines.map Code.line ++ [.line " */"]

/-- The body of one method overload.  A blank line sets the conversions
apart. -/
def methodCode (overload : Overload) : List Code :=
  overload.conversions.map Statement.code ++
    (if overload.arguments.isEmpty then [] else [.blank]) ++
    overload.callAndReturn.map Statement.code

/-- The block that runs an overload for its number of arguments. -/
def countBlock (overload : Overload) (body : List Code) : Code :=
  .block ("if (" ++ countTest overload.arity ++ ") \x7b") "\x7d" body

/-- The choice among the overloads of a method. -/
def methodDispatch (overloads : OverloadSet) : List Code :=
  match overloads.values with
  | [overload] => methodCode overload
  | several =>
      several.map (fun overload => countBlock overload (methodCode overload)) ++
        [.blank, Statement.returnUndefined.code]

/-- The choice among the overloads of a constructor. -/
def constructorDispatch (overloads : OverloadSet) (record : String) : List Code :=
  match overloads.values with
  | [overload] => (overload.construction record true).map Statement.code
  | several =>
      .line (record ++ "* native_ptr = NULL;") ::
        several.map fun overload =>
          countBlock overload ((overload.construction record false).map Statement.code)

/-- The entry point of a method. -/
def methodText (overloads : OverloadSet) (names : ClassNames) (name : String) : String :=
  Text.trimmedEnd (Code.render
    (comment [" * " ++ names.script ++ "#" ++ name ++ " (native JavaScript method)"] ++
      [.block ("DECLARE_CLASS_FUNCTION(" ++ names.script ++ ", " ++ name ++ ") \x7b") "\x7d"
        (overloads.guards.map (Guard.code names name) ++
          [.blank,
            .line "uintptr_t ptr_val;",
            .line "jerry_get_object_native_handle(this_obj, &ptr_val);",
            .line (names.native ++ "* native_ptr = reinterpret_cast<" ++ names.native ++
              "*>(ptr_val);"),
            .blank] ++
          methodDispatch overloads)]))

/-- The line that opens a constructor. -/
def constructorHeader (names : ClassNames) : String :=
  "DECLARE_CLASS_CONSTRUCTOR(" ++ names.script ++ ") \x7b"

/-- The entry point of a constructor. -/
def constructorText (overloads : OverloadSet) (names : ClassNames) : String :=
  Text.trimmedEnd (Code.render
    (comment [" * " ++ names.script ++ " (native JavaScript constructor)"] ++
      [.block (constructorHeader names) "\x7d"
        (overloads.guards.map (Guard.code names constructorName) ++
          [.blank] ++
          constructorDispatch overloads names.native ++
          [.blank, .line ("return " ++ wrapRoutine ++ "(native_ptr);")])]))

end OverloadSet

namespace ClassNames

/-- The entry point of a class that scripts cannot construct. -/
def missingConstructorText (names : ClassNames) : String :=
  Text.trimmedEnd (Code.render
    (OverloadSet.comment
        [" * " ++ names.script ++ " (no constructor available from JavaScript)"] ++
      [.block (OverloadSet.constructorHeader names) "\x7d"
        [.line ("return jerry_create_error(JERRY_ERROR_TYPE, (const jerry_char_t*) \"" ++
          names.script ++ " cannot be constructed from JavaScript\");")]]))

/-- The line that attaches a method to a script object. -/
def attachCode (names : ClassNames) (method : String) : Code :=
  .line ("ATTACH_CLASS_FUNCTION(js_object, " ++ names.script ++ ", " ++ method ++ ");")

/-- The routine that runs when a script object is collected. -/
def destructorCode (names : ClassNames) : List Code :=
  OverloadSet.comment [
      " * " ++ names.script ++ "#destructor",
      " *",
      " * Called if/when the " ++ names.script ++ " is GC'ed."] ++
    [.block
      ("void NAME_FOR_CLASS_NATIVE_DESTRUCTOR(" ++ names.script ++
        ")(const uintptr_t native_handle) \x7b") "\x7d"
      [.line ("delete reinterpret_cast<" ++ names.native ++ "*>(native_handle);")]]

/-- The routine that wraps a native pointer and attaches every method. -/
def wrapCode (names : ClassNames) (methods : List String) : List Code :=
  OverloadSet.comment [" * Wrap a native " ++ names.script ++ " in a JavaScript object."] ++
    [.block ("jerry_value_t " ++ wrapRoutine ++ "(" ++ names.native ++ "* ptr) \x7b") "\x7d"
      ([.line "uintptr_t native_ptr = (uintptr_t) ptr;",
          .blank,
          .line "jerry_value_t js_object = jerry_create_object();",
          .line ("jerry_set_object_native_handle(js_object, native_ptr, " ++
            "NAME_FOR_CLASS_NATIVE_DESTRUCTOR(" ++ names.script ++ "));")] ++
        (if methods.isEmpty then [] else .blank :: methods.map names.attachCode) ++
        [.blank, .line "return js_object;"])]

/-- What the entry points of a class share: the destructor and the wrapper. -/
def supportText (names : ClassNames) (methods : List String) : String :=
  Text.trimmedEnd (Code.render
    (names.destructorCode ++ [.blank] ++ names.wrapCode methods))

end ClassNames

end Bindery
