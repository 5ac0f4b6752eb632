import Bindery.Proofs.CountDispatch
import Bindery.Proofs.LineEndings
import Bindery.Proofs.ReturnedObjects

/-!
# Calls of the wrap routine

Wrapping hands a native pointer over to scripts, so it must never be given a null
pointer or an object of another class.  The bindings of a class call the wrap
routine where a method gives back an object of the class, and at the end of the
constructor with the object that was just made.
-/

namespace Bindery

/-- A line wraps what a method returned or what a constructor made. -/
inductive CallsWrap : String → Prop
  | returned (wrapped : Wrapped) : CallsWrap (wrapCall wrapped.wording)
  | made : CallsWrap (wrapCall "native_ptr")

theorem CallsWrap.endsIn_wrapEndings {text : String} (calls : CallsWrap text) :
    EndsIn wrapEndings text := by
  cases calls with
  | returned wrapped =>
      rw [wrapCall_wording]
      exact Statement.endsIn_wrapEndings wrapped
  | made => decide

theorem CallsWrap.head? {text : String} (calls : CallsWrap text) :
    text.toList.head? = some 'r' := by
  cases calls <;>
  · unfold wrapCall
    simp [String.toList_append]

namespace SymbolTree

variable {tree : SymbolTree} {owner : NodeId} {names : ClassNames} {role : Role}
  {overloads : OverloadSet} {text : String}

end SymbolTree

/-! ## What entry points share -/

namespace ClassNames

variable {names : ClassNames} {text : String}

/-- The pieces of the destructor and the wrap routine. -/
def supportPieces (names : ClassNames) (methods : List String) : List Code :=
  names.destructorCode ++ [.blank] ++ names.wrapCode methods

/-- The pieces of the constructor of a class that scripts cannot construct. -/
def missingPieces (names : ClassNames) : List Code :=
  OverloadSet.comment
      [" * " ++ names.script ++ " (no constructor available from JavaScript)"] ++
    [.block (OverloadSet.constructorHeader names) "\x7d"
      [.line ("return jerry_create_error(JERRY_ERROR_TYPE, (const jerry_char_t*) \"" ++
        names.script ++ " cannot be constructed from JavaScript\");")]]

theorem allTexts_missingPieces (names : ClassNames) :
    Code.allTexts names.missingPieces =
      ["/**", " * " ++ names.script ++ " (no constructor available from JavaScript)", " */",
        "DECLARE_CLASS_CONSTRUCTOR(" ++ names.script ++ ") \x7b",
        "return jerry_create_error(JERRY_ERROR_TYPE, (const jerry_char_t*) \"" ++ names.script ++
          " cannot be constructed from JavaScript\");", "\x7d"] :=
  rfl

/-- The lines of the support text before those that attach methods. -/
def supportTop (names : ClassNames) : List String :=
  ["/**", " * " ++ names.script ++ "#destructor", " *",
    " * Called if/when the " ++ names.script ++ " is GC'ed.", " */",
    "void NAME_FOR_CLASS_NATIVE_DESTRUCTOR(" ++ names.script ++
      ")(const uintptr_t native_handle) \x7b",
    "delete reinterpret_cast<" ++ names.native ++ "*>(native_handle);", "\x7d", "", "/**",
    " * Wrap a native " ++ names.script ++ " in a JavaScript object.", " */",
    "jerry_value_t " ++ wrapRoutine ++ "(" ++ names.native ++ "* ptr) \x7b",
    "uintptr_t native_ptr = (uintptr_t) ptr;", "",
    "jerry_value_t js_object = jerry_create_object();",
    "jerry_set_object_native_handle(js_object, native_ptr, NAME_FOR_CLASS_NATIVE_DESTRUCTOR(" ++
      names.script ++ "));"]

theorem allTexts_supportPieces (names : ClassNames) (methods : List String) :
    Code.allTexts (names.supportPieces methods) =
      names.supportTop ++
        (Code.allTexts (if methods.isEmpty then [] else .blank :: methods.map names.attachCode) ++
          ["", "return js_object;", "\x7d"]) := by
  have destructor : Code.allTexts names.destructorCode = names.supportTop.take 8 := rfl
  have body : Code.allTexts (names.wrapCode methods) = names.supportTop.drop 9 ++
      (Code.allTexts (if methods.isEmpty then [] else .blank :: methods.map names.attachCode) ++
        ["", "return js_object;", "\x7d"]) := by
    simp only [wrapCode, Code.allTexts_append, Code.allTexts, Code.texts, List.append_nil,
      List.append_assoc]
    rfl
  rw [supportPieces, Code.allTexts_append, Code.allTexts_append, destructor, body,
    List.append_assoc, ← List.append_assoc]
  rfl

end ClassNames

/-! ## The constructor -/

namespace ClassNames

variable (names : ClassNames) (holds : String → Bool)

end ClassNames

namespace SymbolTree

variable {tree : SymbolTree} {owner : NodeId} {names : ClassNames} {overloads : OverloadSet}

end SymbolTree

end Bindery
