import Bindery.Code

/-!
# Statements

The statements of which the bodies of bindings are made.  They are kept as data
until a body is written, so that it can be said of a body what it allocates,
frees, checks and returns.

Script values arrive in the array `args`; the native value made of the script
value at an index is named `arg` with that index.
-/

namespace Bindery

/-- The routine that wraps a native pointer in a script object. -/
def wrapRoutine : String :=
  "mbed_js_wrap_native_object"

/-- The native value of the argument at an index. -/
def argumentName (index : Nat) : String :=
  "arg" ++ toString index

/-- The script value of the argument at an index. -/
def scriptValue (index : Nat) : String :=
  "args[" ++ toString index ++ "]"

/-- The native values of a number of arguments, as they are passed on. -/
def argumentList (count : Nat) : String :=
  ", ".intercalate ((List.range count).map argumentName)

/-- What is wrapped in a script object. -/
inductive Wrapped where
  /-- The pointer in `result`. -/
  | result
  /-- The pointer in `result` without its `const`. -/
  | withoutConst (record : String)
  /-- A copy on the heap of the value in `result`. -/
  | copy (record : String)
  deriving DecidableEq, Repr

/-- One statement of a body. -/
inductive Statement where
  | bindNumber (index : Nat) (type : String)
  | bindBoolean (index : Nat)
  | measureString (index : Nat)
  | allocateBuffer (index : Nat)
  | fillBuffer (index : Nat)
  | terminateBuffer (index : Nat)
  /-- Make a string object of a buffer. -/
  | bindOwnedString (index : Nat) (type : String)
  /-- Take a buffer as a string. -/
  | bindCString (index : Nat) (type : String)
  | freeBuffer (index : Nat)
  | declareHandle (index : Nat)
  | readHandle (index : Nat)
  | bindPointer (index : Nat) (type : String)
  | bindReference (index : Nat) (record : String)
  /-- Call without a result. -/
  | call (expression : String)
  /-- Call and keep the result. -/
  | callFor (type expression : String)
  /-- Make a new native object of all arguments and declare its pointer. -/
  | declareNew (record : String) (arguments : Nat)
  /-- Make a new native object of all arguments for a declared pointer. -/
  | assignNew (record : String) (arguments : Nat)
  /-- Return `null` when `result` is a null pointer. -/
  | returnNullIfNull
  | returnUndefined
  | returnNumber
  | returnBoolean
  | returnOwnedString
  | returnCString
  | returnWrapped (wrapped : Wrapped)
  deriving DecidableEq, Repr

/-- The expression of what is wrapped. -/
def Wrapped.expression : Wrapped → String
  | .result => "result"
  | .withoutConst record => "const_cast<" ++ record ++ "*>(result)"
  | .copy record => "new " ++ record ++ "(result)"

namespace Statement

/-- Whether a statement always ends its body. -/
def returns : Statement → Bool
  | .returnUndefined | .returnNumber | .returnBoolean | .returnOwnedString
  | .returnCString | .returnWrapped _ => true
  | _ => false

/-- The text of a statement. -/
def code : Statement → Code
  | .bindNumber index type =>
      .line (type ++ " " ++ argumentName index ++ " = static_cast<" ++ type ++
        ">(jerry_get_number_value(" ++ scriptValue index ++ "));")
  | .bindBoolean index =>
      .line ("bool " ++ argumentName index ++ " = jerry_get_boolean_value(" ++
        scriptValue index ++ ");")
  | .measureString index =>
      .line ("jerry_size_t " ++ argumentName index ++ "_size = jerry_get_string_size(" ++
        scriptValue index ++ ");")
  | .allocateBuffer index =>
      .line ("char* " ++ argumentName index ++ "_buffer = (char*) malloc(" ++
        argumentName index ++ "_size + 1);")
  | .fillBuffer index =>
      .line ("jerry_string_to_char_buffer(" ++ scriptValue index ++ ", (jerry_char_t*) " ++
        argumentName index ++ "_buffer, " ++ argumentName index ++ "_size);")
  | .terminateBuffer index =>
      .line (argumentName index ++ "_buffer[" ++ argumentName index ++ "_size] = '\\0';")
  | .bindOwnedString index type =>
      .line (type ++ " " ++ argumentName index ++ "(" ++ argumentName index ++ "_buffer);")
  | .bindCString index type =>
      .line (type ++ " " ++ argumentName index ++ " = " ++ argumentName index ++ "_buffer;")
  | .freeBuffer index => .line ("free(" ++ argumentName index ++ "_buffer);")
  | .declareHandle index => .line ("uintptr_t " ++ argumentName index ++ "_handle;")
  | .readHandle index =>
      .line ("jerry_get_object_native_handle(" ++ scriptValue index ++ ", &" ++
        argumentName index ++ "_handle);")
  | .bindPointer index type =>
      .line (type ++ " " ++ argumentName index ++ " = reinterpret_cast<" ++ type ++ ">(" ++
        argumentName index ++ "_handle);")
  | .bindReference index record =>
      .line (record ++ "& " ++ argumentName index ++ " = *reinterpret_cast<" ++ record ++
        "*>(" ++ argumentName index ++ "_handle);")
  | .call expression => .line (expression ++ ";")
  | .callFor type expression => .line (type ++ " result = " ++ expression ++ ";")
  | .declareNew record arguments =>
      .line (record ++ "* native_ptr = new " ++ record ++ "(" ++ argumentList arguments ++ ");")
  | .assignNew record arguments =>
      .line ("native_ptr = new " ++ record ++ "(" ++ argumentList arguments ++ ");")
  | .returnNullIfNull =>
      .block "if (result == NULL) \x7b" "\x7d" [.line "return jerry_create_null();"]
  | .returnUndefined => .line "return jerry_create_undefined();"
  | .returnNumber => .line "return jerry_create_number((double) result);"
  | .returnBoolean => .line "return jerry_create_boolean(result);"
  | .returnOwnedString =>
      .line ("return jerry_create_string_sz((const jerry_char_t*) result.c_str(), " ++
        "result.size());")
  | .returnCString => .line "return jerry_create_string((const jerry_char_t*) result);"
  | .returnWrapped wrapped =>
      .line ("return " ++ wrapRoutine ++ "(" ++ wrapped.expression ++ ");")

/-- The lines of a statement that is nested in nothing. -/
def lines (statement : Statement) : List String :=
  statement.code.linesAt 0

end Statement

end Bindery
