import Bindery.NativeType
import Bindery.Statement

/-!
# Marshalling

How each category of native types crosses between script and native code.  An
*argument plan* checks a script value and makes a native value of it; a *result
plan* calls the native function and makes a script value of its result.

A script string is copied into a buffer.  A string object has its own copy, so
the buffer is freed at once; a C string is the buffer, which is freed after the
call.
-/

namespace Bindery

/-- The kinds of script values that an argument may be asked to have. -/
inductive ScriptType where
  | number
  | boolean
  | string
  | object
  deriving DecidableEq, Repr

/-- The word for a kind of script values in an argument check. -/
def ScriptType.word : ScriptType → String
  | .number => "number"
  | .boolean => "boolean"
  | .string => "string"
  | .object => "object"

/-- How one argument is checked and converted. -/
structure ArgumentPlan where
  check : ScriptType
  /-- The statements that make the native value. -/
  conversion : List Statement
  /-- The statements after the native call. -/
  cleanup : List Statement
  deriving DecidableEq, Repr

/-- How a native function is called and its result returned. -/
structure ResultPlan where
  call : List Statement
  giveBack : List Statement
  deriving DecidableEq, Repr

/-- Copy a script string into a buffer. -/
def bufferString (index : Nat) : List Statement :=
  [.measureString index, .allocateBuffer index, .fillBuffer index, .terminateBuffer index]

/-- Read the native pointer of a script object. -/
def readPointer (index : Nat) : List Statement :=
  [.declareHandle index, .readHandle index]

namespace SymbolTree

/-- The plan for the argument at an index. -/
def argumentPlan (tree : SymbolTree) (native : NativeType) (index : Nat) :
    Except Unbindable ArgumentPlan :=
  match native.category with
  | .void => .error (.missingParameterType index)
  | .numeric | .enumeration _ =>
      .ok {
        check := .number
        conversion := [.bindNumber index native.spelling]
        cleanup := []
      }
  | .boolean =>
      .ok {
        check := .boolean
        conversion := [.bindBoolean index]
        cleanup := []
      }
  | .ownedString =>
      .ok {
        check := .string
        conversion :=
          bufferString index ++ [.bindOwnedString index native.spelling, .freeBuffer index]
        cleanup := []
      }
  | .cString =>
      .ok {
        check := .string
        conversion := bufferString index ++ [.bindCString index native.spelling]
        cleanup := [.freeBuffer index]
      }
  | .handle _ =>
      .ok {
        check := .object
        conversion := readPointer index ++ [.bindPointer index native.spelling]
        cleanup := []
      }
  | .byReference node | .object node => do
      let record ← tree.spelling node
      return {
        check := .object
        conversion := readPointer index ++ [.bindReference index record]
        cleanup := []
      }

/-- Whether two records are the same.  A declaration and a definition of one
record are separate nodes with one qualified name. -/
def sameRecord (tree : SymbolTree) (first second : NodeId) : Bool :=
  first = second ||
    (tree.qualifiedName? first).any fun name => tree.qualifiedName? second = some name

/-- What is wrapped when a pointer to a record is returned. -/
def wrappedPointer (native : NativeType) (record : String) : Wrapped :=
  if native.spelling = record ++ "*" then .result else .withoutConst record

/-- The statements that return the value in `result`.  A record can be wrapped
only if it is the class that the bindings are for. -/
def giveBack (tree : SymbolTree) (owner : NodeId) (native : NativeType) :
    Except Unbindable (List Statement) :=
  match native.category with
  | .void => .ok [.returnUndefined]
  | .numeric | .enumeration _ => .ok [.returnNumber]
  | .boolean => .ok [.returnBoolean]
  | .ownedString => .ok [.returnOwnedString]
  | .cString => .ok [.returnNullIfNull, .returnCString]
  | .handle node =>
      if tree.sameRecord node owner then do
        let record ← tree.spelling node
        return [.returnNullIfNull, .returnWrapped (wrappedPointer native record)]
      else .error (.unsupportedReturn native.spelling)
  | .object node =>
      if tree.sameRecord node owner then do
        let record ← tree.spelling node
        return [.returnWrapped (.copy record)]
      else .error (.unsupportedReturn native.spelling)
  | .byReference _ => .error (.unsupportedReturn native.spelling)

/-- The plan for a call and its result. -/
def resultPlan (tree : SymbolTree) (owner : NodeId) (native : NativeType)
    (expression : String) : Except Unbindable ResultPlan := do
  let giveBack ← tree.giveBack owner native
  let call :=
    if native.category = .void then Statement.call expression
    else .callFor native.spelling expression
  return { call := [call], giveBack }

end SymbolTree

end Bindery
