import Bindery.EntryPoint
import Bindery.EnumRegistry

/-!
# Bindings of a class

The public members of a class are taken in the order of their declaration.
Each one is bound, passed over or dropped with a reason.  Bound members are
grouped by name; of two members with the same name and the same number of
arguments the later one stays.

A group takes its place when the first member of its name is met, bound or
not.  Groups that stay empty are left out.
-/

namespace Bindery

/-! ## One declaration -/

/-- Why a public member is left out. -/
inductive DropReason where
  | rejected (reason : Rejection)
  | unbindable (reason : Unbindable)
  /-- A later member takes the same number of arguments. -/
  | replaced
  deriving DecidableEq, Repr

/-- The wording of a reason. -/
def DropReason.message : DropReason → String
  | .rejected reason => reason.message
  | .unbindable reason => reason.message
  | .replaced => "replaced by a later overload with the same argument count"

/-- What becomes of one declaration. -/
inductive Verdict where
  | skipped (kind : Skipped)
  | rejected (reason : Rejection)
  | unbindable (role : Role) (reason : Unbindable)
  | bound (role : Role) (overload : Overload)
  deriving DecidableEq, Repr

namespace SymbolTree

/-- What becomes of a declaration in a class. -/
def verdict (tree : SymbolTree) (owner function : NodeId) : Verdict :=
  match tree.memberKind owner function with
  | .skipped kind => .skipped kind
  | .rejected reason => .rejected reason
  | .bindable role =>
      match tree.lower owner function role with
      | .ok overload => .bound role overload
      | .error reason => .unbindable role reason

/-- The name under which a declaration is reported and bound. -/
def declaredName (tree : SymbolTree) (function : NodeId) : String :=
  (tree.node function).name.getD "<anonymous>"

/-- The public members of a class with what becomes of each. -/
def verdicts (tree : SymbolTree) (owner : NodeId) : List (String × Verdict) :=
  (tree.publicMembers owner).map fun function =>
    (tree.declaredName function, tree.verdict owner function)

end SymbolTree

/-! ## Grouping -/

/-- A public member left out of the bindings. -/
structure Dropped where
  name : String
  reason : DropReason
  deriving DecidableEq, Repr

/-- The groups gathered so far. -/
structure Draft where
  methods : OrderedMap String OverloadSet := {}
  constructors : OverloadSet := {}
  dropped : List Dropped := []
  findings : Diagnostics := []
  deriving DecidableEq, Repr

namespace Draft

/-- Leave a member out and say so. -/
def drop (draft : Draft) (scriptName name : String) (reason : DropReason) : Draft :=
  { draft with
    dropped := draft.dropped ++ [⟨name, reason⟩]
    findings := draft.findings ++ [Diagnostic.warning
      (scriptName ++ "#" ++ name ++ " not bound: " ++ reason.message)] }

/-- The group of a method name, empty if there is none yet. -/
def methodGroup (draft : Draft) (name : String) : OverloadSet :=
  (draft.methods.get? name).getD {}

/-- The group that a declaration belongs to. -/
def group (draft : Draft) (name : String) : Role → OverloadSet
  | .constructor => draft.constructors
  | .method => draft.methodGroup name

/-- Put a group in its place. -/
def withGroup (draft : Draft) (name : String) (role : Role) (group : OverloadSet) : Draft :=
  match role with
  | .constructor => { draft with constructors := group }
  | .method => { draft with methods := draft.methods.insert name group }

/-- Take the next declaration into account. -/
def add (scriptName : String) (draft : Draft) (declaration : String × Verdict) : Draft :=
  let (name, verdict) := declaration
  match verdict with
  | .skipped kind =>
      { draft with
        findings := draft.findings ++ [Diagnostic.info
          (scriptName ++ "#" ++ name ++ " skipped: " ++ kind.word)] }
  | .rejected reason => draft.drop scriptName name (.rejected reason)
  | .unbindable role reason =>
      (draft.withGroup name role (draft.group name role)).drop scriptName name
        (.unbindable reason)
  | .bound role overload =>
      let group := draft.group name role
      let next := draft.withGroup name role (group.insert overload.arity overload)
      if group.contains overload.arity then next.drop scriptName name .replaced else next

/-- The groups of all declarations. -/
def ofVerdicts (scriptName : String) (declarations : List (String × Verdict)) : Draft :=
  declarations.foldl (add scriptName) {}

/-- The groups of methods that hold an overload. -/
def keptMethods (draft : Draft) : List (String × OverloadSet) :=
  draft.methods.entries.filter fun group => !group.2.isEmpty

/-- The enumerations of all kept overloads, methods before constructors. -/
def enumerations (draft : Draft) : List NodeId :=
  (draft.keptMethods.map Prod.snd ++ [draft.constructors]).flatMap fun group =>
    group.values.flatMap Overload.enumerations

end Draft

/-! ## The bindings -/

/-- One entry point. -/
structure FunctionBinding where
  name : String
  role : Role
  /-- The numbers of arguments in ascending order. -/
  arities : List Nat
  text : String
  deriving DecidableEq, Repr

/-- All that is generated for a class. -/
structure ClassBindings where
  /-- The class as the dump names it. -/
  className : String
  names : ClassNames
  functions : List FunctionBinding
  dropped : List Dropped
  enums : EnumRegistry
  /-- The text of the methods, the shared routines and the constructor. -/
  source : String
  deriving DecidableEq, Repr

namespace ClassNames

/-- The entry point of a group of methods. -/
def methodBinding (names : ClassNames) (group : String × OverloadSet) : FunctionBinding :=
  let overloads := OverloadSet.sorted group.2
  { name := group.1
    role := .method
    arities := overloads.keys
    text := OverloadSet.methodText overloads names group.1 }

/-- The entry point of a group of constructors. -/
def constructorBinding (names : ClassNames) (group : OverloadSet) : FunctionBinding :=
  let overloads := OverloadSet.sorted group
  { name := constructorName
    role := .constructor
    arities := overloads.keys
    text :=
      if overloads.isEmpty then names.missingConstructorText
      else OverloadSet.constructorText overloads names }

/-- The warning about a class that scripts cannot construct. -/
def constructorFindings (names : ClassNames) (group : OverloadSet) : Diagnostics :=
  if group.isEmpty then
    [Diagnostic.warning (names.script ++ " has no usable public constructor")]
  else []

end ClassNames

namespace SymbolTree

/-- The names of a class.  Native code needs the name with its scopes. -/
def classNames (tree : SymbolTree) (owner : NodeId) (scriptName : String) : ClassNames where
  script := scriptName
  native := (tree.qualifiedName? owner).getD ((tree.node owner).name.getD "")

/-- The bindings of a class under a script name, with what was found. -/
def bindings (tree : SymbolTree) (owner : NodeId) (scriptName : String) :
    ClassBindings × Diagnostics :=
  let names := tree.classNames owner scriptName
  let draft := Draft.ofVerdicts scriptName (tree.verdicts owner)
  let (enums, clashes) := EnumRegistry.registerAll {} tree draft.enumerations
  let methods := draft.keptMethods.map names.methodBinding
  let constructor := names.constructorBinding draft.constructors
  let support := names.supportText (draft.keptMethods.map Prod.fst)
  ({ className := (tree.node owner).name.getD ""
     names
     functions := methods ++ [constructor]
     dropped := draft.dropped
     enums
     source :=
       "\n\n".intercalate
         (methods.map FunctionBinding.text ++ [support, constructor.text]) },
    draft.findings ++ clashes ++ names.constructorFindings draft.constructors)

end SymbolTree

end Bindery
