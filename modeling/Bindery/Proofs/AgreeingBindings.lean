import Bindery.ClassBindings
import Bindery.Proofs.Agreement
import Bindery.Proofs.Draft
import Bindery.Proofs.NativeType

/-!
# Bindings of trees that agree

Two trees that agree on what a class leads to give it the same members, lower
each member to the same statements and register the same enumerations.
-/

namespace Bindery

/-- The node that a category speaks of. -/
def Category.node? : Category → Option NodeId
  | .enumeration node | .handle node | .byReference node | .object node => some node
  | .void | .numeric | .boolean | .ownedString | .cString => none

namespace SymbolTree.Agree

variable {first second : SymbolTree} {seen : NodeId → Prop}

/-! ## Nodes that native types speak of -/

theorem seen_of_unqualified (agree : Agree first second seen) {id target : NodeId}
    {links : List Wrapper} (inside : seen id) (reached : first.Unqualified id links target) :
    seen target := by
  induction reached with
  | here => exact inside
  | const _ typed _ ih => exact ih (agree.seen_of_typeOf? inside typed)

theorem seen_of_reaches (agree : Agree first second seen) {id target : NodeId}
    {links : List Wrapper} (inside : seen id) (reached : first.Reaches id links target) :
    seen target := by
  induction reached with
  | here => exact inside
  | const _ typed _ ih | typedef _ _ typed _ ih => exact ih (agree.seen_of_typeOf? inside typed)
  | stringTypedef _ _ typed below =>
      exact agree.seen_of_unqualified (agree.seen_of_typeOf? inside typed) below

/-- The rules of native types follow links, so the node that a type speaks of is
seen. -/
theorem seen_of_denotes (agree : Agree first second seen) {id node : NodeId} {walk : Walk}
    {native : NativeType} (inside : seen id) (denotes : first.Denotes id walk native)
    (named : native.category.node? = some node) : seen node := by
  induction denotes with
  | const _ typed _ ih | typedef _ _ _ typed _ _ ih =>
      exact ih (agree.seen_of_typeOf? inside typed) named
  | handle _ typed reached =>
      cases named
      exact agree.seen_of_reaches (agree.seen_of_typeOf? inside typed) reached
  | reference _ typed reached =>
      split at named
      · cases named
      · cases named
        exact agree.seen_of_reaches (agree.seen_of_typeOf? inside typed) reached
  | record =>
      split at named
      · cases named
      · cases named
        exact inside
  | enumeration =>
      cases named
      exact inside
  | boolean | numeric | stringTypedef | integerTypedef | text => cases named

/-! ## Plans -/

theorem nativeType (agree : Agree first second seen) {link : Link}
    (closed : ∀ target, link = .target target → seen target) :
    second.nativeType link = first.nativeType link := by
  cases link with
  | absent => rfl
  | raw text => rfl
  | target id => exact agree.nativeTypeIn (maxTypeDepth + 1) (closed id rfl)

theorem seen_of_nativeType (agree : Agree first second seen) {link : Link} {native : NativeType}
    {node : NodeId} (closed : ∀ target, link = .target target → seen target)
    (found : first.nativeType link = .ok native) (named : native.category.node? = some node) :
    seen node := by
  obtain ⟨_, denotes⟩ := linkDenotes_of_nativeType found
  cases denotes with
  | absent => cases named
  | target denotes => exact agree.seen_of_denotes (closed _ rfl) denotes named

theorem argumentPlan (agree : Agree first second seen) {native : NativeType}
    (closed : ∀ node, native.category.node? = some node → seen node) (index : Nat) :
    second.argumentPlan native index = first.argumentPlan native index := by
  rcases native with ⟨category, spelling⟩
  cases category with
  | byReference node | object node =>
      simp only [SymbolTree.argumentPlan, agree.spelling (closed node rfl)]
  | _ => rfl

theorem sameRecord (agree : Agree first second seen) {record owner : NodeId}
    (recordInside : seen record) (ownerInside : seen owner) :
    second.sameRecord record owner = first.sameRecord record owner := by
  rw [SymbolTree.sameRecord, SymbolTree.sameRecord, agree.qualifiedName? record recordInside,
    agree.qualifiedName? owner ownerInside]

theorem resultPlan (agree : Agree first second seen) {owner : NodeId} (inside : seen owner)
    {native : NativeType} (closed : ∀ node, native.category.node? = some node → seen node)
    (expression : String) :
    second.resultPlan owner native expression = first.resultPlan owner native expression := by
  have sameReturn : second.giveBack owner native = first.giveBack owner native := by
    rcases native with ⟨category, spelling⟩
    cases category with
    | handle node | object node =>
        simp only [SymbolTree.giveBack, agree.sameRecord (closed node rfl) inside,
          agree.spelling (closed node rfl)]
    | _ => rfl
  rw [SymbolTree.resultPlan, SymbolTree.resultPlan, sameReturn]

/-! ## Children of a kind -/

/-- Children chosen so that no hidden function is among them. -/
theorem filter_children (agree : Agree first second seen) {id : NodeId} (inside : seen id)
    (keeps : SymbolTree → NodeId → Bool)
    (same : ∀ child, seen child → keeps second child = keeps first child)
    (shown : ∀ tree child, tree.Hidden child → keeps tree child = false) :
    (second.children id).filter (keeps second) = (first.children id).filter (keeps first) := by
  have children : second.children id = first.children id :=
    congrArg (fun node => node.children.toList) (agree.node id inside)
  rw [children]
  apply List.filter_congr
  intro child member
  rcases agree.child id inside child member with childSeen | ⟨hidden, alsoHidden⟩
  · exact same child childSeen
  · rw [shown second child alsoHidden, shown first child hidden]

theorem seen_of_mem_filter (agree : Agree first second seen) {id child : NodeId}
    (inside : seen id) (keeps : SymbolTree → NodeId → Bool)
    (shown : ∀ tree child, tree.Hidden child → keeps tree child = false)
    (member : child ∈ (first.children id).filter (keeps first)) : seen child := by
  rcases List.mem_filter.mp member with ⟨inChildren, kept⟩
  rcases agree.child id inside child inChildren with childSeen | ⟨hidden, _⟩
  · exact childSeen
  · rw [shown first child hidden] at kept
    contradiction

/-- No hidden function is a child of another kind. -/
theorem shown_of_tag {tag : Tag} (other : tag ≠ .subprogram) (tree : SymbolTree) (child : NodeId)
    (hidden : tree.Hidden child) : decide ((tree.node child).tag = tag) = false := by
  rw [hidden.1]
  exact decide_eq_false (Ne.symm other)

theorem parameters (agree : Agree first second seen) {function : NodeId}
    (inside : seen function) : second.parameters function = first.parameters function := by
  apply agree.filter_children inside fun tree id => (tree.node id).tag = .formalParameter
  · intro child childSeen
    rw [agree.node child childSeen]
  · exact shown_of_tag (by decide)

theorem seen_of_mem_parameters (agree : Agree first second seen) {function parameter : NodeId}
    (inside : seen function) (member : parameter ∈ first.parameters function) :
    seen parameter :=
  agree.seen_of_mem_filter inside (fun tree id => (tree.node id).tag = .formalParameter)
    (shown_of_tag (by decide)) member

theorem publicMembers (agree : Agree first second seen) {owner : NodeId} (inside : seen owner) :
    second.publicMembers owner = first.publicMembers owner := by
  apply agree.filter_children inside fun tree id =>
    (tree.node id).tag = .subprogram && tree.access id = .isPublic
  · intro child childSeen
    rw [agree.node child childSeen, agree.access child childSeen]
  · intro tree child hidden
    simp [hidden.2]

theorem seen_of_mem_publicMembers (agree : Agree first second seen) {owner function : NodeId}
    (inside : seen owner) (member : function ∈ first.publicMembers owner) : seen function := by
  apply agree.seen_of_mem_filter inside
    (fun tree id => (tree.node id).tag = .subprogram && tree.access id = .isPublic) _ member
  intro tree child hidden
  simp [hidden.2]

theorem enumerators (agree : Agree first second seen) {enumeration : NodeId}
    (inside : seen enumeration) : second.enumerators enumeration = first.enumerators enumeration := by
  have constants : ((second.children enumeration).filter fun id =>
        (second.node id).tag = .enumerator) =
      (first.children enumeration).filter fun id => (first.node id).tag = .enumerator := by
    apply agree.filter_children inside fun tree id => (tree.node id).tag = .enumerator
    · intro child childSeen
      rw [agree.node child childSeen]
    · exact shown_of_tag (by decide)
  rw [SymbolTree.enumerators, SymbolTree.enumerators, constants]
  apply List.filterMap_congr
  rintro ⟨id, position⟩ member
  have idSeen : seen id :=
    agree.seen_of_mem_filter inside (fun tree id => (tree.node id).tag = .enumerator)
      (shown_of_tag (by decide)) (List.fst_mem_of_mem_zipIdx member)
  simp only [enumerator?, agree.node id idSeen]

/-! ## Members -/

theorem isPointerTo (agree : Agree first second seen) {link : Link}
    (closed : ∀ target, link = .target target → seen target) (owner : NodeId) :
    second.isPointerTo link owner = first.isPointerTo link owner := by
  cases link with
  | absent => rfl
  | raw text => rfl
  | target id =>
      have idSeen := closed id rfl
      simp only [SymbolTree.isPointerTo, Link.node?, Option.bind_some,
        agree.withoutConst? idSeen]
      cases found : first.withoutConst? id with
      | none => rfl
      | some pointer =>
          have pointerSeen := agree.seen_of_withoutConst? idSeen found
          simp only [agree.node pointer pointerSeen, agree.typeOf? pointerSeen]
          cases named : first.typeOf? pointer with
          | none => rfl
          | some target =>
              simp only [Option.bind_some,
                agree.withoutConst? (agree.seen_of_typeOf? pointerSeen named)]

theorem isConstReferenceTo (agree : Agree first second seen) {link : Link}
    (closed : ∀ target, link = .target target → seen target) (owner : NodeId) :
    second.isConstReferenceTo link owner = first.isConstReferenceTo link owner := by
  cases link with
  | absent => rfl
  | raw text => rfl
  | target id =>
      have idSeen := closed id rfl
      simp only [SymbolTree.isConstReferenceTo, Link.node?, agree.node id idSeen,
        agree.typeOf? idSeen]
      cases named : first.typeOf? id with
      | none => rfl
      | some qualified =>
          have qualifiedSeen := agree.seen_of_typeOf? idSeen named
          simp only [agree.node qualified qualifiedSeen, agree.typeOf? qualifiedSeen]

theorem receiverKind (agree : Agree first second seen) (owner : NodeId)
    {parameters : List NodeId} (allSeen : ∀ parameter ∈ parameters, seen parameter) :
    second.receiverKind owner parameters = first.receiverKind owner parameters := by
  cases parameters with
  | nil => rfl
  | cons receiver rest =>
      have receiverSeen := allSeen receiver List.mem_cons_self
      rw [SymbolTree.receiverKind, SymbolTree.receiverKind, agree.node receiver receiverSeen,
        agree.isPointerTo (agree.target receiver receiverSeen)]

theorem copiesOwner (agree : Agree first second seen) (owner : NodeId)
    {parameters : List NodeId} (allSeen : ∀ parameter ∈ parameters, seen parameter) :
    second.copiesOwner owner parameters = first.copiesOwner owner parameters := by
  rcases parameters with _ | ⟨receiver, _ | ⟨source, _ | ⟨other, rest⟩⟩⟩
  · rfl
  · rfl
  · have sourceSeen := allSeen source (by simp)
    rw [SymbolTree.copiesOwner, SymbolTree.copiesOwner, agree.node source sourceSeen,
      agree.isConstReferenceTo (agree.target source sourceSeen)]
  · rfl

theorem memberKind (agree : Agree first second seen) {owner function : NodeId}
    (ownerInside : seen owner) (inside : seen function) :
    second.memberKind owner function = first.memberKind owner function := by
  have allSeen : ∀ parameter ∈ first.parameters function, seen parameter :=
    fun parameter member => agree.seen_of_mem_parameters inside member
  simp only [SymbolTree.memberKind, agree.node owner ownerInside, agree.node function inside,
    agree.parameters inside, agree.isPointerTo (agree.target function inside),
    agree.receiverKind owner allSeen, agree.copiesOwner owner allSeen]

theorem lowerParameters (agree : Agree first second seen) (index : Nat)
    {parameters : List NodeId} (allSeen : ∀ parameter ∈ parameters, seen parameter) :
    second.lowerParameters index parameters = first.lowerParameters index parameters := by
  induction parameters generalizing index with
  | nil => rfl
  | cons parameter rest ih =>
      have linkClosed := agree.target parameter (allSeen parameter List.mem_cons_self)
      rw [SymbolTree.lowerParameters, SymbolTree.lowerParameters,
        agree.node parameter (allSeen parameter List.mem_cons_self), agree.nativeType linkClosed,
        ih (index + 1) fun other member => allSeen other (List.mem_cons_of_mem _ member)]
      apply bind_congr_of_ok
      intro native found
      rw [agree.argumentPlan (fun node named => agree.seen_of_nativeType linkClosed found named)]

theorem lower (agree : Agree first second seen) {owner function : NodeId}
    (ownerInside : seen owner) (inside : seen function) (role : Role) :
    second.lower owner function role = first.lower owner function role := by
  have allSeen : ∀ parameter ∈ (first.parameters function).drop 1, seen parameter :=
    fun parameter member => agree.seen_of_mem_parameters inside (List.mem_of_mem_drop member)
  have linkClosed := agree.target function inside
  simp only [SymbolTree.lower, agree.parameters inside, agree.lowerParameters 0 allSeen,
    agree.node function inside, agree.nativeType linkClosed]
  apply bind_congr_of_ok
  rintro ⟨plans, enumerations⟩ _
  cases role with
  | constructor => rfl
  | method =>
      cases (first.node function).name with
      | none => rfl
      | some name =>
          apply bind_congr_of_ok
          intro native found
          rw [agree.resultPlan ownerInside fun node named =>
            agree.seen_of_nativeType linkClosed found named]

theorem verdicts (agree : Agree first second seen) {owner : NodeId} (inside : seen owner) :
    second.verdicts owner = first.verdicts owner := by
  rw [SymbolTree.verdicts, SymbolTree.verdicts, agree.publicMembers inside]
  apply List.map_congr_left
  intro function member
  have functionSeen := agree.seen_of_mem_publicMembers inside member
  simp only [declaredName, verdict, agree.node function functionSeen,
    agree.memberKind inside functionSeen, agree.lower inside functionSeen]

/-! ## Enumerations -/

theorem seen_of_mem_enumerationOf {native : NativeType} {enumeration : NodeId}
    (closed : ∀ node, native.category.node? = some node → seen node)
    (member : enumeration ∈ enumerationOf native) : seen enumeration := by
  rcases native with ⟨category, spelling⟩
  cases category with
  | enumeration node => exact closed _ (congrArg some (List.mem_singleton.mp member).symm)
  | _ => cases member

theorem seen_of_lowerParameters (agree : Agree first second seen) {index : Nat}
    {parameters : List NodeId} {plans : List ArgumentPlan} {enumerations : List NodeId}
    (allSeen : ∀ parameter ∈ parameters, seen parameter)
    (lowered : first.lowerParameters index parameters = .ok (plans, enumerations)) :
    ∀ enumeration ∈ enumerations, seen enumeration := by
  induction parameters generalizing index plans enumerations with
  | nil =>
      cases lowered
      simp
  | cons parameter rest ih =>
      obtain ⟨_, _, _, _, found, _, loweredRest, _, rfl⟩ :=
        SymbolTree.exists_of_lowerParameters_cons lowered
      intro enumeration member
      rcases List.mem_append.mp member with own | later
      · exact seen_of_mem_enumerationOf (fun node named => agree.seen_of_nativeType
          (agree.target parameter (allSeen parameter List.mem_cons_self)) found named) own
      · exact ih (fun other inRest => allSeen other (List.mem_cons_of_mem _ inRest)) loweredRest
          enumeration later

theorem seen_of_lower (agree : Agree first second seen) {owner function : NodeId} {role : Role}
    {overload : Overload} (inside : seen function)
    (lowered : first.lower owner function role = .ok overload) :
    ∀ enumeration ∈ overload.enumerations, seen enumeration := by
  obtain ⟨_, _, loweredParameters, made⟩ := SymbolTree.cases_of_lower lowered
  have ofParameters := agree.seen_of_lowerParameters
    (fun parameter member => agree.seen_of_mem_parameters inside (List.mem_of_mem_drop member))
    loweredParameters
  rcases made with ⟨_, rfl⟩ | ⟨_, _, native, _, _, found, _, rfl⟩
  · exact ofParameters
  · intro enumeration member
    rcases List.mem_append.mp member with ofParameter | ofResult
    · exact ofParameters enumeration ofParameter
    · exact seen_of_mem_enumerationOf (fun node ofNative => agree.seen_of_nativeType
        (agree.target function inside) found ofNative) ofResult

theorem registerAll (agree : Agree first second seen) (registry : EnumRegistry)
    {ids : List NodeId} (allSeen : ∀ id ∈ ids, seen id) :
    registry.registerAll second ids = registry.registerAll first ids := by
  induction ids generalizing registry with
  | nil => rfl
  | cons id rest ih =>
      have idSeen := allSeen id List.mem_cons_self
      have sameEntry : registry.register second id = registry.register first id := by
        simp only [EnumRegistry.register, agree.node id idSeen, agree.enumerators idSeen]
      simp only [EnumRegistry.registerAll, sameEntry,
        ih _ fun other member => allSeen other (List.mem_cons_of_mem _ member)]

/-! ## Bindings -/

theorem seen_of_mem_enumerations (agree : Agree first second seen) {owner enumeration : NodeId}
    (inside : seen owner) (scriptName : String)
    (member : enumeration ∈ (Draft.ofVerdicts scriptName (first.verdicts owner)).enumerations) :
    seen enumeration := by
  obtain ⟨declaration, declared, role, overload, bound, ofOverload⟩ :=
    Draft.mem_enumerations_ofVerdicts member
  rcases List.mem_map.mp declared with ⟨function, inMembers, rfl⟩
  have functionSeen := agree.seen_of_mem_publicMembers inside inMembers
  have lowered : first.lower owner function role = .ok overload := by
    simp only [verdict] at bound
    split at bound
    · cases bound
    · cases bound
    · split at bound
      · cases bound
        assumption
      · cases bound
  exact agree.seen_of_lower functionSeen lowered enumeration ofOverload

/-- Agreement on what a class leads to decides all its bindings. -/
theorem bindings (agree : Agree first second seen) {owner : NodeId} (inside : seen owner)
    (scriptName : String) : second.bindings owner scriptName = first.bindings owner scriptName := by
  have registered := agree.registerAll {} fun _ member =>
    agree.seen_of_mem_enumerations inside scriptName member
  simp only [SymbolTree.bindings, classNames, agree.verdicts inside, agree.node owner inside,
    agree.qualifiedName? owner inside, registered]

end SymbolTree.Agree

end Bindery
