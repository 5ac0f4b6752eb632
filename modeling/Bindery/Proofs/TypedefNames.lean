import Bindery.Proofs.Payload

/-!
# Typedefs of values

A typedef that leads to a number, an enumeration or a record stands for the type
at the end of its chain and is spelled by its own name.  The name of the type at
the end shows up nowhere.  All the same the typedef is refused if that type has
none, because the type is spelled first and renamed after that.
-/

namespace Bindery.SymbolTree

section Chains

variable (tree : SymbolTree)

/-- A chain of `const` and of named typedefs, none of them named like a string. -/
inductive LeadsTo : NodeId → List Wrapper → NodeId → Prop
  | here {id : NodeId} : LeadsTo id [] id
  | const {id inner target : NodeId} {links : List Wrapper}
      (tag : (tree.node id).tag = .constType) (typed : tree.typeOf? id = some inner)
      (below : LeadsTo inner links target) : LeadsTo id (.const :: links) target
  | typedef {id inner target : NodeId} {name : String} {links : List Wrapper}
      (tag : (tree.node id).tag = .typedef) (named : (tree.node id).name = some name)
      (ordinary : isStringLike name = false) (typed : tree.typeOf? id = some inner)
      (below : LeadsTo inner links target) : LeadsTo id (.typedef :: links) target

/-- A type whose values are held as such, with their category.  Enumerations and
records need no name. -/
inductive HoldsValues : NodeId → Category → Prop
  | boolean {id : NodeId} (tag : (tree.node id).tag = .baseType)
      (named : (tree.node id).name = some "bool") : HoldsValues id .boolean
  | numeric {id : NodeId} {name : String} (tag : (tree.node id).tag = .baseType)
      (named : (tree.node id).name = some name) (number : name ∈ numericBaseTypes) :
      HoldsValues id .numeric
  | enumeration {id : NodeId} (tag : (tree.node id).tag = .enumerationType) :
      HoldsValues id (.enumeration id)
  | string {id : NodeId} (record : (tree.node id).tag.isRecord = true)
      (string : tree.isNamedString id = true) : HoldsValues id .ownedString
  | record {id : NodeId} (record : (tree.node id).tag.isRecord = true)
      (ordinary : tree.isNamedString id = false) : HoldsValues id (.object id)

/-- Typedefs of values are accepted under their own names, whether the types at
the ends of their chains have names or not. -/
def AcceptsTypedefs : Prop :=
  ∀ id links target category, (tree.node id).tag = .typedef → tree.LeadsTo id links target →
    tree.HoldsValues target category → links.length ≤ maxTypeDepth →
    ∃ qualified, tree.qualifiedName? id = some qualified ∧
      tree.nativeType (.target id) = .ok ⟨category, qualified⟩

end Chains

variable {tree : SymbolTree}

/-! ## Spellings -/

theorem spelling_of_qualifiedName? {id : NodeId} {qualified : String}
    (tag : (tree.node id).tag = .typedef ∨ (tree.node id).tag = .enumerationType)
    (qualifies : tree.qualifiedName? id = some qualified) : tree.spelling id = .ok qualified := by
  rw [spelling, spellingIn]
  rcases tag with tag | tag <;> simp [tag, Tag.isRecord, qualifies]

/-- Only a name, with its scopes, spells an enumeration or a record. -/
theorem spelling_of_unnamed {id : NodeId}
    (tag : (tree.node id).tag = .enumerationType ∨ (tree.node id).tag.isRecord = true)
    (unnamed : (tree.node id).name = none) : tree.spelling id = .error .anonymous := by
  have unqualified : tree.qualifiedName? id = none := by rw [qualifiedName?, unnamed]; rfl
  rw [spelling, spellingIn]
  split <;> simp_all [Tag.isRecord]

/-! ## The end of a chain -/

namespace HoldsValues

variable {target : NodeId} {category : Category}

theorem heldByValue (holds : tree.HoldsValues target category) : category.heldByValue = true := by
  cases holds <;> rfl

theorem tag_ne_typedef (holds : tree.HoldsValues target category) :
    (tree.node target).tag ≠ .typedef := by
  cases holds with
  | boolean tag | numeric tag | enumeration tag => simp [tag]
  | string record | record record => exact Tag.ne_of_isRecord record rfl

/-- A type with a name is accepted where the chain ends. -/
theorem exists_nativeTypeIn (holds : tree.HoldsValues target category)
    (named : (tree.node target).name.isSome) (steps : Nat) :
    ∃ spelling, tree.nativeTypeIn (steps + 1) target = .ok ⟨category, spelling⟩ := by
  cases holds with
  | boolean tag named =>
      exact ⟨"bool", by simp [nativeTypeIn, tag, baseType, named]⟩
  | numeric tag named number =>
      rename_i name
      have notBool : name ≠ "bool" := fun isBool => bool_not_mem_numericBaseTypes (isBool ▸ number)
      exact ⟨name, by simp [nativeTypeIn, tag, baseType, named, notBool, number]⟩
  | enumeration tag =>
      obtain ⟨qualified, qualifies⟩ :=
        Option.isSome_iff_exists.mp ((isSome_qualifiedName?_iff target).mpr named)
      have spelled := spelling_of_qualifiedName? (.inr tag) qualifies
      refine ⟨qualified, ?_⟩
      simp only [nativeTypeIn, tag, spelled]
      rfl
  | string record string =>
      obtain ⟨spelling, spelled⟩ := exists_spelling_of_isRecord record named
      refine ⟨spelling, ?_⟩
      rw [nativeTypeIn_of_isRecord record, spelled, if_pos string]
      rfl
  | record record ordinary =>
      obtain ⟨spelling, spelled⟩ := exists_spelling_of_isRecord record named
      refine ⟨spelling, ?_⟩
      rw [nativeTypeIn_of_isRecord record, spelled, if_neg (by simp [ordinary])]
      rfl

/-- A type without a name is refused there. -/
theorem nativeTypeIn_of_unnamed (holds : tree.HoldsValues target category)
    (unnamed : (tree.node target).name = none) (steps : Nat) :
    tree.nativeTypeIn (steps + 1) target = .error .anonymous := by
  cases holds with
  | boolean _ named | numeric _ named => simp [named] at unnamed
  | enumeration tag =>
      simp only [nativeTypeIn, tag, spelling_of_unnamed (.inl tag) unnamed]
      rfl
  | string record | record record =>
      rw [nativeTypeIn_of_isRecord record, spelling_of_unnamed (.inr record) unnamed]
      rfl

end HoldsValues

/-! ## Along a chain -/

theorem nativeTypeIn_of_const {id inner : NodeId} {steps : Nat}
    (tag : (tree.node id).tag = .constType) (typed : tree.typeOf? id = some inner) :
    tree.nativeTypeIn (steps + 1) id = tree.nativeTypeIn steps inner := by
  rw [nativeTypeIn]
  simp only [tag, wrapped_eq_ok_iff.mpr typed]
  rfl

/-- A typedef renames what is found below it. -/
theorem nativeTypeIn_of_typedef {id inner : NodeId} {name qualified : String} {steps : Nat}
    (tag : (tree.node id).tag = .typedef) (named : (tree.node id).name = some name)
    (ordinary : isStringLike name = false) (typed : tree.typeOf? id = some inner)
    (qualifies : tree.qualifiedName? id = some qualified) :
    tree.nativeTypeIn (steps + 1) id =
      (tree.nativeTypeIn steps inner).map fun native => renamed native qualified := by
  have spelled := spelling_of_qualifiedName? (.inl tag) qualifies
  rw [nativeTypeIn]
  simp only [tag, named, spelled, ok_bind, ordinary, typed]
  cases tree.nativeTypeIn steps inner <;> rfl

theorem exists_qualifiedName? {id : NodeId} {name : String}
    (named : (tree.node id).name = some name) :
    ∃ qualified, tree.qualifiedName? id = some qualified :=
  Option.isSome_iff_exists.mp
    ((isSome_qualifiedName?_iff id).mpr (Option.isSome_of_eq_some named))

namespace LeadsTo

variable {id target : NodeId} {links : List Wrapper} {steps : Nat}

/-- What is found at the end of a chain is found at its beginning, under a name
that may be another. -/
theorem exists_renaming (chain : tree.LeadsTo id links target) :
    ∃ rename : NativeType → NativeType,
      (∀ native, (rename native).category = native.category) ∧
        ∀ steps, tree.nativeTypeIn (links.length + steps) id =
          (tree.nativeTypeIn steps target).map rename := by
  induction chain with
  | here =>
      refine ⟨fun native => native, fun _ => rfl, fun steps => ?_⟩
      rw [List.length_nil, Nat.zero_add]
      exact (congrFun Except.map_id _).symm
  | const tag typed below ih =>
      obtain ⟨rename, keeps, found⟩ := ih
      refine ⟨rename, keeps, fun steps => ?_⟩
      rw [List.length_cons, Nat.add_right_comm, nativeTypeIn_of_const tag typed, found]
  | typedef tag named ordinary typed below ih =>
      obtain ⟨qualified, qualifies⟩ := exists_qualifiedName? named
      obtain ⟨rename, keeps, found⟩ := ih
      refine ⟨fun native => renamed (rename native) qualified, fun native => ?_, fun steps => ?_⟩
      · exact (congrArg NativeType.category (renamed_eq _ _)).trans (keeps native)
      · rw [List.length_cons, Nat.add_right_comm,
          nativeTypeIn_of_typedef tag named ordinary typed qualifies, found]
        cases tree.nativeTypeIn steps _ <;> rfl

/-- What is refused at the end of a chain is refused at its beginning, for the
same reason. -/
theorem nativeTypeIn_of_error (chain : tree.LeadsTo id links target) {reason : Unbindable}
    (refused : tree.nativeTypeIn steps target = .error reason) :
    tree.nativeTypeIn (links.length + steps) id = .error reason := by
  obtain ⟨rename, -, found⟩ := chain.exists_renaming
  rw [found, refused]
  rfl

/-- What is accepted at the end of a chain is accepted at its beginning, in the
same category. -/
theorem exists_nativeTypeIn (chain : tree.LeadsTo id links target) {native : NativeType}
    (accepted : tree.nativeTypeIn steps target = .ok native) :
    ∃ spelling, tree.nativeTypeIn (links.length + steps) id =
      .ok ⟨native.category, spelling⟩ := by
  obtain ⟨rename, keeps, found⟩ := chain.exists_renaming
  refine ⟨(rename native).spelling, ?_⟩
  rw [found, accepted, ← keeps native]
  rfl

/-- The first links of a chain are a chain. -/
theorem exists_take (chain : tree.LeadsTo id links target) (count : Nat) :
    ∃ middle, tree.LeadsTo id (links.take count) middle := by
  induction chain generalizing count with
  | here =>
      rw [List.take_nil]
      exact ⟨_, .here⟩
  | const tag typed below ih =>
      cases count with
      | zero => exact ⟨_, .here⟩
      | succ count =>
          obtain ⟨middle, shorter⟩ := ih count
          exact ⟨middle, .const tag typed shorter⟩
  | typedef tag named ordinary typed below ih =>
      cases count with
      | zero => exact ⟨_, .here⟩
      | succ count =>
          obtain ⟨middle, shorter⟩ := ih count
          exact ⟨middle, .typedef tag named ordinary typed shorter⟩

/-- A chain that uses up all steps is given up. -/
theorem nativeTypeIn_of_length_le (chain : tree.LeadsTo id links target)
    (long : steps ≤ links.length) : tree.nativeTypeIn steps id = .error .tooDeep := by
  obtain ⟨middle, first⟩ := chain.exists_take steps
  have given : tree.nativeTypeIn 0 middle = .error .tooDeep := rfl
  have usedUp := first.nativeTypeIn_of_error given
  rwa [List.length_take, Nat.min_eq_left long, Nat.add_zero] at usedUp

/-- A typedef of a value that is accepted has its own name. -/
theorem nativeTypeIn_of_typedef (chain : tree.LeadsTo id links target) {category : Category}
    {spelling qualified : String} (tag : (tree.node id).tag = .typedef)
    (other : (tree.node target).tag ≠ .typedef) (held : category.heldByValue = true)
    (qualifies : tree.qualifiedName? id = some qualified)
    (accepted : tree.nativeTypeIn steps target = .ok ⟨category, spelling⟩) :
    tree.nativeTypeIn (links.length + steps) id = .ok ⟨category, qualified⟩ := by
  cases chain with
  | here => contradiction
  | const tagAgain => simp [tag] at tagAgain
  | typedef _ named ordinary typed below =>
      obtain ⟨inner, found⟩ := below.exists_nativeTypeIn accepted
      rw [List.length_cons, Nat.add_right_comm,
        SymbolTree.nativeTypeIn_of_typedef tag named ordinary typed qualifies, found]
      exact congrArg Except.ok ((renamed_eq _ _).trans (by rw [if_pos held]))

end LeadsTo

/-! ## Typedefs -/

/-- For every chain from a typedef to a value, of any length and with `const`
anywhere, the native type of the typedef. -/
theorem nativeType_of_typedef {id target : NodeId} {links : List Wrapper} {category : Category}
    (tag : (tree.node id).tag = .typedef) (chain : tree.LeadsTo id links target)
    (holds : tree.HoldsValues target category) :
    ∃ qualified, tree.qualifiedName? id = some qualified ∧
      tree.nativeType (.target id) =
        if maxTypeDepth < links.length then .error .tooDeep
        else if (tree.node target).name.isSome then .ok ⟨category, qualified⟩
        else .error .anonymous := by
  have named : ∃ name, (tree.node id).name = some name := by
    cases chain with
    | here => exact absurd tag holds.tag_ne_typedef
    | const tagAgain => simp [tag] at tagAgain
    | typedef _ named => exact ⟨_, named⟩
  obtain ⟨qualified, qualifies⟩ := exists_qualifiedName? named.choose_spec
  refine ⟨qualified, qualifies, ?_⟩
  rw [nativeType]
  split
  · rename_i long
    exact chain.nativeTypeIn_of_length_le long
  · rename_i short
    -- The steps that are left over are enough for the type at the end.
    have enough : maxTypeDepth + 1 = links.length + (maxTypeDepth - links.length + 1) := by omega
    rw [enough]
    split
    · rename_i targetNamed
      obtain ⟨spelling, accepted⟩ := holds.exists_nativeTypeIn targetNamed _
      exact chain.nativeTypeIn_of_typedef tag holds.tag_ne_typedef holds.heldByValue qualifies
        accepted
    · rename_i unnamed
      exact chain.nativeTypeIn_of_error
        (holds.nativeTypeIn_of_unnamed (Option.not_isSome_iff_eq_none.mp unnamed) _)

/-- A namespace with an enumeration, a typedef of it and a typedef of the typedef
with `const` in between. -/
def modeTree : SymbolTree where
  nodes := #[
    { Node.root with children := #[1] },
    { Node.root with
      level := 0, tag := .nameSpace, name := some "board", children := #[2, 3, 4, 5],
      parent := some 0 },
    { Node.root with
      level := 1, tag := .enumerationType, name := some "Level", parent := some 1 },
    { Node.root with
      level := 1, tag := .typedef, name := some "Setting", link := .target 2, parent := some 1 },
    { Node.root with level := 1, tag := .constType, link := .target 3, parent := some 1 },
    { Node.root with
      level := 1, tag := .typedef, name := some "Mode", link := .target 4, parent := some 1 }]

theorem nativeType_of_typedef_mode :
    (modeTree.node 5).tag = .typedef ∧ modeTree.LeadsTo 5 [.typedef, .const, .typedef] 2 ∧
      modeTree.HoldsValues 2 (.enumeration 2) ∧
      (∃ qualified, modeTree.qualifiedName? 5 = some qualified ∧
        modeTree.nativeType (.target 5) =
          if maxTypeDepth < [Wrapper.typedef, .const, .typedef].length then .error .tooDeep
          else if (modeTree.node 2).name.isSome then .ok ⟨.enumeration 2, qualified⟩
          else .error .anonymous) ∧
      modeTree.nativeType (.target 5) = .ok ⟨.enumeration 2, "board::Mode"⟩ := by
  have chain : modeTree.LeadsTo 5 [.typedef, .const, .typedef] 2 :=
    .typedef rfl rfl (by decide +kernel) rfl
      (.const rfl rfl (.typedef rfl rfl (by decide +kernel) rfl .here))
  exact ⟨rfl, chain, .enumeration rfl, nativeType_of_typedef rfl chain (.enumeration rfl),
    rfl⟩

/-! ## A typedef of an enumeration without a name -/

/-- The tree of `typedef enum { PA_0 } PinName;`. -/
def pinNameTree : SymbolTree where
  nodes := #[
    { Node.root with children := #[1, 3] },
    { Node.root with
      level := 0, address := "10", abbreviation := 1, tag := .enumerationType, children := #[2],
      line := some 0, parent := some 0 },
    { Node.root with
      level := 1, address := "11", abbreviation := 2, tag := .enumerator, name := some "PA_0",
      fullName := some "PA_0", line := some 1, parent := some 1 },
    { Node.root with
      level := 0, address := "20", abbreviation := 3, tag := .typedef, name := some "PinName",
      fullName := some "PinName", link := .target 1, line := some 3, parent := some 0 }]

/-- The typedef is refused, although it has a name. -/
theorem not_acceptsTypedefs_pinName : ¬ pinNameTree.AcceptsTypedefs := by
  intro accepts
  have chain : pinNameTree.LeadsTo 3 [.typedef] 1 := .typedef rfl rfl (by decide +kernel) rfl .here
  have refused : pinNameTree.nativeType (.target 3) = .error .anonymous := rfl
  obtain ⟨_, _, accepted⟩ := accepts 3 _ 1 _ rfl chain (.enumeration rfl) (by decide)
  cases refused.symm.trans accepted

end Bindery.SymbolTree
