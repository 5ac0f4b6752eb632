import Bindery.Proofs.TypeWalks

/-!
# Native types follow the rules

The native type of a link is found by a walk that gives up after a fixed number
of links, and the walks behind pointers and references have bounds of their
own.  All the same the answer is that of the rules, which know no bound: what is
found is what they say, and a short derivation is always found.  Chains without
an end are refused, because nothing is derived for them.
-/

namespace Bindery

theorem Walk.exists_of_length_after_lt {wrapper : Wrapper} {walk : Walk} {bound : Nat}
    (short : (walk.after wrapper).length < bound) :
    ∃ smaller, bound = smaller + 1 ∧ walk.length < smaller := by
  refine ⟨bound - 1, ?_⟩
  simp only [Walk.length, Walk.after, List.length_cons] at short ⊢
  omega

namespace SymbolTree

variable {tree : SymbolTree}

/-! ## From a walk to the rules -/

theorem renamed_eq (native : NativeType) (spelling : String) :
    renamed native spelling =
      ⟨native.category, if native.category.heldByValue then spelling else native.spelling⟩ := by
  unfold renamed
  split <;> rfl

theorem denotes_of_baseType {id : NodeId} {native : NativeType}
    (tag : (tree.node id).tag = .baseType) (found : baseType (tree.node id) = .ok native) :
    tree.Denotes id {} native := by
  unfold baseType at found
  split at found
  · cases found
  · rename_i name named
    split at found
    · rename_i isBool
      cases found
      subst isBool
      exact .boolean tag named
    · split at found
      · rename_i number
        cases found
        exact .numeric tag named (List.contains_iff_mem.mp number)
      · cases found

theorem denotes_of_opaqueTypedef {id : NodeId} {name spelling : String} {native : NativeType}
    (tag : (tree.node id).tag = .typedef) (named : (tree.node id).name = some name)
    (ordinary : isStringLike name = false) (untyped : tree.typeOf? id = none)
    (spelled : tree.Spells id spelling)
    (found : opaqueTypedef (tree.node id) name spelling = .ok native) :
    tree.Denotes id {} native := by
  unfold opaqueTypedef at found
  split at found
  · rename_i integer
    cases found
    exact .integerTypedef tag named ordinary untyped integer spelled
  · split at found <;> cases found

theorem pointerType_eq {steps : Nat} {id pointee target : NodeId}
    (typed : tree.typeOf? id = some pointee)
    (behind : tree.underlyingIn steps pointee = .ok target) :
    tree.pointerType steps id =
      if (tree.node target).tag = .baseType ∧ (tree.node target).name = some "char" then
        .ok ⟨.cString,
          if (tree.node pointee).tag = .constType then "const char*" else "char*"⟩
      else if (tree.node target).tag.isRecord then do
        return ⟨.handle target, (← tree.spelling pointee) ++ "*"⟩
      else .error (.unsupportedPointer (tree.refusedSpelling pointee target ++ "*")) := by
  rw [pointerType, typed]
  simp only [behind, bind, Except.bind, Bool.and_eq_true, decide_eq_true_eq]
  split
  · split <;> rfl
  · rfl

theorem denotes_of_pointerType {steps : Nat} {id : NodeId} {native : NativeType}
    (tag : (tree.node id).tag = .pointerType) (found : tree.pointerType steps id = .ok native) :
    ∃ walk, tree.Denotes id walk native := by
  cases typed : tree.typeOf? id with
  | none => simp [pointerType, typed] at found
  | some pointee =>
      cases behind : tree.underlyingIn steps pointee with
      | error reason => simp [pointerType, typed, behind, bind, Except.bind] at found
      | ok target =>
          rw [pointerType_eq typed behind] at found
          split at found
          · rename_i char
            obtain ⟨links, reached⟩ :=
              reaches_of_underlyingIn behind (by simp [char.1]) (by simp [char.1])
            cases found
            exact ⟨_, .text tag typed reached char.1 char.2⟩
          · split at found
            · rename_i record
              obtain ⟨links, reached⟩ := reaches_of_underlyingIn behind
                (Tag.ne_of_isRecord record rfl) (Tag.ne_of_isRecord record rfl)
              obtain ⟨spelling, spelled, found⟩ := bind_eq_ok_iff.mp found
              cases found
              exact ⟨_, .handle tag typed reached record (spells_of_spellingIn spelled)⟩
            · cases found

theorem denotes_of_referenceType {steps : Nat} {id : NodeId} {native : NativeType}
    (tag : (tree.node id).tag = .referenceType)
    (found : tree.referenceType steps id = .ok native) :
    ∃ walk, tree.Denotes id walk native := by
  obtain ⟨referent, typed, found⟩ := bind_eq_ok_iff.mp found
  obtain ⟨target, behind, found⟩ := bind_eq_ok_iff.mp found
  split at found
  · rename_i record
    obtain ⟨links, reached⟩ := reaches_of_underlyingIn behind
      (Tag.ne_of_isRecord record rfl) (Tag.ne_of_isRecord record rfl)
    obtain ⟨spelling, spelled, found⟩ := bind_eq_ok_iff.mp found
    have meaning := Denotes.reference tag (wrapped_eq_ok_iff.mp typed) reached record
      (spells_of_spellingIn spelled)
    refine ⟨⟨[], links⟩, ?_⟩
    split at found
    · rename_i string
      cases found
      rwa [if_pos string] at meaning
    · rename_i ordinary
      cases found
      rwa [if_neg ordinary] at meaning
  · cases found

theorem nativeTypeIn_of_isRecord {links : Nat} {id : NodeId}
    (record : (tree.node id).tag.isRecord = true) :
    tree.nativeTypeIn (links + 1) id = do
      return ⟨if tree.isNamedString id then .ownedString else .object id, ← tree.spelling id⟩ := by
  have tag : (tree.node id).tag = .classType ∨ (tree.node id).tag = .structureType := by
    unfold Tag.isRecord at record
    split at record
    · exact Or.inl ‹_›
    · exact Or.inr ‹_›
    · cases record
  rcases tag with tag | tag
  all_goals
    simp only [nativeTypeIn, tag]
    split <;> rfl

/-- What a bounded walk finds is what the rules say. -/
theorem denotes_of_nativeTypeIn {links : Nat} {id : NodeId} {native : NativeType}
    (found : tree.nativeTypeIn links id = .ok native) : ∃ walk, tree.Denotes id walk native := by
  induction links generalizing id native with
  | zero => cases found
  | succ links ih =>
      -- Classes and structures have one rule between them, so they come before the split by tag.
      by_cases record : (tree.node id).tag.isRecord = true
      · rw [nativeTypeIn_of_isRecord record] at found
        obtain ⟨spelling, spelled, found⟩ := bind_eq_ok_iff.mp found
        cases found
        exact ⟨_, .record record (spells_of_spellingIn spelled)⟩
      rw [nativeTypeIn] at found
      split at found
      · rename_i tag
        exact ⟨_, denotes_of_baseType tag found⟩
      · rename_i tag
        split at found
        · cases found
        · rename_i name named
          obtain ⟨spelling, spelled, found⟩ := bind_eq_ok_iff.mp found
          have spelled := spells_of_spellingIn spelled
          split at found
          · rename_i string
            cases found
            exact ⟨_, .stringTypedef tag named string spelled⟩
          · rename_i ordinary
            have ordinary : isStringLike name = false := Bool.eq_false_iff.mpr ordinary
            split at found
            · rename_i untyped
              exact ⟨_, denotes_of_opaqueTypedef tag named ordinary untyped spelled found⟩
            · rename_i inner typed
              obtain ⟨below, foundBelow, found⟩ := bind_eq_ok_iff.mp found
              cases found
              obtain ⟨walk, denotes⟩ := ih foundBelow
              rw [renamed_eq]
              exact ⟨_, .typedef tag named ordinary typed spelled denotes⟩
      · rename_i tag
        obtain ⟨inner, typed, found⟩ := bind_eq_ok_iff.mp found
        obtain ⟨walk, denotes⟩ := ih found
        exact ⟨_, .const tag (wrapped_eq_ok_iff.mp typed) denotes⟩
      · rename_i tag
        exact denotes_of_pointerType tag found
      · rename_i tag
        exact denotes_of_referenceType tag found
      · rename_i tag
        simp [tag, Tag.isRecord] at record
      · rename_i tag
        simp [tag, Tag.isRecord] at record
      · rename_i tag
        obtain ⟨spelling, spelled, found⟩ := bind_eq_ok_iff.mp found
        cases found
        exact ⟨_, .enumeration tag (spells_of_spellingIn spelled)⟩
      · cases found

/-! ## From the rules to a walk -/

/-- What the rules say is found by a walk with two more steps than theirs: one
for the node at the end and one because typedefs behind a pointer or reference
are counted when they are left. -/
theorem Denotes.nativeTypeIn {id : NodeId} {walk : Walk} {native : NativeType} {links : Nat}
    (denotes : tree.Denotes id walk native) (runs : ConstRunsWithin 7 walk.behind)
    (short : walk.length < links) : tree.nativeTypeIn (links + 1) id = .ok native := by
  induction denotes generalizing links with
  | boolean tag named => simp [SymbolTree.nativeTypeIn, tag, baseType, named]
  | numeric tag named number =>
      have notBool : _ ≠ "bool" := fun isBool => bool_not_mem_numericBaseTypes (isBool ▸ number)
      simp [SymbolTree.nativeTypeIn, tag, baseType, named, notBool, number]
  | const tag typed below ih =>
      obtain ⟨links, rfl, shorter⟩ := Walk.exists_of_length_after_lt short
      rw [SymbolTree.nativeTypeIn]
      simp only [tag, wrapped_eq_ok_iff.mpr typed]
      exact ih runs shorter
  | stringTypedef tag named string spelled =>
      have ownSpelling := spelled.spelling_eq (by simp [tag])
      simp only [SymbolTree.nativeTypeIn, tag, named, ownSpelling, ok_bind, string]
      rfl
  | typedef tag named ordinary typed spelled below ih =>
      have ownSpelling := spelled.spelling_eq (by simp [tag])
      obtain ⟨links, rfl, shorter⟩ := Walk.exists_of_length_after_lt short
      rw [SymbolTree.nativeTypeIn]
      simp only [tag, named, ownSpelling, ok_bind, ordinary, typed, ih runs shorter, renamed_eq]
      rfl
  | integerTypedef tag named ordinary untyped integer spelled =>
      have ownSpelling := spelled.spelling_eq (by simp [tag])
      simp only [SymbolTree.nativeTypeIn, tag, named, ownSpelling, ok_bind, ordinary, untyped,
        opaqueTypedef, integer]
      rfl
  | text tag typed reached base char =>
      have behind := reached.underlyingIn runs (by simpa [Walk.length] using short)
      simp only [SymbolTree.nativeTypeIn, tag, pointerType_eq typed behind]
      rw [if_pos ⟨base, char⟩]
  | handle tag typed reached record spelled =>
      have behind := reached.underlyingIn runs (by simpa [Walk.length] using short)
      have ownSpelling : tree.spelling _ = .ok _ :=
        reached.spellingIn record spelled (Nat.lt_of_le_of_lt runs.leadingConsts_le (by decide))
      simp only [SymbolTree.nativeTypeIn, tag, pointerType_eq typed behind]
      rw [if_neg fun char => Tag.ne_of_isRecord record rfl char.1, if_pos record, ownSpelling]
      rfl
  | reference tag typed reached record spelled =>
      have behind := reached.underlyingIn runs (by simpa [Walk.length] using short)
      have ownSpelling := spelled.spelling_of_isRecord record
      simp only [SymbolTree.nativeTypeIn, tag, referenceType, wrapped_eq_ok_iff.mpr typed, behind,
        ok_bind, if_pos record, ownSpelling]
      split <;> rfl
  | record tag spelled =>
      rw [nativeTypeIn_of_isRecord tag, spelled.spelling_of_isRecord tag]
      rfl
  | enumeration tag spelled =>
      have ownSpelling := spelled.spelling_eq (by simp [tag])
      simp only [SymbolTree.nativeTypeIn, tag, ownSpelling, ok_bind]
      rfl

/-! ## Chains without an end -/

theorem RunsForever.exists_next {id : NodeId} (forever : tree.RunsForever id) :
    ((tree.node id).tag = .constType ∨
      (tree.node id).tag = .typedef ∧ tree.isNamedString id = false) ∧
    ∃ inner, tree.typeOf? id = some inner ∧ tree.RunsForever inner := by
  obtain ⟨chain, rfl, links⟩ := forever
  exact ⟨(links 0).1, chain 1, (links 0).2, fun place => chain (place + 1), rfl,
    fun place => links (place + 1)⟩

/-- Nothing stands behind a chain without an end. -/
theorem Reaches.not_runsForever {id target : NodeId} {links : List Wrapper}
    (reached : tree.Reaches id links target) : ¬ tree.RunsForever id := by
  induction reached with
  | here notConst notTypedef =>
      intro forever
      rcases forever.exists_next.1 with tag | ⟨tag, _⟩
      · exact notConst tag
      · exact notTypedef tag
  | const _ typed _ ih | typedef _ _ typed _ ih =>
      intro forever
      obtain ⟨_, inner, typedAgain, below⟩ := forever.exists_next
      cases typed.symm.trans typedAgain
      exact ih below
  | stringTypedef tag string =>
      intro forever
      rcases forever.exists_next.1 with tagAgain | ⟨_, ordinary⟩
      · exact absurd (tag.symm.trans tagAgain) (by decide)
      · exact absurd (string.symm.trans ordinary) (by decide)

theorem Denotes.not_runsForever {id : NodeId} {walk : Walk} {native : NativeType}
    (denotes : tree.Denotes id walk native) : ¬ tree.RunsForever id := by
  induction denotes with
  | const _ typed _ ih | typedef _ _ _ typed _ _ ih =>
      intro forever
      obtain ⟨_, inner, typedAgain, below⟩ := forever.exists_next
      cases typed.symm.trans typedAgain
      exact ih below
  | stringTypedef tag named string =>
      intro forever
      rcases forever.exists_next.1 with tagAgain | ⟨_, ordinary⟩
      · exact absurd (tag.symm.trans tagAgain) (by decide)
      · rw [isNamedString_eq named, string] at ordinary
        cases ordinary
  | integerTypedef _ _ _ untyped =>
      intro forever
      obtain ⟨_, inner, typed, _⟩ := forever.exists_next
      exact absurd (untyped.symm.trans typed) (by simp)
  | boolean tag | numeric tag | text tag | handle tag | reference tag | enumeration tag =>
      intro forever
      rcases forever.exists_next.1 with tagAgain | ⟨tagAgain, _⟩
      all_goals exact absurd (tag.symm.trans tagAgain) (by decide)
  | record record =>
      intro forever
      rcases forever.exists_next.1 with tag | ⟨tag, _⟩
      all_goals exact Tag.ne_of_isRecord record (by decide) tag

/-! ## The native types of a tree -/

/-- The native types found in a tree are those of the rules. -/
structure FollowsRules (tree : SymbolTree) : Prop where
  /-- What is found is what the rules say, and they say nothing else. -/
  sound : ∀ link native, tree.nativeType link = .ok native →
    (∃ walk, tree.LinkDenotes link walk native) ∧
      ∀ walk other, tree.LinkDenotes link walk other → other = native
  /-- A chain without an end has no native type, and neither has a pointer or
  reference to it. -/
  endless : ∀ id, tree.RunsForever id →
    (∀ native, tree.nativeType (.target id) ≠ .ok native) ∧
      ∀ before, (tree.node before).tag = .pointerType ∨ (tree.node before).tag = .referenceType →
        tree.typeOf? before = some id → ∀ native, tree.nativeType (.target before) ≠ .ok native
  /-- What the rules say is found, if it takes few links and no long run of
  `const` behind a pointer or reference. -/
  complete : ∀ link walk native, tree.LinkDenotes link walk native → walk.length ≤ 15 →
    ConstRunsWithin 7 walk.behind → tree.nativeType link = .ok native

theorem linkDenotes_of_nativeType {link : Link} {native : NativeType}
    (found : tree.nativeType link = .ok native) : ∃ walk, tree.LinkDenotes link walk native := by
  cases link with
  | absent =>
      cases found
      exact ⟨_, .absent⟩
  | raw text => cases found
  | target id => exact (denotes_of_nativeTypeIn found).imp fun _ => .target

theorem not_runsForever_of_nativeType {id : NodeId} {native : NativeType}
    (found : tree.nativeType (.target id) = .ok native) : ¬ tree.RunsForever id := by
  obtain ⟨_, denotes⟩ := denotes_of_nativeTypeIn found
  exact denotes.not_runsForever

/-- The rules look behind every pointer and reference that they give a
meaning. -/
theorem Denotes.exists_reaches {id inner : NodeId} {walk : Walk} {native : NativeType}
    (denotes : tree.Denotes id walk native)
    (tag : (tree.node id).tag = .pointerType ∨ (tree.node id).tag = .referenceType)
    (typed : tree.typeOf? id = some inner) : ∃ links target, tree.Reaches inner links target := by
  cases denotes with
  | text _ typedAgain reached | handle _ typedAgain reached | reference _ typedAgain reached =>
      cases typed.symm.trans typedAgain
      exact ⟨_, _, reached⟩
  | _ => grind [Tag.isRecord]

/-- For every tree and every link, circles of links included, the native type
is that of the rules. -/
theorem nativeType_followsRules (tree : SymbolTree) : tree.FollowsRules where
  sound := fun link native found => by
    obtain ⟨walk, denotes⟩ := linkDenotes_of_nativeType found
    exact ⟨⟨walk, denotes⟩, fun _ other again => (again.unique denotes).2⟩
  endless := fun id forever => by
    refine ⟨fun native found => not_runsForever_of_nativeType found forever, ?_⟩
    intro before tag typed native found
    obtain ⟨_, denotes⟩ := denotes_of_nativeTypeIn found
    obtain ⟨_, _, reached⟩ := denotes.exists_reaches tag typed
    exact reached.not_runsForever forever
  complete := fun link walk native denotes short runs => by
    cases denotes with
    | absent => rfl
    | target denotes => exact denotes.nativeTypeIn runs (Nat.lt_succ_of_le short)

/-- A typedef that names itself is refused. -/
example : nativeType ⟨#[.root, { Node.root with
    tag := .typedef, name := some "Ring", link := .target 1 }]⟩ (.target 1) = .error .tooDeep := by
  rfl

end SymbolTree

end Bindery
