import Bindery.Proofs.MemberBindings

/-!
# The order of methods

Methods get their places in the order in which their names are first met among
the public methods.  One that cannot be bound is met as well, so it may hold a
place for a later method of its name.
-/

namespace Bindery

/-! ## Names in the order of their first place -/

section FirstPlaces

universe u

variable {α : Type u} (key : α → String) (keep : α → Bool)

/-- The names of the items that are kept. -/
def namesKept (items : List α) : List String :=
  (items.filter keep).map key

/-- Of each name that is kept at all the first item is kept. -/
def KeepsFirst (items : List α) : Prop :=
  ∀ name ∈ namesKept key keep items,
    (items.find? fun item => key item = name).any keep = true

instance (items : List α) : Decidable (KeepsFirst key keep items) :=
  inferInstanceAs (Decidable (∀ name ∈ namesKept key keep items,
    (items.find? fun item => key item = name).any keep = true))

variable {key keep} {items : List α} {item : α}

theorem namesKept_concat :
    namesKept key keep (items ++ [item]) =
      if keep item then namesKept key keep items ++ [key item] else namesKept key keep items := by
  rw [namesKept, List.filter_append, List.map_append]
  split <;> simp [namesKept, *]

theorem mem_map_of_mem_namesKept {name : String} (member : name ∈ namesKept key keep items) :
    name ∈ items.map key := by
  obtain ⟨item, kept, rfl⟩ := List.mem_map.mp member
  exact List.mem_map_of_mem (List.mem_of_mem_filter kept)

theorem find?_concat_of_mem {name : String} (member : name ∈ items.map key) (item : α) :
    (items ++ [item]).find? (fun item => key item = name) =
      items.find? fun item => key item = name := by
  obtain ⟨named, inItems, rfl⟩ := List.mem_map.mp member
  have found : (items.find? fun other => key other = key named).isSome := by
    rw [List.find?_isSome]
    exact ⟨named, inItems, decide_eq_true rfl⟩
  rw [List.find?_append, Option.or_of_isSome found]

theorem KeepsFirst.of_concat (keeps : KeepsFirst key keep (items ++ [item])) :
    KeepsFirst key keep items := by
  intro name member
  rw [← find?_concat_of_mem (mem_map_of_mem_namesKept member) item]
  apply keeps
  rw [namesKept_concat]
  split
  · exact List.mem_append_left _ member
  · exact member

/-- A kept item whose name was met before repeats a name that was kept before. -/
theorem KeepsFirst.mem_of_kept (keeps : KeepsFirst key keep (items ++ [item]))
    (kept : keep item = true) (met : key item ∈ items.map key) :
    key item ∈ namesKept key keep items := by
  have named : key item ∈ namesKept key keep (items ++ [item]) := by
    rw [namesKept_concat, if_pos kept]
    exact List.mem_append_right _ List.mem_cons_self
  obtain ⟨first, found, firstKept⟩ := (Option.any_eq_true _ _).mp (keeps (key item) named)
  rw [find?_concat_of_mem met] at found
  have sameName := List.find?_some found
  rw [← of_decide_eq_true sameName]
  exact List.mem_map_of_mem (List.mem_filter.mpr ⟨List.mem_of_find?_eq_some found, firstKept⟩)

/-- Then the order in which names are first met is that in which they are first
kept. -/
theorem KeepsFirst.filter_eraseDups (keeps : KeepsFirst key keep items) :
    (items.map key).eraseDups.filter (fun name => name ∈ namesKept key keep items) =
      (namesKept key keep items).eraseDups := by
  induction items using List.reverseRecOn with
  | nil => rfl
  | append_singleton earlier item ih =>
      have before := ih keeps.of_concat
      rw [List.map_append, List.map_singleton, eraseDups_concat, namesKept_concat]
      by_cases kept : keep item = true
      · have again : key item ∈ earlier.map key ↔ key item ∈ namesKept key keep earlier :=
          ⟨keeps.mem_of_kept kept, mem_map_of_mem_namesKept⟩
        have same : (earlier.map key).eraseDups.filter
            (fun name => name ∈ namesKept key keep earlier ++ [key item]) =
              (namesKept key keep earlier).eraseDups := by
          rw [← before]
          apply List.filter_congr
          intro name member
          rw [decide_eq_decide, List.mem_append, List.mem_singleton, or_iff_left_iff_imp]
          rintro rfl
          exact again.mp (List.mem_eraseDups.mp member)
        rw [if_pos kept, eraseDups_concat]
        simp only [List.mem_eraseDups, again]
        split
        · exact same
        · rw [List.filter_append, same]
          simp
      · rw [if_neg kept]
        split
        · exact before
        · rename_i new
          have dropped : key item ∉ namesKept key keep earlier :=
            fun member => new (List.mem_eraseDups.mpr (mem_map_of_mem_namesKept member))
          rw [List.filter_append, before, List.filter_singleton, decide_eq_false dropped]
          exact List.append_nil _

theorem filterMap_ite {β : Type u} (make : α → β) (items : List α) :
    (items.filterMap fun item => if keep item = true then some (make item) else none) =
      (items.filter keep).map make := by
  induction items with
  | nil => rfl
  | cons item rest ih => by_cases kept : keep item = true <;> simp [kept, ih]

end FirstPlaces

/-! ## The methods that are met -/

/-- The name of a method among the declarations. -/
def metMethod? : String × Verdict → Option String
  | (name, .bound .method _) | (name, .unbindable .method _) => some name
  | _ => none

/-- The name of a method that is bound. -/
def boundMethod? : String × Verdict → Option String
  | (name, .bound .method _) => some name
  | _ => none

theorem boundMethod?_eq_some_iff {declaration : String × Verdict} {name : String} :
    boundMethod? declaration = some name ↔
      ∃ arity, slot? declaration = some ⟨.method, name, arity⟩ := by
  rcases declaration with ⟨declared, verdict⟩
  cases verdict with
  | bound role overload => cases role <;> simp [boundMethod?, slot?, placed?, entryName]
  | skipped _ | rejected _ | unbindable _ _ => simp [boundMethod?, slot?, placed?]

namespace Draft

/-- A method that is met makes sure that its name has a place. -/
theorem keys_methods_add (scriptName : String) (draft : Draft) (declaration : String × Verdict) :
    (draft.add scriptName declaration).methods.keys =
      match metMethod? declaration with
      | none => draft.methods.keys
      | some name =>
          if name ∈ draft.methods.keys then draft.methods.keys else draft.methods.keys ++ [name] := by
  rcases declaration with ⟨name, verdict⟩
  cases verdict with
  | skipped kind | rejected reason => rfl
  | unbindable role reason =>
      cases role with
      | constructor => rfl
      | method => exact OrderedMap.keys_insert ..
  | bound role overload =>
      have placed : (draft.add scriptName (name, .bound role overload)).methods.keys =
          (draft.withGroup name role ((draft.group name role).insert overload.arity
            overload)).methods.keys := by
        simp only [add]
        split <;> rfl
      rw [placed]
      cases role with
      | constructor => rfl
      | method => exact OrderedMap.keys_insert ..

theorem keys_methods_ofVerdicts (scriptName : String) (declarations : List (String × Verdict)) :
    (ofVerdicts scriptName declarations).methods.keys =
      (declarations.filterMap metMethod?).eraseDups := by
  induction declarations using List.reverseRecOn with
  | nil => rfl
  | append_singleton earlier declaration ih =>
      rw [ofVerdicts_concat, keys_methods_add, ih, List.filterMap_append]
      cases met : metMethod? declaration with
      | none => simp [met]
      | some name =>
          rw [List.filterMap_cons, met, List.filterMap_nil]
          exact (eraseDups_concat _ _).symm

/-- A group of methods holds an overload exactly if a method of its name is
bound. -/
theorem isEmpty_group_method_iff (scriptName : String) (declarations : List (String × Verdict))
    (name : String) :
    ((ofVerdicts scriptName declarations).group name .method).isEmpty = false ↔
      name ∈ declarations.filterMap boundMethod? := by
  rw [OrderedMap.isEmpty_eq_false_iff, List.mem_filterMap]
  simp only [← OrderedMap.contains_iff_mem_keys, contains_group_ofVerdicts, entryName,
    boundMethod?_eq_some_iff]
  constructor
  · rintro ⟨arity, declaration, declared, slot⟩
    exact ⟨declaration, declared, arity, slot⟩
  · rintro ⟨declaration, declared, arity, slot⟩
    exact ⟨arity, declaration, declared, slot⟩

/-- The kept groups stand in the order in which their names are first met. -/
theorem map_fst_keptMethods (scriptName : String) (declarations : List (String × Verdict)) :
    (ofVerdicts scriptName declarations).keptMethods.map Prod.fst =
      (declarations.filterMap metMethod?).eraseDups.filter
        fun name => name ∈ declarations.filterMap boundMethod? := by
  have distinct := (distinct_ofVerdicts scriptName declarations).methods
  rw [← keys_methods_ofVerdicts scriptName, OrderedMap.keys, List.filter_map, keptMethods]
  congr 1
  apply List.filter_congr
  rintro ⟨name, group⟩ member
  have held : (ofVerdicts scriptName declarations).group name .method = group := by
    rw [Draft.group, methodGroup, (OrderedMap.mem_entries_iff distinct name group).mp member]
    rfl
  rw [← held, Function.comp_apply, Bool.eq_iff_iff, Bool.not_eq_true', decide_eq_true_eq]
  exact isEmpty_group_method_iff scriptName declarations name

end Draft

/-! ## The order of the bindings -/

/-- The methods of a class stand in an order of their names: among the entry
points, with their texts in the source, and where they are attached. -/
structure InMethodOrder (tree : SymbolTree) (owner : NodeId) (scriptName : String)
    (order : List String) (bindings : ClassBindings) : Prop where
  /-- The support text and the constructor come after the methods. -/
  entries : ∃ methods constructor,
    bindings.functions = methods ++ [constructor] ∧
      methods.map FunctionBinding.name = order ∧
      (∀ method ∈ methods, method.role = .method ∧ ∃ overloads : OverloadSet,
        method.text = overloads.methodText (tree.classNames owner scriptName) method.name) ∧
      constructor.role = .constructor ∧
      bindings.source = "\n\n".intercalate (methods.map FunctionBinding.text ++
        [Text.trimmedEnd (Code.joined
          ((tree.classNames owner scriptName).supportLines order)), constructor.text])
  attached : ((tree.classNames owner scriptName).supportLines order).filter ClassNames.attaches =
    order.map (tree.classNames owner scriptName).attachLine

namespace SymbolTree

section Order

variable (tree : SymbolTree) (owner : NodeId)

/-- The public methods of a class, whether they can be bound or not. -/
def methodsMet : List NodeId :=
  (tree.publicMembers owner).filter fun function =>
    tree.memberKind owner function = .bindable .method

/-- Whether a method can be bound. -/
def lowersMethod (function : NodeId) : Bool :=
  (tree.lower owner function .method).isOk

/-- The names of the public methods, each where it is first met. -/
def namesMet : List String :=
  ((tree.methodsMet owner).map tree.declaredName).eraseDups

/-- The names of the methods that can be bound, each where it is first met with
such a method. -/
def namesBound : List String :=
  (namesKept tree.declaredName (tree.lowersMethod owner) (tree.methodsMet owner)).eraseDups

theorem metMethod?_declaration (function : NodeId) :
    metMethod? (tree.declaration owner function) =
      if tree.memberKind owner function = .bindable .method then
        some (tree.declaredName function)
      else none := by
  unfold declaration verdict
  cases kind : tree.memberKind owner function with
  | skipped kind | rejected reason => rfl
  | bindable role =>
      cases lowered : tree.lower owner function role <;> cases role <;>
        simp [metMethod?, lowered]

theorem boundMethod?_declaration (function : NodeId) :
    boundMethod? (tree.declaration owner function) =
      if tree.memberKind owner function = .bindable .method ∧
          tree.lowersMethod owner function = true then
        some (tree.declaredName function)
      else none := by
  unfold declaration verdict lowersMethod
  cases kind : tree.memberKind owner function with
  | skipped kind | rejected reason => rfl
  | bindable role =>
      cases lowered : tree.lower owner function role <;> cases role <;>
        simp [boundMethod?, lowered, Except.isOk, Except.toBool]

theorem filterMap_metMethod?_verdicts :
    (tree.verdicts owner).filterMap metMethod? = (tree.methodsMet owner).map tree.declaredName := by
  rw [verdicts_eq, List.filterMap_map, methodsMet, ← filterMap_ite]
  apply List.filterMap_congr
  intro function _
  simp only [Function.comp_apply, metMethod?_declaration, decide_eq_true_eq]

theorem filterMap_boundMethod?_verdicts :
    (tree.verdicts owner).filterMap boundMethod? =
      namesKept tree.declaredName (tree.lowersMethod owner) (tree.methodsMet owner) := by
  rw [verdicts_eq, List.filterMap_map, namesKept, methodsMet, List.filter_filter, ← filterMap_ite]
  apply List.filterMap_congr
  intro function _
  simp only [Function.comp_apply, boundMethod?_declaration, Bool.and_eq_true, decide_eq_true_eq,
    and_comm]

end Order

/-- Methods stand in the order of their names. -/
theorem inMethodOrder_methodNames (tree : SymbolTree) (owner : NodeId) (scriptName : String) :
    InMethodOrder tree owner scriptName (tree.bindings owner scriptName).1.methodNames
      (tree.bindings owner scriptName).1 where
  entries := by
    have named : ((tree.draft owner scriptName).keptMethods.map
        (tree.classNames owner scriptName).methodBinding).map FunctionBinding.name =
          (tree.draft owner scriptName).keptMethods.map Prod.fst := List.map_map
    rw [methodNames_bindings]
    refine ⟨_, _, tree.functions_bindings owner scriptName, named, ?_, rfl, ?_⟩
    · intro method member
      obtain ⟨group, _, rfl⟩ := List.mem_map.mp member
      exact ⟨rfl, _, rfl⟩
    · rw [← ClassNames.supportText_eq]
      rfl
  attached := ClassNames.filter_attaches_supportLines _ _

/-- The names of methods are the bound ones in the order in which they are met. -/
theorem methodNames_eq (tree : SymbolTree) (owner : NodeId) (scriptName : String) :
    (tree.bindings owner scriptName).1.methodNames =
      (tree.namesMet owner).filter fun name => name ∈ tree.namesBound owner := by
  rw [methodNames_bindings, draft, Draft.map_fst_keptMethods, filterMap_metMethod?_verdicts,
    filterMap_boundMethod?_verdicts, namesMet, namesBound]
  simp only [List.mem_eraseDups]

/-- For every class, the order of its methods: that in which their names are first
met.  It is also the order in which they are first bound if of each name that is
bound the first method can be bound. -/
theorem bindings_inOrderMet (tree : SymbolTree) (owner : NodeId) (scriptName : String) :
    InMethodOrder tree owner scriptName
        ((tree.namesMet owner).filter fun name => name ∈ tree.namesBound owner)
        (tree.bindings owner scriptName).1 ∧
      (KeepsFirst tree.declaredName (tree.lowersMethod owner) (tree.methodsMet owner) →
        InMethodOrder tree owner scriptName (tree.namesBound owner)
          (tree.bindings owner scriptName).1) := by
  have ordered := tree.inMethodOrder_methodNames owner scriptName
  rw [methodNames_eq] at ordered
  refine ⟨ordered, fun keeps => ?_⟩
  have same := keeps.filter_eraseDups
  simp only [namesMet, namesBound, List.mem_eraseDups] at ordered ⊢
  rwa [same] at ordered

/-- The tree of a class `Lamp` with the methods `dim(__int128)`, `blink()` and
`dim()`, which are the nodes 2, 5 and 7, in some order. -/
def dimmers (methods : Array NodeId) : SymbolTree where
  nodes := #[
    { Node.root with children := #[1, 9, 10] },
    { Node.root with
      level := 0, address := "10", abbreviation := 1, tag := .structureType, name := some "Lamp",
      fullName := some "Lamp", children := methods, line := some 0, parent := some 0 },
    { Node.root with
      level := 1, address := "20", abbreviation := 2, tag := .subprogram, name := some "dim",
      fullName := some "dim", children := #[3, 4], line := some 2, parent := some 1 },
    { Node.root with
      level := 2, address := "22", abbreviation := 3, tag := .formalParameter, link := .target 9,
      line := some 4, parent := some 2 },
    { Node.root with
      level := 2, address := "24", abbreviation := 3, tag := .formalParameter, link := .target 10,
      line := some 6, parent := some 2 },
    { Node.root with
      level := 1, address := "30", abbreviation := 2, tag := .subprogram, name := some "blink",
      fullName := some "blink", children := #[6], line := some 8, parent := some 1 },
    { Node.root with
      level := 2, address := "32", abbreviation := 3, tag := .formalParameter, link := .target 9,
      line := some 10, parent := some 5 },
    { Node.root with
      level := 1, address := "40", abbreviation := 2, tag := .subprogram, name := some "dim",
      fullName := some "dim", children := #[8], line := some 12, parent := some 1 },
    { Node.root with
      level := 2, address := "42", abbreviation := 3, tag := .formalParameter, link := .target 9,
      line := some 14, parent := some 7 },
    { Node.root with
      level := 0, address := "50", abbreviation := 4, tag := .pointerType, link := .target 1,
      line := some 16, parent := some 0 },
    { Node.root with
      level := 0, address := "60", abbreviation := 5, tag := .baseType, name := some "__int128",
      fullName := some "__int128", line := some 18, parent := some 0 }]

theorem bindings_inOrderMet_dimmers :
    KeepsFirst (dimmers #[7, 2, 5]).declaredName ((dimmers #[7, 2, 5]).lowersMethod 1)
        ((dimmers #[7, 2, 5]).methodsMet 1) ∧
      (dimmers #[7, 2, 5]).namesBound 1 = ["dim", "blink"] ∧
      InMethodOrder (dimmers #[7, 2, 5]) 1 "Lamp" ((dimmers #[7, 2, 5]).namesBound 1)
        ((dimmers #[7, 2, 5]).bindings 1 "Lamp").1 := by
  have keeps : KeepsFirst (dimmers #[7, 2, 5]).declaredName ((dimmers #[7, 2, 5]).lowersMethod 1)
      ((dimmers #[7, 2, 5]).methodsMet 1) := by decide +kernel
  exact ⟨keeps, by decide +kernel, (bindings_inOrderMet _ 1 "Lamp").2 keeps⟩

/-! ## A place held for a later method -/

/-- The first `dim` cannot be bound, but the second one comes before `blink`. -/
theorem not_inMethodOrder_dimmers :
    ¬ InMethodOrder (dimmers #[2, 5, 7]) 1 "Lamp" ((dimmers #[2, 5, 7]).namesBound 1)
      ((dimmers #[2, 5, 7]).bindings 1 "Lamp").1 := by
  intro ordered
  obtain ⟨methods, constructor, functions, names, -⟩ := ordered.entries
  have bound : (dimmers #[2, 5, 7]).namesBound 1 = ["blink", "dim"] := by decide +kernel
  have listed : ((dimmers #[2, 5, 7]).bindings 1 "Lamp").1.functions.map FunctionBinding.name =
      ["dim", "blink", constructorName] := by decide +kernel
  rw [functions, List.map_append, names, bound, List.cons_append] at listed
  exact absurd (List.cons.inj listed).1 (by decide)

end SymbolTree

end Bindery
