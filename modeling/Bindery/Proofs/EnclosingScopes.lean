import Bindery.Proofs.NearestHeaders
import Bindery.Proofs.Rebuilding
import Bindery.SymbolTree.Query

/-!
# The scopes around a node

A parent stands before its children in the array and one level above them.  So
the way from a node up to the root never turns back, takes one step for each
level, and is found in full.  The full name of a node is the full name of the
nearest scope around it that has a name, followed by the name of the node.
-/

namespace Bindery

/-! ## Levels of parents -/

namespace TreeBuilder

/-- An attached record lies no deeper than there are records before it. -/
theorem level_le_of_placed {earlier : List Record} {record : Record} {id : NodeId}
    (placed : ((pushAll {} earlier).1.push record).2.1 = some id) :
    record.level.toNat ≤ earlier.length := by
  rcases push_cases (pushAll {} earlier).1 record with ⟨parent, opened, _⟩ | ⟨_, result⟩
  · have laid := laid_pushAll earlier
    have inside := (List.getElem?_eq_some_iff.mp opened).1
    have short := laid.short
    have size := laid.size
    have fewer := (attachedOf_sublist {} earlier).length_le
    omega
  · rw [result] at placed
    contradiction

/-- The level of a record fits into its node. -/
theorem level_of_placed {earlier later : List Record} {record : Record} {id : NodeId}
    (few : (earlier ++ record :: later).length < 2 ^ 31)
    (placed : ((pushAll {} earlier).1.push record).2.1 = some id) :
    ((SymbolTree.ofRecords (earlier ++ record :: later)).1.node id).level =
      record.level.toNat := by
  obtain ⟨parent, node, _, _⟩ := exists_parent_of_placed placed later
  have bound := level_le_of_placed placed
  have low : record.level.toNat ≤ Node.maxLevel := by
    have greatest : Node.maxLevel = 2 ^ 31 - 1 := rfl
    rw [List.length_append, List.length_cons] at few
    omega
  rw [Node.eq_of_withoutChildren node Node.level fun _ => rfl, Node.ofRecord,
    Int.min_eq_left (Int.ofNat_le.mpr low)]

end TreeBuilder

namespace SymbolTree

open TreeBuilder

/-- A parent stands one level above its children. -/
theorem level_parent {records : List Record} (few : records.length < 2 ^ 31) {id above : NodeId}
    (named : ((ofRecords records).1.node id).parent = some above) :
    ((ofRecords records).1.node above).level + 1 = ((ofRecords records).1.node id).level := by
  have wellFormed := wellFormed_ofRecords records
  obtain ⟨before, inside⟩ := wellFormed.parent_lt named
  have member := (mem_ids_iff _ id).mpr ⟨Nat.zero_lt_of_lt before, inside⟩
  obtain ⟨earlier, record, later, rfl, placed⟩ := exists_split_of_mem_ids member
  obtain ⟨parent, node, _, nearest⟩ := exists_parent_of_placed placed later
  have same : parent = above := by
    rw [Node.eq_of_withoutChildren node Node.parent fun _ => rfl] at named
    exact Option.some.inj named
  subst same
  rw [level_of_placed few placed]
  split at nearest
  · rename_i offer found
    obtain ⟨sooner, between, rfl, offerPlaced, _, _⟩ := exists_split_of_nearestAbove? found
    rw [List.append_assoc, List.cons_append] at few ⊢
    rw [level_of_placed few (offerPlaced.trans nearest.1)]
    exact_mod_cast nearest.2
  · obtain ⟨rfl, top⟩ := nearest
    rw [Node.eq_of_withoutChildren wellFormed.root Node.level fun _ => rfl, top]
    rfl

/-! ## The way up -/

variable {tree : SymbolTree}

theorem ancestors_of_none {id : NodeId} (alone : (tree.node id).parent = none) :
    tree.ancestors id = [] := by
  rw [ancestors, alone]
  cases tree.nodes.size <;> rfl

namespace WellFormed

/-- What holds of the root and of each node whose parent it holds of holds of all
nodes. -/
@[elab_as_elim]
theorem induction_on_parents (wellFormed : tree.WellFormed) {motive : NodeId → Prop}
    (root : motive 0)
    (child : ∀ id above, (tree.node id).parent = some above → motive above → motive id)
    {id : NodeId} (inside : id < tree.nodes.size) : motive id := by
  induction id using Nat.strong_induction_on with
  | _ id ih =>
      rcases Nat.eq_zero_or_pos id with rfl | positive
      · exact root
      · obtain ⟨above, before, named⟩ := wellFormed.parent id positive inside
        exact child id above named (ih above before (Nat.lt_trans before inside))

/-- A walk from a node is not cut off if it may take more steps than there are
nodes before the first one. -/
theorem ancestorsFrom_some (wellFormed : tree.WellFormed) {id steps : Nat} (enough : id < steps) :
    tree.ancestorsFrom steps (some id) = id :: tree.ancestors id := by
  induction id using Nat.strong_induction_on generalizing steps with
  | _ id ih =>
      obtain ⟨steps, rfl⟩ :=
        Nat.exists_eq_succ_of_ne_zero (Nat.ne_of_gt (Nat.zero_lt_of_lt enough))
      rw [ancestorsFrom]
      cases named : (tree.node id).parent with
      | none =>
          rw [ancestors_of_none named]
          cases steps <;> rfl
      | some above =>
          obtain ⟨before, inside⟩ := wellFormed.parent_lt named
          have small := Nat.lt_of_lt_of_le before (Nat.le_of_lt_succ enough)
          rw [ancestors, named, ih above before small,
            ih above before (Nat.lt_trans before inside)]

theorem ancestors_of_parent (wellFormed : tree.WellFormed) {id above : NodeId}
    (named : (tree.node id).parent = some above) :
    tree.ancestors id = above :: tree.ancestors above := by
  obtain ⟨before, inside⟩ := wellFormed.parent_lt named
  rw [ancestors, named, wellFormed.ancestorsFrom_some (Nat.lt_trans before inside)]

/-- From each node on the way up its parent follows. -/
theorem isChain_ancestors (wellFormed : tree.WellFormed) {id : NodeId}
    (inside : id < tree.nodes.size) :
    (id :: tree.ancestors id).IsChain fun below above => (tree.node below).parent = some above := by
  refine wellFormed.induction_on_parents ?root ?child inside
  case root =>
    rw [ancestors_of_none wellFormed.parent_root]
    exact .singleton 0
  case child =>
    intro id above named ih
    rw [wellFormed.ancestors_of_parent named]
    exact List.isChain_cons_cons.mpr ⟨named, ih⟩

/-- The way up never turns back. -/
theorem pairwise_ancestors (wellFormed : tree.WellFormed) {id : NodeId}
    (inside : id < tree.nodes.size) : (id :: tree.ancestors id).Pairwise (· > ·) :=
  ((wellFormed.isChain_ancestors inside).imp fun _ _ named =>
    (wellFormed.parent_lt named).1).pairwise

theorem getLast?_ancestors (wellFormed : tree.WellFormed) {id : NodeId}
    (inside : id < tree.nodes.size) : (id :: tree.ancestors id).getLast? = some 0 := by
  refine wellFormed.induction_on_parents ?root ?child inside
  case root => rw [ancestors_of_none wellFormed.parent_root, List.getLast?_singleton]
  case child =>
    intro id above named ih
    rw [wellFormed.ancestors_of_parent named, List.getLast?_cons_cons, ih]

/-- If parents stand one level above their children, then the way up takes one
step for each level. -/
theorem length_ancestors (wellFormed : tree.WellFormed)
    (levels : ∀ id above, (tree.node id).parent = some above →
      (tree.node above).level + 1 = (tree.node id).level)
    {id : NodeId} (inside : id < tree.nodes.size) :
    ((tree.ancestors id).length : Int) = (tree.node id).level + 1 := by
  refine wellFormed.induction_on_parents (motive := fun id =>
    ((tree.ancestors id).length : Int) = (tree.node id).level + 1) ?root ?child inside
  case root =>
    rw [ancestors_of_none wellFormed.parent_root,
      Node.eq_of_withoutChildren wellFormed.root Node.level fun _ => rfl]
    rfl
  case child =>
    intro id above named ih
    rw [wellFormed.ancestors_of_parent named, List.length_cons, Int.natCast_succ, ih,
      levels id above named]

/-- A walk that may take as many steps as the way up has finds all of it. -/
theorem ancestorsFrom_parent (wellFormed : tree.WellFormed) {id : NodeId}
    (inside : id < tree.nodes.size) {steps : Nat} (enough : (tree.ancestors id).length ≤ steps) :
    tree.ancestorsFrom steps (tree.node id).parent = tree.ancestors id := by
  refine wellFormed.induction_on_parents (motive := fun id => ∀ steps,
    (tree.ancestors id).length ≤ steps →
      tree.ancestorsFrom steps (tree.node id).parent = tree.ancestors id)
    ?root ?child inside steps enough
  case root =>
    intro steps _
    rw [ancestors_of_none wellFormed.parent_root, wellFormed.parent_root]
    cases steps <;> rfl
  case child =>
    intro id above named ih steps enough
    rw [wellFormed.ancestors_of_parent named] at enough ⊢
    cases steps with
    | zero => cases enough
    | succ steps => rw [named, ancestorsFrom, ih steps (Nat.le_of_succ_le_succ enough)]

end WellFormed

/-- The way from a node up to the root. -/
structure ClimbsToRoot (tree : SymbolTree) (id : NodeId) : Prop where
  linked : (id :: tree.ancestors id).IsChain fun below above =>
    (tree.node below).parent = some above
  descending : (id :: tree.ancestors id).Pairwise (· > ·)
  last : (id :: tree.ancestors id).getLast? = some 0
  top : (tree.node 0).parent = none
  /-- There is one step for each level. -/
  length : ((tree.ancestors id).length : Int) = (tree.node id).level + 1
  /-- A walk that may take more steps leads no further. -/
  complete : ∀ steps : Nat, (tree.node id).level + 1 ≤ steps →
    tree.ancestorsFrom steps (tree.node id).parent = tree.ancestors id

theorem climbsToRoot_ofRecords {records : List Record} (few : records.length < 2 ^ 31)
    {id : NodeId} (inside : id < (ofRecords records).1.nodes.size) :
    (ofRecords records).1.ClimbsToRoot id := by
  have wellFormed := wellFormed_ofRecords records
  have length := wellFormed.length_ancestors (fun _ _ => level_parent few) inside
  exact {
    linked := wellFormed.isChain_ancestors inside
    descending := wellFormed.pairwise_ancestors inside
    last := wellFormed.getLast?_ancestors inside
    top := wellFormed.parent_root
    length := length
    complete := fun steps enough => by
      apply wellFormed.ancestorsFrom_parent inside
      rw [← length] at enough
      exact Int.ofNat_le.mp enough }

/-! ## Scopes -/

/-- Whether a node is a namespace, class or structure with a name. -/
def IsNamedScope (tree : SymbolTree) (id : NodeId) : Prop :=
  ((tree.node id).tag = .nameSpace ∨ (tree.node id).tag = .classType ∨
      (tree.node id).tag = .structureType) ∧
    (tree.node id).name.isSome

instance (tree : SymbolTree) : DecidablePred tree.IsNamedScope :=
  fun _ => inferInstanceAs (Decidable (_ ∧ _))

/-- The nearest named scope above a node. -/
inductive EnclosedBy (tree : SymbolTree) : (id scope : NodeId) → Prop where
  | directly {id scope : NodeId} (named : (tree.node id).parent = some scope)
      (isScope : tree.IsNamedScope scope) : EnclosedBy tree id scope
  /-- Nodes that are no named scopes are passed over. -/
  | further {id scope : NodeId} (above : NodeId) (named : (tree.node id).parent = some above)
      (noScope : ¬ tree.IsNamedScope above) (enclosed : EnclosedBy tree above scope) :
      EnclosedBy tree id scope

/-- The names of the scopes around a node, the nearest first. -/
def scopeNames (tree : SymbolTree) (id : NodeId) : List String :=
  (tree.ancestors id).filterMap tree.scopeName?

theorem qualifiedName?_eq (id : NodeId) :
    tree.qualifiedName? id = (tree.node id).name.map fun name =>
      "::".intercalate ((tree.scopeNames id).reverse ++ [name]) :=
  rfl

theorem isNamedScope_iff (id : NodeId) :
    tree.IsNamedScope id ↔
      ((tree.node id).tag = .nameSpace || (tree.node id).tag.isRecord) = true ∧
        (tree.node id).name.isSome := by
  rw [IsNamedScope, Bool.or_eq_true, decide_eq_true_eq, Tag.isRecord_iff]

theorem scopeName?_of_isNamedScope {id : NodeId} (isScope : tree.IsNamedScope id) :
    tree.scopeName? id = (tree.node id).name :=
  if_pos ((isNamedScope_iff id).mp isScope).1

theorem scopeName?_of_not_isNamedScope {id : NodeId} (noScope : ¬ tree.IsNamedScope id) :
    tree.scopeName? id = none := by
  rw [scopeName?]
  split
  · rename_i scope
    rw [← Option.not_isSome_iff_eq_none]
    exact fun named => noScope ((isNamedScope_iff id).mpr ⟨scope, named⟩)
  · rfl

theorem scopeNames_of_parent (wellFormed : tree.WellFormed) {id above : NodeId}
    (named : (tree.node id).parent = some above) :
    tree.scopeNames id = (tree.scopeName? above).toList ++ tree.scopeNames above := by
  rw [scopeNames, wellFormed.ancestors_of_parent named]
  cases found : tree.scopeName? above with
  | none => exact List.filterMap_cons_none found
  | some name => exact List.filterMap_cons_some found

/-- The names around a node are that of the nearest scope and those around it. -/
theorem EnclosedBy.exists_scopeNames (wellFormed : tree.WellFormed) {id scope : NodeId}
    (enclosed : tree.EnclosedBy id scope) :
    ∃ name, (tree.node scope).name = some name ∧
      tree.scopeNames id = name :: tree.scopeNames scope := by
  induction enclosed with
  | directly named isScope =>
      obtain ⟨name, hasName⟩ := Option.isSome_iff_exists.mp isScope.2
      refine ⟨name, hasName, ?_⟩
      rw [scopeNames_of_parent wellFormed named, scopeName?_of_isNamedScope isScope, hasName]
      rfl
  | further above named noScope _ ih =>
      rw [scopeNames_of_parent wellFormed named, scopeName?_of_not_isNamedScope noScope]
      exact ih

theorem scopeNames_eq_nil (wellFormed : tree.WellFormed) {id : NodeId}
    (inside : id < tree.nodes.size) (alone : ∀ scope, ¬ tree.EnclosedBy id scope) :
    tree.scopeNames id = [] := by
  refine wellFormed.induction_on_parents (motive := fun id =>
    (∀ scope, ¬ tree.EnclosedBy id scope) → tree.scopeNames id = []) ?root ?child inside alone
  case root =>
    intro _
    rw [scopeNames, ancestors_of_none wellFormed.parent_root]
    rfl
  case child =>
    intro id above named ih alone
    have noScope : ¬ tree.IsNamedScope above :=
      fun isScope => alone above (.directly named isScope)
    rw [scopeNames_of_parent wellFormed named, scopeName?_of_not_isNamedScope noScope]
    exact ih fun scope enclosed => alone scope (.further above named noScope enclosed)

/-! ## Full names -/

/-- The full name of a node, told from that of the nearest scope around it. -/
structure NamedByScopes (tree : SymbolTree) (id : NodeId) : Prop where
  climb : tree.ClimbsToRoot id
  unnamed : tree.qualifiedName? id = none ↔ (tree.node id).name = none
  enclosed : ∀ name scope, (tree.node id).name = some name → tree.EnclosedBy id scope →
    ∃ outer, tree.qualifiedName? scope = some outer ∧
      tree.qualifiedName? id = some (outer ++ "::" ++ name)
  alone : ∀ name, (tree.node id).name = some name → (∀ scope, ¬ tree.EnclosedBy id scope) →
    tree.qualifiedName? id = some name

/-- Full names in the tree of any records are made so. -/
theorem ofRecords_namedByScopes {records : List Record} (few : records.length < 2 ^ 31)
    {id : NodeId} (inside : id < (ofRecords records).1.nodes.size) :
    (ofRecords records).1.NamedByScopes id where
  climb := climbsToRoot_ofRecords few inside
  unnamed := by rw [qualifiedName?_eq, Option.map_eq_none_iff]
  enclosed := fun name scope hasName enclosed => by
    obtain ⟨outer, scopeHasName, names⟩ :=
      enclosed.exists_scopeNames (wellFormed_ofRecords records)
    refine ⟨_, by rw [qualifiedName?_eq, scopeHasName, Option.map_some], ?_⟩
    rw [qualifiedName?_eq, hasName, Option.map_some, names, List.reverse_cons,
      String.intercalate_append_of_ne_nil (by simp) (by simp), String.intercalate_singleton]
  alone := fun name hasName alone => by
    rw [qualifiedName?_eq, hasName, Option.map_some,
      scopeNames_eq_nil (wellFormed_ofRecords records) inside alone]
    exact congrArg some String.intercalate_singleton

/-- An enumeration in a class in a namespace without a name, which stands in a
namespace with one.  The record before the enumeration is dropped. -/
theorem ofRecords_namedByScopes_mode :
    let hardware : Record := ⟨0, "10", 2, .nameSpace, some "hw", some "hw", {}, 0⟩
    let unnamed : Record := ⟨1, "18", 2, .nameSpace, none, none, {}, 2⟩
    let led : Record := ⟨2, "20", 3, .classType, some "Led", some "Led", {}, 3⟩
    let lost : Record := ⟨4, "2d", 3, .classType, some "Lost", some "Lost", {}, 5⟩
    let mode : Record := ⟨3, "30", 4, .enumerationType, some "Mode", some "Mode", {}, 7⟩
    let tree := (ofRecords [hardware, unnamed, led, lost, mode]).1
    [hardware, unnamed, led, lost, mode].length < 2 ^ 31 ∧ 4 < tree.nodes.size ∧
      tree.EnclosedBy 4 3 ∧ tree.EnclosedBy 3 1 ∧
      tree.qualifiedName? 4 = some "hw::Led::Mode" ∧ tree.NamedByScopes 4 :=
  ⟨by decide, by decide, .directly (by decide) ⟨by decide, by decide⟩,
    .further 2 (by decide) (by decide) (.directly (by decide) ⟨by decide, by decide⟩),
    by decide +kernel, ofRecords_namedByScopes (by decide) (by decide)⟩

end SymbolTree

end Bindery
