import Mathlib.Data.List.Find
import Bindery.Proofs.AgreeingBindings
import Bindery.Proofs.Resolution
import Bindery.SymbolTree.View

/-!
# Trees that go on

Records that open with one of the first level go below the root and below each
other, so they leave every entry before them as it was.  The tree of more
records extends the tree of the first ones.

A resolved tree that extends another one agrees with it on all its entries, as
long as no new entry takes an address that a link before it refers to.
-/

namespace Bindery

namespace TreeBuilder

/-- The open path leads past the entries among the first nodes. -/
structure Past (builder : TreeBuilder) (size : Nat) : Prop where
  size_le : size ≤ builder.nodes.size
  path : ∀ id ∈ builder.openPath, id = 0 ∨ size ≤ id

theorem Past.attach {builder : TreeBuilder} {size : Nat} (past : builder.Past size)
    (record : Record) (parent : NodeId) : (builder.attach record parent).Past size where
  size_le := by
    rw [size_attach]
    exact Nat.le_succ_of_le past.size_le
  path := by
    intro id member
    rcases List.mem_append.mp member with before | new
    · exact past.path id (List.mem_of_mem_take before)
    · rw [List.mem_singleton.mp new]
      exact Or.inr past.size_le

/-- A record below the root or a later entry leaves the first entries alone. -/
theorem node_attach_of_apart {builder : TreeBuilder} {size : Nat} {parent id : NodeId}
    (inside : parent < builder.nodes.size) (sizeLe : size ≤ builder.nodes.size)
    (apart : parent = 0 ∨ size ≤ parent) (record : Record) (positive : 0 < id) (old : id < size) :
    (builder.attach record parent).finish.node id = builder.finish.node id := by
  have notNew : id ≠ builder.nodes.size := Nat.ne_of_lt (Nat.lt_of_lt_of_le old sizeLe)
  have notParent : id ≠ parent := by
    rcases apart with rfl | later
    · exact Nat.ne_of_gt positive
    · exact Nat.ne_of_lt (Nat.lt_of_lt_of_le old later)
  rw [node_finish_attach inside, if_neg notNew, if_neg notParent]

theorem node_pushAll_of_past {builder : TreeBuilder} (grounded : builder.Grounded) {size : Nat}
    (past : builder.Past size) (records : List Record) {id : NodeId} (positive : 0 < id)
    (old : id < size) : (builder.pushAll records).1.finish.node id = builder.finish.node id := by
  induction records generalizing builder with
  | nil => rfl
  | cons record rest ih =>
      rcases builder.push_cases record with ⟨parent, opened, result⟩ | ⟨_, result⟩
      · have member := List.mem_of_getElem? opened
        simp only [pushAll, result]
        rw [ih (grounded.attach opened) (past.attach record parent)]
        exact node_attach_of_apart (grounded.inRange parent member) past.size_le
          (past.path parent member) record positive old
      · simp only [pushAll, result]
        exact ih grounded past

/-- Records that begin at the first level leave every entry before them alone. -/
theorem node_pushAll_of_top {builder : TreeBuilder} (grounded : builder.Grounded)
    {records : List Record} (top : ∀ record ∈ records.head?, record.level = 0) {id : NodeId}
    (positive : 0 < id) (old : id < builder.nodes.size) :
    (builder.pushAll records).1.finish.node id = builder.finish.node id := by
  cases records with
  | nil => rfl
  | cons record rest =>
      have level : record.level.toNat = 0 := by rw [top record rfl]; rfl
      have opened : builder.openPath[record.level.toNat]? = some 0 := by
        rw [level]
        exact grounded.openPath_zero
      have past : (builder.attach record 0).Past builder.nodes.size := by
        constructor
        · rw [size_attach]
          exact Nat.le_succ _
        · intro other member
          rcases List.mem_append.mp member with before | new
          · have path : builder.openPath.take (record.level.toNat + 1) = [0] := by
              rw [level, List.take_one]
              simpa [List.head?_eq_getElem?] using grounded.openPath_zero
            rw [path] at before
            exact Or.inl (List.mem_singleton.mp before)
          · exact Or.inr (Nat.le_of_eq (List.mem_singleton.mp new).symm)
      simp only [pushAll, push, opened]
      rw [node_pushAll_of_past (grounded.attach opened) past rest positive old]
      exact node_attach_of_apart grounded.tree.nonempty (Nat.le_refl _) (Or.inl rfl) record
        positive old

end TreeBuilder

namespace SymbolTree

/-- A tree with all entries of another one at their places. -/
structure Extends (first second : SymbolTree) : Prop where
  size_le : first.nodes.size ≤ second.nodes.size
  node : ∀ id ∈ first.ids, second.node id = first.node id

theorem ofRecords_append (earlier later : List Record) :
    (ofRecords (earlier ++ later)).1 =
      ((TreeBuilder.pushAll {} earlier).1.pushAll later).1.finish := by
  change (TreeBuilder.pushAll {} (earlier ++ later)).1.finish = _
  rw [TreeBuilder.pushAll_append]

theorem extends_ofRecords (earlier : List Record) {later : List Record}
    (top : ∀ record ∈ later.head?, record.level = 0) :
    Extends (ofRecords earlier).1 (ofRecords (earlier ++ later)).1 := by
  rw [ofRecords_append]
  constructor
  · exact TreeBuilder.size_le_pushAll _ later
  · intro id member
    rcases (mem_ids_iff _ id).mp member with ⟨positive, inside⟩
    exact TreeBuilder.node_pushAll_of_top (TreeBuilder.grounded_pushAll earlier) top positive inside

/-- The entries that a tree has beyond another one. -/
def newIds (first second : SymbolTree) : List NodeId :=
  List.range' first.nodes.size (second.nodes.size - first.nodes.size)

theorem mem_newIds_iff {first second : SymbolTree}
    (sizeLe : first.nodes.size ≤ second.nodes.size) (id : NodeId) :
    id ∈ newIds first second ↔ first.nodes.size ≤ id ∧ id < second.nodes.size := by
  rw [newIds, List.mem_range'_1, Nat.add_sub_cancel' sizeLe]

theorem exists_record_of_mem_newIds {earlier later : List Record} {id : NodeId}
    (member : id ∈ newIds (ofRecords earlier).1 (ofRecords (earlier ++ later)).1) :
    ∃ record ∈ later, ∃ parent,
      ((ofRecords (earlier ++ later)).1.node id).withoutChildren = Node.ofRecord record parent := by
  rw [ofRecords_append] at member ⊢
  rcases (mem_newIds_iff (TreeBuilder.size_le_pushAll _ later) id).mp member with ⟨new, inside⟩
  exact TreeBuilder.exists_record_pushAll (TreeBuilder.grounded_pushAll earlier) later new inside

namespace Extends

variable {first second : SymbolTree}

theorem ids (extension : Extends first second) (nonempty : 0 < first.nodes.size) :
    second.ids = first.ids ++ newIds first second := by
  have sizeLe := extension.size_le
  rw [SymbolTree.ids, SymbolTree.ids, newIds, size, size]
  have start : first.nodes.size = 1 + (first.nodes.size - 1) := (Nat.add_sub_of_le nonempty).symm
  have total : second.nodes.size - 1 =
      (first.nodes.size - 1) + (second.nodes.size - first.nodes.size) := by omega
  rw [total, ← List.range'_append_1, ← start]

/-! ## Links -/

/-- No new entry takes an address that a raw link of an old entry refers to. -/
def Undisturbed (first second : SymbolTree) : Prop :=
  ∀ id ∈ first.ids, ∀ text, (first.node id).link = .raw text →
    ∀ digits, reference? text.toList = some digits →
      ∀ new ∈ newIds first second, (second.node new).address ≠ addressKey (String.ofList digits)

theorem referent? (extension : Extends first second) (nonempty : 0 < first.nodes.size)
    {text : String} (apart : ∀ digits, reference? text.toList = some digits →
      ∀ new ∈ newIds first second, (second.node new).address ≠ addressKey (String.ofList digits)) :
    second.referent? text = first.referent? text := by
  unfold SymbolTree.referent?
  cases refers : reference? text.toList with
  | none => rfl
  | some digits =>
      have noneNew : (newIds first second).reverse.find? (fun new =>
          (second.node new).address = addressKey (String.ofList digits)) = none := by
        rw [List.find?_eq_none]
        intro new isNew
        have different := apart digits refers new (List.mem_reverse.mp isNew)
        simpa using different
      rw [Option.bind_some, Option.bind_some, extension.ids nonempty, List.reverse_append,
        List.find?_append, noneNew, Option.none_or]
      apply List.find?_congr
      intro id member
      rw [extension.node id (List.mem_reverse.mp member)]

theorem settledLink (extension : Extends first second) (nonempty : 0 < first.nodes.size)
    (undisturbed : Undisturbed first second) {id : NodeId} (member : id ∈ first.ids) :
    second.settledLink (first.node id).link = first.settledLink (first.node id).link := by
  cases link : (first.node id).link with
  | absent => rfl
  | target other => rfl
  | raw text =>
      rw [SymbolTree.settledLink, SymbolTree.settledLink,
        extension.referent? nonempty (undisturbed id member text link)]

/-- Resolving keeps an extension. -/
theorem resolve (extension : Extends first second) (nonempty : 0 < first.nodes.size)
    (undisturbed : Undisturbed first second) :
    Extends first.resolve.tree second.resolve.tree := by
  constructor
  · rw [size_resolve, size_resolve]
    exact extension.size_le
  · intro id member
    rw [ids_resolve] at member
    rw [node_resolve, node_resolve, extension.node id member,
      extension.settledLink nonempty undisturbed member]

/-! ## Ancestors -/

/-- Children apart, the root too reads the same. -/
theorem field_eq (extension : Extends first second) (firstFormed : first.WellFormed)
    (secondFormed : second.WellFormed) {id : NodeId} (inside : id < first.nodes.size)
    {α : Type} (field : Node → α) (blind : ∀ node : Node, field node.withoutChildren = field node) :
    field (second.node id) = field (first.node id) := by
  rcases Nat.eq_zero_or_pos id with rfl | positive
  · rw [← blind (second.node 0), ← blind (first.node 0), firstFormed.root, secondFormed.root]
  · rw [extension.node id ((mem_ids_iff first id).mpr ⟨positive, inside⟩)]

/-- The names of the scopes from a node up to the root.  By induction on the
place of the node, since parents stand before their children. -/
theorem scopes (extension : Extends first second) (firstFormed : first.WellFormed)
    (secondFormed : second.WellFormed) {id steps others : Nat} (inside : id < first.nodes.size)
    (enough : id < steps) (alsoEnough : id < others) :
    (second.ancestorsFrom others (some id)).filterMap second.scopeName? =
      (first.ancestorsFrom steps (some id)).filterMap first.scopeName? := by
  induction id using Nat.strong_induction_on generalizing steps others with
  | _ id ih =>
      obtain ⟨steps, rfl⟩ := Nat.exists_eq_succ_of_ne_zero (Nat.ne_of_gt (Nat.zero_lt_of_lt enough))
      obtain ⟨others, rfl⟩ :=
        Nat.exists_eq_succ_of_ne_zero (Nat.ne_of_gt (Nat.zero_lt_of_lt alsoEnough))
      have tag := extension.field_eq firstFormed secondFormed inside Node.tag fun _ => rfl
      have name := extension.field_eq firstFormed secondFormed inside Node.name fun _ => rfl
      have parent := extension.field_eq firstFormed secondFormed inside Node.parent fun _ => rfl
      have scope : second.scopeName? id = first.scopeName? id := by
        simp only [scopeName?, tag, name]
      have rest : (second.ancestorsFrom others (first.node id).parent).filterMap
            second.scopeName? =
          (first.ancestorsFrom steps (first.node id).parent).filterMap first.scopeName? := by
        cases named : (first.node id).parent with
        | none => cases steps <;> cases others <;> rfl
        | some above =>
            have before := (firstFormed.parent_lt named).1
            exact ih above before (Nat.lt_trans before inside)
              (Nat.lt_of_lt_of_le before (Nat.le_of_lt_succ enough))
              (Nat.lt_of_lt_of_le before (Nat.le_of_lt_succ alsoEnough))
      rw [ancestorsFrom, ancestorsFrom, parent, List.filterMap_cons, List.filterMap_cons, scope,
        rest]

theorem qualifiedName? (extension : Extends first second) (firstFormed : first.WellFormed)
    (secondFormed : second.WellFormed) {id : NodeId} (member : id ∈ first.ids) :
    second.qualifiedName? id = first.qualifiedName? id := by
  rcases (mem_ids_iff first id).mp member with ⟨positive, inside⟩
  rcases firstFormed.parent id positive inside with ⟨above, before, named⟩
  have aboveInside := Nat.lt_trans before inside
  rw [SymbolTree.qualifiedName?, SymbolTree.qualifiedName?, ancestors, ancestors,
    extension.node id member, named, extension.scopes firstFormed secondFormed aboveInside
      aboveInside (Nat.lt_of_lt_of_le aboveInside extension.size_le)]

theorem access (extension : Extends first second) (firstFormed : first.WellFormed)
    (secondFormed : second.WellFormed) {id : NodeId} (member : id ∈ first.ids) :
    second.access id = first.access id := by
  rcases (mem_ids_iff first id).mp member with ⟨positive, inside⟩
  rcases firstFormed.parent id positive inside with ⟨above, before, named⟩
  have tag := extension.field_eq firstFormed secondFormed (Nat.lt_trans before inside) Node.tag
    fun _ => rfl
  rw [SymbolTree.access, SymbolTree.access, extension.node id member, named, Option.map_some,
    Option.map_some, tag]

/-- An extension agrees with the smaller tree on all entries of it. -/
theorem agree (extension : Extends first second) (firstFormed : first.WellFormed)
    (secondFormed : second.WellFormed) (closed : first.Closed) :
    Agree first second (· ∈ first.ids) where
  node := extension.node
  target := fun id _ target named => closed id target named
  child := fun _ _ _ member => Or.inl (firstFormed.mem_ids_of_mem_children member)
  access := fun _ member => extension.access firstFormed secondFormed member
  qualifiedName? := fun _ member => extension.qualifiedName? firstFormed secondFormed member

/-! ## Views -/

theorem typedFields (extension : Extends first second) (closed : first.Closed) (depth : Nat)
    {id : NodeId} (member : id ∈ first.ids) :
    second.typedFields depth id = first.typedFields depth id := by
  induction depth generalizing id with
  | zero =>
      unfold SymbolTree.typedFields
      rw [extension.node id member]
      cases link : (first.node id).link with
      | absent => rfl
      | raw text => rfl
      | target target => simp only [extension.node target (closed id target link)]
  | succ depth ih =>
      unfold SymbolTree.typedFields
      rw [extension.node id member]
      cases link : (first.node id).link with
      | absent => rfl
      | raw text => rfl
      | target target => simp only [ih (closed id target link)]

/-- Children stand after their parents, so the generations that are counted
never run out. -/
theorem viewTo (extension : Extends first second) (firstFormed : first.WellFormed)
    (closed : first.Closed) (depth : Nat) {id generations others : Nat} (member : id ∈ first.ids)
    (enough : first.nodes.size ≤ id + generations) (alsoEnough : first.nodes.size ≤ id + others) :
    second.viewTo depth others id = first.viewTo depth generations id := by
  induction generations generalizing id others with
  | zero => exact absurd ((mem_ids_iff first id).mp member).2 (Nat.not_lt.mpr enough)
  | succ generations ih =>
      have inside := ((mem_ids_iff first id).mp member).2
      obtain ⟨others, rfl⟩ : ∃ count, others = count + 1 :=
        Nat.exists_eq_succ_of_ne_zero (by omega)
      have children : second.children id = first.children id :=
        congrArg (fun node => node.children.toList) (extension.node id member)
      have views : (second.children id).map (second.viewTo depth others) =
          (first.children id).map (first.viewTo depth generations) := by
        rw [children]
        apply List.map_congr_left
        intro child isChild
        have after : id < child := (firstFormed.lt_of_mem_children isChild).1
        apply ih
        · exact firstFormed.mem_ids_of_mem_children isChild
        · omega
        · omega
      rw [SymbolTree.viewTo, SymbolTree.viewTo, views, extension.typedFields closed depth member]

theorem view (extension : Extends first second) (firstFormed : first.WellFormed)
    (closed : first.Closed) {id : NodeId} (member : id ∈ first.ids) (depth : Nat) :
    second.view id depth = first.view id depth :=
  extension.viewTo firstFormed closed depth member (Nat.le_add_left _ _)
    (Nat.le_trans extension.size_le (Nat.le_add_left _ _))

/-! ## Classes -/

/-- A definition stays the class of its name, and so does a declaration while no
new entry is a class of the name. -/
theorem findClass? (extension : Extends first second) (nonempty : 0 < first.nodes.size)
    {name : String} {owner : NodeId} (found : first.findClass? name = some owner)
    (settled : (first.node owner).isDeclaration = false ∨
      ∀ id ∈ newIds first second, second.isClassNamed name id = false) :
    second.findClass? name = some owner := by
  have candidates : second.ids.filter (second.isClassNamed name) =
      first.ids.filter (first.isClassNamed name) ++
        (newIds first second).filter (second.isClassNamed name) := by
    rw [extension.ids nonempty, List.filter_append]
    congr 1
    apply List.filter_congr
    intro id member
    rw [isClassNamed, isClassNamed, extension.node id member]
  have definition : (first.ids.filter (first.isClassNamed name)).find?
        (fun id => !(second.node id).isDeclaration) =
      (first.ids.filter (first.isClassNamed name)).find?
        (fun id => !(first.node id).isDeclaration) := by
    apply List.find?_congr
    intro id member
    rw [extension.node id (List.mem_filter.mp member).1]
  simp only [SymbolTree.findClass?] at found ⊢
  rw [candidates, List.find?_append, definition]
  cases defined : (first.ids.filter (first.isClassNamed name)).find?
      (fun id => !(first.node id).isDeclaration) with
  | some id =>
      rw [defined] at found
      exact found
  | none =>
      rw [defined, Option.none_or] at found
      rcases settled with isDefinition | noneNew
      · have declared := List.find?_eq_none.mp defined owner (List.mem_of_mem_head? found)
        rw [isDefinition] at declared
        contradiction
      · have noCandidate : (newIds first second).filter (second.isClassNamed name) = [] := by
          rw [List.filter_eq_nil_iff]
          intro id member
          rw [noneNew id member]
          exact Bool.false_ne_true
        rw [noCandidate, List.append_nil]
        exact found

end Extends

end SymbolTree

end Bindery
