import Bindery.Proofs.OrderedMap
import Bindery.Proofs.Resolution
import Bindery.SymbolTree.View

/-!
# Views to a smaller depth

A view shows types in place down to a depth of links.  A view to a smaller
depth shows nothing else: it is the deeper one with the types below that depth
shown as addresses.  The descendants of the node are shown at every depth, one
object for each, and no type is shown with children.

Links may run in circles, so the types of a view have no depth of their own.
Only the depth that is asked for brings them to an end.
-/

namespace Bindery

namespace OrderedMap

universe u v

variable {κ : Type u} {α : Type v} [DecidableEq κ]

/-- A change of the values by their keys may come before or after a value is
put in its place. -/
theorem map_place (change : κ → α → α) (key : κ) (value : α) (entries : List (κ × α)) :
    (place key value entries).map (fun entry => (entry.1, change entry.1 entry.2)) =
      place key (change key value) (entries.map fun entry => (entry.1, change entry.1 entry.2)) := by
  induction entries with
  | nil => rfl
  | cons entry rest ih =>
      by_cases same : entry.1 = key
      · simp [place, same]
      · simp [place, same, ih]

end OrderedMap

/-! ## Cutting types short -/

namespace Json

/-- A number or a text. -/
def IsScalar : Json → Prop
  | .number _ | .string _ => True
  | .array _ | .object _ => False

/-- The address that the members of an object give. -/
def addressOf (members : List (String × Json)) : String :=
  match OrderedMap.lookup "address" members with
  | some (.string address) => address
  | _ => ""

/-- A type in which all objects below a depth are shown as addresses. -/
def cutType : (depth : Nat) → Json → Json
  | 0, .object members => .string (SymbolTree.addressText (addressOf members))
  | depth + 1, .object members =>
      .object (members.map fun member =>
        (member.1, if member.1 = "type" then cutType depth member.2 else member.2))
  | _, value => value

mutual

/-- The object of a node in which the types of the node and of its descendants
are cut short. -/
def cut (depth : Nat) : Json → Json
  | .object members => .object (cutMembers depth members)
  | .array items => .array items
  | .string text => .string text
  | .number value => .number value

/-- The members of such an object. -/
def cutMembers (depth : Nat) : List (String × Json) → List (String × Json)
  | [] => []
  | (key, value) :: rest => (key, cutMember depth key value) :: cutMembers depth rest

/-- One member of such an object.  Its children are objects of nodes again. -/
def cutMember (depth : Nat) (key : String) : Json → Json
  | .array items => .array (if key = "children" then cutItems depth items else items)
  | .object members => if key = "type" then cutType depth (.object members) else .object members
  | .string text => .string text
  | .number value => .number value

/-- The objects of children. -/
def cutItems (depth : Nat) : List Json → List Json
  | [] => []
  | item :: rest => cut depth item :: cutItems depth rest

end

/-- The members of a type in which all objects below a depth are shown as
addresses. -/
def cutTypes (depth : Nat) (members : List (String × Json)) : List (String × Json) :=
  members.map fun member =>
    (member.1, if member.1 = "type" then cutType depth member.2 else member.2)

theorem cutMembers_eq_map (depth : Nat) (members : List (String × Json)) :
    cutMembers depth members =
      members.map fun member => (member.1, cutMember depth member.1 member.2) := by
  induction members with
  | nil => rfl
  | cons member rest ih => rw [cutMembers, ih, List.map_cons]

theorem cutItems_eq_map (depth : Nat) (items : List Json) :
    cutItems depth items = items.map (cut depth) := by
  induction items with
  | nil => rfl
  | cons item rest ih => rw [cutItems, ih, List.map_cons]

theorem cutType_of_isScalar {value : Json} (scalar : value.IsScalar) (depth : Nat) :
    cutType depth value = value := by
  cases value with
  | number _ | string _ => cases depth <;> rfl
  | array _ | object _ => exact scalar.elim

/-- Numbers and texts are shown at any depth. -/
theorem cutTypes_eq_self {members : List (String × Json)}
    (scalars : ∀ member ∈ members, member.2.IsScalar) (depth : Nat) :
    cutTypes depth members = members := by
  refine (List.map_congr_left fun member inMembers => ?_).trans (List.map_id' members)
  rw [cutType_of_isScalar (scalars member inMembers), ite_self]

theorem cutTypes_place (depth : Nat) (value : Json) (members : List (String × Json)) :
    cutTypes depth (OrderedMap.place "type" value members) =
      OrderedMap.place "type" (cutType depth value) (cutTypes depth members) := by
  have changed := OrderedMap.map_place
    (fun key value => if key = "type" then cutType depth value else value) "type" value members
  rwa [if_pos rfl] at changed

end Json

namespace SymbolTree

open Bindery.Json

/-! ## The members of a node -/

/-- Members that are numbers and texts. -/
def Members.AllScalar (members : Members) : Prop :=
  ∀ member ∈ members.entries, member.2.IsScalar

theorem Members.AllScalar.insert {members : Members} (scalars : members.AllScalar)
    (key text : String) : Members.AllScalar (OrderedMap.insert members key (.string text)) := by
  intro member inMembers
  rcases OrderedMap.mem_or_snd_eq_of_mem_place inMembers with old | new
  · exact scalars member old
  · rw [new]
    trivial

/-- The fields and attributes of a node are numbers and texts. -/
theorem allScalar_fields (node : Node) : (fields node).AllScalar := by
  have attributes : ∀ (entries : List (String × String)) (members : Members),
      members.AllScalar → Members.AllScalar (entries.foldl
        (fun members entry => members.insert entry.1 (.string entry.2)) members) := by
    intro entries
    induction entries with
    | nil => exact fun _ scalars => scalars
    | cons entry rest ih => exact fun _ scalars => ih _ (scalars.insert entry.1 entry.2)
  apply attributes
  have base : Members.AllScalar ⟨[
      ("level", .number node.level),
      ("address", .string node.address),
      ("tag", .string node.tag.name)]⟩ := by
    simp [Members.AllScalar, IsScalar]
  cases node.name with
  | none =>
      cases node.fullName with
      | none => exact base
      | some full => exact base.insert "fullName" full
  | some name =>
      cases node.fullName with
      | none => exact base.insert "name" name
      | some full => exact (base.insert "name" name).insert "fullName" full

/-- No attribute takes the place of the address. -/
theorem get?_address_fields {node : Node} (plain : "address" ∉ node.attributes.keys) :
    (fields node).get? "address" = some (.string node.address) := by
  have attributes : ∀ (entries : List (String × String)) (members : Members),
      "address" ∉ entries.map Prod.fst → (entries.foldl
        (fun members entry => members.insert entry.1 (.string entry.2)) members).get? "address" =
          members.get? "address" := by
    intro entries
    induction entries with
    | nil => exact fun _ _ => rfl
    | cons entry rest ih =>
        intro members apart
        rw [List.map_cons, List.mem_cons, not_or] at apart
        rw [List.foldl_cons, ih _ apart.2, OrderedMap.get?_insert, if_neg (Ne.symm apart.1)]
  rw [fields, attributes _ _ plain]
  cases node.name <;> cases node.fullName <;> rfl

/-! ## Types to a smaller depth -/

/-- What is shown of a type to a depth. -/
def shownType (tree : SymbolTree) (depth : Nat) (target : NodeId) : Json :=
  match depth with
  | 0 => .string (addressText (tree.node target).address)
  | depth + 1 => .object (tree.typedFields depth target).entries

theorem typedFields_eq (tree : SymbolTree) (depth : Nat) (id : NodeId) :
    tree.typedFields depth id =
      match (tree.node id).link with
      | .absent => fields (tree.node id)
      | .raw text => (fields (tree.node id)).insert "type" (.string text)
      | .target target => (fields (tree.node id)).insert "type" (tree.shownType depth target) := by
  unfold typedFields
  cases (tree.node id).link with
  | absent | raw text => rfl
  | target target => cases depth <;> rfl

/-- The only member of a node that is no number and no text is its type. -/
theorem cases_of_mem_typedFields {tree : SymbolTree} {depth : Nat} {id : NodeId}
    {member : String × Json} (inMembers : member ∈ (tree.typedFields depth id).entries) :
    member.2.IsScalar ∨ ∃ deeper target,
      member.2 = .object (tree.typedFields deeper target).entries := by
  have scalars := allScalar_fields (tree.node id)
  rw [typedFields_eq] at inMembers
  split at inMembers
  · exact Or.inl (scalars member inMembers)
  · exact Or.inl (scalars.insert "type" _ member inMembers)
  · rename_i target _
    rcases OrderedMap.mem_or_snd_eq_of_mem_place inMembers with old | new
    · exact Or.inl (scalars member old)
    · rw [new]
      cases depth with
      | zero => exact Or.inl trivial
      | succ deeper => exact Or.inr ⟨deeper, target, rfl⟩

theorem get?_address_typedFields {tree : SymbolTree} {id : NodeId}
    (plain : "address" ∉ (tree.node id).attributes.keys) (depth : Nat) :
    (tree.typedFields depth id).get? "address" = some (.string (tree.node id).address) := by
  rw [typedFields_eq]
  split <;> simp [OrderedMap.get?_insert, get?_address_fields plain]

theorem cutTypes_typedFields_of_shown {tree : SymbolTree} {shallow deep : Nat}
    (shown : ∀ target, cutType shallow (tree.shownType deep target) = tree.shownType shallow target)
    (id : NodeId) :
    cutTypes shallow (tree.typedFields deep id).entries =
      (tree.typedFields shallow id).entries := by
  have scalars := cutTypes_eq_self (allScalar_fields (tree.node id)) shallow
  rw [typedFields_eq, typedFields_eq]
  cases (tree.node id).link with
  | absent => exact scalars
  | raw text =>
      dsimp only [OrderedMap.insert]
      have scalar : (Json.string text).IsScalar := trivial
      rw [cutTypes_place, scalars, cutType_of_isScalar scalar]
  | target target =>
      dsimp only [OrderedMap.insert]
      rw [cutTypes_place, scalars, shown]

/-- By induction on the smaller depth.  One link further both depths are one
less. -/
theorem cutType_shownType {tree : SymbolTree}
    (plain : ∀ id, "address" ∉ (tree.node id).attributes.keys) {shallow deep : Nat}
    (below : shallow ≤ deep) (target : NodeId) :
    cutType shallow (tree.shownType deep target) = tree.shownType shallow target := by
  induction shallow generalizing deep target with
  | zero =>
      cases deep with
      | zero => rfl
      | succ deep =>
          have address := get?_address_typedFields (plain target) deep
          rw [OrderedMap.get?] at address
          simp only [shownType, cutType, addressOf, address]
  | succ shallow ih =>
      cases deep with
      | zero => exact absurd below (Nat.not_succ_le_zero shallow)
      | succ deep =>
          have members := cutTypes_typedFields_of_shown
            (fun next => ih (Nat.le_of_succ_le_succ below) next) target
          exact congrArg Json.object members

theorem cutTypes_typedFields {tree : SymbolTree}
    (plain : ∀ id, "address" ∉ (tree.node id).attributes.keys) {shallow deep : Nat}
    (below : shallow ≤ deep) (id : NodeId) :
    cutTypes shallow (tree.typedFields deep id).entries =
      (tree.typedFields shallow id).entries :=
  cutTypes_typedFields_of_shown (cutType_shownType plain below) id

/-! ## Views to a smaller depth -/

/-- No member of a node is an array. -/
theorem cutMember_of_mem_typedFields {tree : SymbolTree} {deep : Nat} {id : NodeId}
    {member : String × Json} (inMembers : member ∈ (tree.typedFields deep id).entries)
    (depth : Nat) :
    cutMember depth member.1 member.2 =
      if member.1 = "type" then cutType depth member.2 else member.2 := by
  rcases cases_of_mem_typedFields inMembers with scalar | ⟨deeper, target, same⟩
  · rw [cutType_of_isScalar scalar, ite_self]
    cases held : member.2 with
    | number _ | string _ => rfl
    | array _ | object _ => exact (held ▸ scalar).elim
  · rw [same]
    rfl

theorem cutMembers_typedFields {tree : SymbolTree}
    (plain : ∀ id, "address" ∉ (tree.node id).attributes.keys) {shallow deep : Nat}
    (below : shallow ≤ deep) (id : NodeId) :
    cutMembers shallow (tree.typedFields deep id).entries =
      (tree.typedFields shallow id).entries := by
  rw [← cutTypes_typedFields plain below, cutMembers_eq_map]
  apply List.map_congr_left
  intro member inMembers
  rw [cutMember_of_mem_typedFields inMembers]

/-- The members of a node with its children. -/
def shownMembers (tree : SymbolTree) (depth : Nat) (id : NodeId) (children : List Json) :
    List (String × Json) :=
  ((tree.typedFields depth id).insert "children" (.array children)).entries

theorem cutMembers_shownMembers {tree : SymbolTree}
    (plain : ∀ id, "address" ∉ (tree.node id).attributes.keys) {shallow deep : Nat}
    (below : shallow ≤ deep) (id : NodeId) (children : List Json) :
    cutMembers shallow (tree.shownMembers deep id children) =
      tree.shownMembers shallow id (cutItems shallow children) := by
  have fields := cutMembers_typedFields plain below id
  rw [cutMembers_eq_map] at fields ⊢
  rw [shownMembers, OrderedMap.insert, OrderedMap.map_place, fields]
  rfl

theorem cut_viewTo {tree : SymbolTree}
    (plain : ∀ id, "address" ∉ (tree.node id).attributes.keys) {shallow deep : Nat}
    (below : shallow ≤ deep) (generations : Nat) (id : NodeId) :
    (tree.viewTo deep generations id).cut shallow = tree.viewTo shallow generations id := by
  induction generations generalizing id with
  | zero => exact congrArg Json.object (cutMembers_shownMembers plain below id [])
  | succ generations ih =>
      have views : cutItems shallow ((tree.children id).map (tree.viewTo deep generations)) =
          (tree.children id).map (tree.viewTo shallow generations) := by
        rw [cutItems_eq_map, List.map_map]
        exact List.map_congr_left fun child _ => ih child
      have members := cutMembers_shownMembers plain below id
        ((tree.children id).map (tree.viewTo deep generations))
      rw [views] at members
      exact congrArg Json.object members

/-! ## Children at every depth -/

/-- A value that shows a node with all its descendants, one object for each and
every one in its place. -/
inductive Mirrors (tree : SymbolTree) (depth : Nat) : NodeId → Json → Prop where
  | node {id : NodeId} {members : List (String × Json)} {items : List Json}
      (fields : ∀ key, key ≠ "children" →
        OrderedMap.lookup key members = (tree.typedFields depth id).get? key)
      (address : OrderedMap.lookup "address" members = some (.string (tree.node id).address))
      (children : OrderedMap.lookup "children" members = some (.array items))
      (mirrored : List.Forall₂ (Mirrors tree depth) (tree.children id) items) :
      Mirrors tree depth id (.object members)

theorem mirrors_of_forall₂ {tree : SymbolTree} {depth : Nat} {id : NodeId} {items : List Json}
    (plain : "address" ∉ (tree.node id).attributes.keys)
    (mirrored : List.Forall₂ (tree.Mirrors depth) (tree.children id) items) :
    tree.Mirrors depth id (.object (tree.shownMembers depth id items)) := by
  have others : ∀ key, key ≠ "children" →
      OrderedMap.lookup key (tree.shownMembers depth id items) =
        (tree.typedFields depth id).get? key := by
    intro key other
    exact (OrderedMap.lookup_place _ _ _ _).trans (if_neg (Ne.symm other))
  refine .node others ?_ ?_ mirrored
  · rw [others "address" (by decide), get?_address_typedFields plain]
  · exact (OrderedMap.lookup_place _ _ _ _).trans (if_pos rfl)

/-- Every child stands behind its parent, so a node has at most as many
generations below it as there are nodes behind it. -/
theorem mirrors_viewTo {tree : SymbolTree} (wellFormed : tree.WellFormed)
    (plain : ∀ id, "address" ∉ (tree.node id).attributes.keys) (depth generations : Nat)
    (id : NodeId) (enough : tree.nodes.size ≤ id + generations) :
    tree.Mirrors depth id (tree.viewTo depth generations id) := by
  induction generations generalizing id with
  | zero =>
      have outside : tree.nodes.size ≤ id := enough
      have childless : tree.children id = [] := by
        rw [children, node_of_size_le outside]
        rfl
      apply mirrors_of_forall₂ (plain id)
      rw [childless]
      exact .nil
  | succ generations ih =>
      apply mirrors_of_forall₂ (plain id)
      rw [List.forall₂_map_right_iff, List.forall₂_same]
      intro child member
      apply ih
      calc
        tree.nodes.size ≤ id + 1 + generations := Nat.le_trans enough (by omega)
        _ ≤ child + generations :=
          Nat.add_le_add_right (wellFormed.lt_of_mem_children member).1 generations

end SymbolTree

/-! ## Types without children -/

/-- The members of an object that a view of a node shows as a type, of the node
or of a descendant, at any depth of links. -/
inductive Json.ShowsType : Json → List (String × Json) → Prop where
  | own {members inner : List (String × Json)} (held : ("type", .object inner) ∈ members) :
      ShowsType (.object members) inner
  | further {value : Json} {outer inner : List (String × Json)} (shown : ShowsType value outer)
      (held : ("type", .object inner) ∈ outer) : ShowsType value inner
  | ofChild {members inner : List (String × Json)} {items : List Json} {item : Json}
      (held : ("children", .array items) ∈ members) (member : item ∈ items)
      (shown : ShowsType item inner) : ShowsType (.object members) inner

namespace SymbolTree

theorem exists_items_viewTo (tree : SymbolTree) (depth generations : Nat) (id : NodeId) :
    ∃ items, tree.viewTo depth generations id = .object (tree.shownMembers depth id items) ∧
      ∀ item ∈ items, ∃ fewer child, item = tree.viewTo depth fewer child := by
  cases generations with
  | zero => exact ⟨[], rfl, nofun⟩
  | succ generations =>
      refine ⟨_, rfl, fun item member => ?_⟩
      obtain ⟨child, _, rfl⟩ := List.mem_map.mp member
      exact ⟨generations, child, rfl⟩

theorem array_not_mem_typedFields (tree : SymbolTree) (depth : Nat) (id : NodeId) (key : String)
    (items : List Json) : (key, .array items) ∉ (tree.typedFields depth id).entries := by
  intro member
  rcases cases_of_mem_typedFields member with scalar | ⟨deeper, target, same⟩
  · exact scalar
  · cases same

/-- An object among the members of a node consists of the members of another
one. -/
theorem exists_of_object_mem_typedFields {tree : SymbolTree} {depth : Nat} {id : NodeId}
    {key : String} {inner : List (String × Json)}
    (member : (key, .object inner) ∈ (tree.typedFields depth id).entries) :
    ∃ deeper target, inner = (tree.typedFields deeper target).entries := by
  rcases cases_of_mem_typedFields member with scalar | ⟨deeper, target, same⟩
  · exact scalar.elim
  · exact ⟨deeper, target, Json.object.inj same⟩

/-- Every type is shown by members of a node to which no children are added. -/
theorem exists_of_showsType {tree : SymbolTree} {depth : Nat} {value : Json}
    {inner : List (String × Json)} (shown : value.ShowsType inner) :
    (∃ generations id, value = tree.viewTo depth generations id) →
      ∃ deeper target, inner = (tree.typedFields deeper target).entries := by
  induction shown with
  | own held =>
      rintro ⟨generations, id, same⟩
      obtain ⟨items, viewed, _⟩ := exists_items_viewTo tree depth generations id
      cases same.trans viewed
      rcases OrderedMap.mem_or_snd_eq_of_mem_place held with old | new
      · exact exists_of_object_mem_typedFields old
      · cases new
  | further _ held ih =>
      intro viewed
      obtain ⟨deeper, target, rfl⟩ := ih viewed
      exact exists_of_object_mem_typedFields held
  | ofChild held member _ ih =>
      rintro ⟨generations, id, same⟩
      obtain ⟨items, viewed, children⟩ := exists_items_viewTo tree depth generations id
      cases same.trans viewed
      rcases OrderedMap.mem_or_snd_eq_of_mem_place held with old | new
      · exact absurd old (array_not_mem_typedFields tree depth id "children" _)
      · cases new
        exact ih (children _ member)

/-! ## Views to any depth -/

/-- Only entries have attributes. -/
theorem attributes_eq_empty {tree : SymbolTree} (wellFormed : tree.WellFormed) {id : NodeId}
    (noEntry : id ∉ tree.ids) : (tree.node id).attributes = {} := by
  rcases Nat.eq_zero_or_pos id with rfl | positive
  · exact Node.eq_of_withoutChildren wellFormed.root Node.attributes fun _ => rfl
  · rw [mem_ids_iff, not_and, Nat.not_lt] at noEntry
    rw [node_of_size_le (noEntry positive)]
    rfl

/-- What the views of a node to all depths have to do with each other and with
the tree. -/
structure ShowsToDepth (tree : SymbolTree) (id : NodeId) : Prop where
  /-- A view to a smaller depth is the deeper one, cut short. -/
  cut : ∀ shallow deep, shallow ≤ deep →
    tree.view id shallow = (tree.view id deep).cut shallow
  mirrors : ∀ depth, tree.Mirrors depth id (tree.view id depth)
  childless : ∀ depth inner, (tree.view id depth).ShowsType inner →
    ∀ items, ("children", .array items) ∉ inner

/-- Depth does nothing but cut types short, wherever the links of the tree lead,
unless an attribute takes the place of an address. -/
theorem view_showsToDepth {tree : SymbolTree} (wellFormed : tree.WellFormed)
    (plain : ∀ id ∈ tree.ids, "address" ∉ (tree.node id).attributes.keys) (id : NodeId) :
    tree.ShowsToDepth id := by
  have everywhere : ∀ id, "address" ∉ (tree.node id).attributes.keys := by
    intro id
    by_cases member : id ∈ tree.ids
    · exact plain id member
    · rw [attributes_eq_empty wellFormed member]
      exact List.not_mem_nil
  exact {
    cut := fun shallow deep below => (cut_viewTo everywhere below tree.nodes.size id).symm
    mirrors := fun depth => mirrors_viewTo wellFormed everywhere depth tree.nodes.size id
      (Nat.le_add_left _ _)
    childless := fun depth inner shown items => by
      obtain ⟨deeper, target, rfl⟩ := exists_of_showsType shown ⟨tree.nodes.size, id, rfl⟩
      exact array_not_mem_typedFields tree deeper target "children" items }

/-- Two types that are each other's type. -/
def loopRecords : List Record := [
  { level := 0, address := "10", abbreviation := 1, tag := .typedef, name := some "Loop",
    attributes := ⟨[("type", "<0x20>")]⟩, line := 0 },
  { level := 0, address := "20", abbreviation := 2, tag := .constType,
    attributes := ⟨[("type", "<0x10>")]⟩, line := 2 }]

theorem view_showsToDepth_loop :
    ∃ tree, (ofRecords loopRecords).1.resolve.tree = tree ∧
      (tree.node 1).link = .target 2 ∧ (tree.node 2).link = .target 1 ∧
      ∀ id, tree.ShowsToDepth id := by
  refine ⟨_, rfl, ?_, ?_, view_showsToDepth (wellFormed_ofRecords loopRecords).resolve ?_⟩
  · rw [node_resolve]
    decide +kernel
  · rw [node_resolve]
    decide +kernel
  · intro id member
    rw [ids_resolve] at member
    rw [node_resolve]
    revert id
    decide +kernel

end SymbolTree

end Bindery
