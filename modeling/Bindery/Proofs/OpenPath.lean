import Bindery.Proofs.TreeShape

/-!
# The open path and the records before

The open path is all that a builder remembers of the records that it was
offered.  Its entry for a level is the node of the nearest record before that
stands above the level, provided that this record was attached and stands just
one level above.  Dropped records count as records before: they lie too deep to
come between a record and its parent.
-/

namespace Bindery.TreeBuilder

/-- A record that was offered, with the place that it took unless it was
dropped. -/
structure Offer where
  record : Record
  place : Option NodeId
  deriving DecidableEq, Repr

/-- Records offered one after another. -/
def offers (builder : TreeBuilder) : List Record → List Offer
  | [] => []
  | record :: rest =>
      let (next, place, _) := builder.push record
      ⟨record, place⟩ :: next.offers rest

theorem offers_concat (builder : TreeBuilder) (records : List Record) (record : Record) :
    builder.offers (records ++ [record]) =
      builder.offers records ++ [⟨record, ((builder.pushAll records).1.push record).2.1⟩] := by
  induction records generalizing builder with
  | nil => rfl
  | cons first rest ih => simp [offers, pushAll, ih]

/-- The last of some offers whose record stands above a level. -/
def nearestAbove? (level : Nat) (offers : List Offer) : Option Offer :=
  offers.reverse.find? fun offer => offer.record.level.toNat < level

/-- The level of the last record that was attached, one above the first level
if there is none. -/
def attachedLevel (offers : List Offer) : Int :=
  match offers.reverse.find? fun offer => offer.place.isSome with
  | some offer => offer.record.level.toNat
  | none => -1

theorem nearestAbove?_concat (level : Nat) (offers : List Offer) (offer : Offer) :
    nearestAbove? level (offers ++ [offer]) =
      if offer.record.level.toNat < level then some offer else nearestAbove? level offers := by
  simp only [nearestAbove?, List.reverse_append, List.reverse_singleton, List.singleton_append,
    List.find?_cons]
  by_cases above : offer.record.level.toNat < level <;> simp [above]

theorem attachedLevel_concat (offers : List Offer) (offer : Offer) :
    attachedLevel (offers ++ [offer]) =
      if offer.place.isSome then (offer.record.level.toNat : Int) else attachedLevel offers := by
  simp only [attachedLevel, List.reverse_append, List.reverse_singleton, List.singleton_append,
    List.find?_cons]
  cases offer.place <;> rfl

/-! ## What the open path says -/

/-- The node below which a record of a level goes, after some offers. -/
def parentAfter? (level : Nat) (offers : List Offer) : Option NodeId :=
  match nearestAbove? level offers with
  | some offer => if offer.record.level.toNat + 1 = level then offer.place else none
  | none => if level = 0 then some 0 else none

theorem parentAfter?_concat (level : Nat) (offers : List Offer) (offer : Offer) :
    parentAfter? level (offers ++ [offer]) =
      if offer.record.level.toNat < level then
        if offer.record.level.toNat + 1 = level then offer.place else none
      else parentAfter? level offers := by
  unfold parentAfter?
  rw [nearestAbove?_concat]
  by_cases above : offer.record.level.toNat < level <;> simp [above]

theorem length_take_openPath {builder : TreeBuilder} {level : Nat} {parent : NodeId}
    (opened : builder.openPath[level]? = some parent) :
    (builder.openPath.take (level + 1)).length = level + 1 := by
  have inside := (List.getElem?_eq_some_iff.mp opened).1
  rw [List.length_take]
  omega

theorem getElem?_openPath_attach {builder : TreeBuilder} {record : Record} {parent : NodeId}
    (opened : builder.openPath[record.level.toNat]? = some parent) (level : Nat) :
    (builder.attach record parent).openPath[level]? =
      if record.level.toNat < level then
        if record.level.toNat + 1 = level then some builder.nodes.size else none
      else builder.openPath[level]? := by
  have length := length_take_openPath opened
  rw [attach, List.getElem?_append, length]
  by_cases deeper : record.level.toNat < level
  · rw [if_neg (by omega), if_pos deeper]
    by_cases next : record.level.toNat + 1 = level
    · simp [next]
    · rw [if_neg next, List.getElem?_eq_none_iff]
      rw [List.length_singleton]
      omega
  · rw [if_pos (by omega), if_neg deeper, List.getElem?_take_of_lt (by omega)]

/-- The entry of the open path for a level is the node below which a record of
that level goes. -/
theorem getElem?_openPath_pushAll (records : List Record) (level : Nat) :
    (pushAll {} records).1.openPath[level]? = parentAfter? level (offers {} records) := by
  induction records using List.reverseRecOn generalizing level with
  | nil => cases level <;> rfl
  | append_singleton earlier record ih =>
      rw [pushAll_concat_fst, offers_concat, parentAfter?_concat, ← ih]
      rcases push_cases (pushAll {} earlier).1 record with
        ⟨parent, opened, result⟩ | ⟨closed, result⟩
      · rw [result, getElem?_openPath_attach opened]
      · rw [result]
        dsimp only
        have short : (pushAll {} earlier).1.openPath.length ≤ record.level.toNat :=
          List.getElem?_eq_none_iff.mp closed
        split
        · rename_i deeper
          rw [List.getElem?_eq_none_iff.mpr (by omega)]
          split <;> rfl
        · rfl

/-- The last entry of the open path stands at the level attached last. -/
theorem leafLevel_pushAll (records : List Record) :
    (pushAll {} records).1.leafLevel = attachedLevel (offers {} records) := by
  induction records using List.reverseRecOn with
  | nil => rfl
  | append_singleton earlier record ih =>
      rw [pushAll_concat_fst, offers_concat, attachedLevel_concat, ← ih]
      rcases push_cases (pushAll {} earlier).1 record with
        ⟨parent, opened, result⟩ | ⟨closed, result⟩
      · rw [result, leafLevel, attach, List.length_append, length_take_openPath opened]
        simp only [List.length_singleton, Option.isSome_some, if_true]
        omega
      · rw [result]
        rfl

/-! ## Records that lie too deep -/

theorem push_of_length_le {builder : TreeBuilder} {record : Record}
    (deep : builder.openPath.length ≤ record.level.toNat) :
    builder.push record = (builder, none, [builder.skippedLevel record]) := by
  rcases builder.push_cases record with ⟨parent, opened, _⟩ | ⟨_, result⟩
  · have inside := (List.getElem?_eq_some_iff.mp opened).1
    omega
  · exact result

theorem length_le_of_push_eq_none {builder : TreeBuilder} {record : Record}
    (dropped : (builder.push record).2.1 = none) :
    builder.openPath.length ≤ record.level.toNat := by
  rcases builder.push_cases record with ⟨parent, _, result⟩ | ⟨closed, _⟩
  · rw [result] at dropped
    contradiction
  · exact List.getElem?_eq_none_iff.mp closed

/-- Records that all lie too deep leave the builder as it is. -/
theorem pushAll_of_length_le {builder : TreeBuilder} {records : List Record}
    (deep : ∀ record ∈ records, builder.openPath.length ≤ record.level.toNat) :
    (builder.pushAll records).1 = builder := by
  induction records with
  | nil => rfl
  | cons record rest ih =>
      have result := push_of_length_le (deep record List.mem_cons_self)
      simp only [pushAll, result]
      exact ih fun other member => deep other (List.mem_cons_of_mem _ member)

/-! ## Where a record ends up -/

theorem parentAfter?_eq_some_iff (level : Nat) (offers : List Offer) (parent : NodeId) :
    parentAfter? level offers = some parent ↔
      match nearestAbove? level offers with
      | some offer => offer.place = some parent ∧ offer.record.level.toNat + 1 = level
      | none => parent = 0 ∧ level = 0 := by
  unfold parentAfter?
  cases nearestAbove? level offers with
  | none =>
      by_cases top : level = 0
      · simp [top, eq_comm]
      · simp [top]
  | some offer =>
      by_cases next : offer.record.level.toNat + 1 = level <;> simp [next]

/-- The node of an attached record, after all later records too. -/
theorem withoutChildren_node_ofRecords {earlier : List Record} {record : Record}
    {parent : NodeId} (opened : (pushAll {} earlier).1.openPath[record.level.toNat]? = some parent)
    (later : List Record) :
    ((SymbolTree.ofRecords (earlier ++ record :: later)).1.node
        (pushAll {} earlier).1.nodes.size).withoutChildren = Node.ofRecord record parent := by
  have grounded := grounded_pushAll earlier
  have tree : (SymbolTree.ofRecords (earlier ++ record :: later)).1 =
      (((pushAll {} earlier).1.attach record parent).pushAll later).1.finish := by
    change (pushAll {} (earlier ++ record :: later)).1.finish = _
    rw [pushAll_append, pushAll, push, opened]
  have inside := grounded.inRange parent (List.mem_of_getElem? opened)
  rw [tree, withoutChildren_pushAll (grounded.attach opened), node_finish_attach inside,
    if_pos rfl]
  · rfl
  · rw [size_attach]
    exact Nat.lt_succ_self _

/-- An attached record goes below the nearest record above it, which stands one
level above and was attached, or below the root. -/
theorem exists_parent_of_placed {earlier : List Record} {record : Record} {id : NodeId}
    (placed : ((pushAll {} earlier).1.push record).2.1 = some id) (later : List Record) :
    ∃ parent,
      ((SymbolTree.ofRecords (earlier ++ record :: later)).1.node id).withoutChildren =
          Node.ofRecord record parent ∧
        id ∈ (SymbolTree.ofRecords (earlier ++ record :: later)).1.children parent ∧
        match nearestAbove? record.level.toNat (offers {} earlier) with
        | some offer =>
            offer.place = some parent ∧ offer.record.level.toNat + 1 = record.level.toNat
        | none => parent = 0 ∧ record.level.toNat = 0 := by
  rcases push_cases (pushAll {} earlier).1 record with ⟨parent, opened, result⟩ | ⟨_, result⟩
  · rw [result, Option.some.injEq] at placed
    subst placed
    have node := withoutChildren_node_ofRecords opened later
    have named : ((SymbolTree.ofRecords (earlier ++ record :: later)).1.node
        (pushAll {} earlier).1.nodes.size).parent = some parent :=
      Node.eq_of_withoutChildren node Node.parent fun _ => rfl
    have wellFormed := SymbolTree.wellFormed_ofRecords (earlier ++ record :: later)
    refine ⟨parent, node, (wellFormed.mem_children_iff _ _).mpr ⟨⟨?_, ?_⟩, named⟩, ?_⟩
    · exact (grounded_pushAll earlier).tree.nonempty
    · exact (wellFormed.parent_lt named).2
    · rw [getElem?_openPath_pushAll] at opened
      exact (parentAfter?_eq_some_iff _ _ _).mp opened
  · rw [result] at placed
    contradiction

/-- What becomes of a record that is offered between others. -/
structure Placement (earlier : List Record) (record : Record) (later : List Record) : Prop where
  leafLevel : (pushAll {} earlier).1.leafLevel = attachedLevel (offers {} earlier)
  isSome_iff : ((pushAll {} earlier).1.push record).2.1.isSome ↔
    (record.level.toNat : Int) ≤ (pushAll {} earlier).1.leafLevel + 1
  /-- A dropped record leaves one warning and nothing else. -/
  dropped : ((pushAll {} earlier).1.push record).2.1 = none →
    ∃ warning, (pushAll {} earlier).1.push record = ((pushAll {} earlier).1, none, [warning]) ∧
      warning.severity = .warning
  /-- An attached record goes below the nearest record above it, which stands
  one level above and was attached, or below the root. -/
  attached : ∀ id, ((pushAll {} earlier).1.push record).2.1 = some id → ∃ parent,
    ((SymbolTree.ofRecords (earlier ++ record :: later)).1.node id).withoutChildren =
        Node.ofRecord record parent ∧
      id ∈ (SymbolTree.ofRecords (earlier ++ record :: later)).1.children parent ∧
      match nearestAbove? record.level.toNat (offers {} earlier) with
      | some offer =>
          offer.place = some parent ∧ offer.record.level.toNat + 1 = record.level.toNat
      | none => parent = 0 ∧ record.level.toNat = 0
  /-- What lies below a dropped record is dropped too. -/
  below : ∀ before above between, earlier = before ++ above :: between →
    ((pushAll {} before).1.push above).2.1 = none →
    (∀ deeper ∈ between ++ [record], above.level < deeper.level) →
    ((pushAll {} earlier).1.push record).2.1 = none

/-- Every record of every sequence ends up so. -/
theorem placement (earlier : List Record) (record : Record) (later : List Record) :
    Placement earlier record later where
  leafLevel := leafLevel_pushAll earlier
  isSome_iff := push_isSome_iff _ record
  dropped := fun missing => by
    refine ⟨_, push_of_length_le (length_le_of_push_eq_none missing), rfl⟩
  attached := fun _ placed => exists_parent_of_placed placed later
  below := by
    rintro before above between rfl missing deeper
    have short := length_le_of_push_eq_none missing
    have unchanged : (pushAll {} (before ++ above :: between)).1 = (pushAll {} before).1 := by
      rw [pushAll_append]
      apply pushAll_of_length_le
      intro other member
      rcases List.mem_cons.mp member with rfl | inBetween
      · exact short
      · have := UInt32.lt_iff_toNat_lt.mp (deeper other (List.mem_append_left _ inBetween))
        omega
    have deep := UInt32.lt_iff_toNat_lt.mp (deeper record (by simp))
    rw [unchanged, push_of_length_le (by omega)]

end Bindery.TreeBuilder
