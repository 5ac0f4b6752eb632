import Bindery.Diagnostic
import Bindery.SymbolTree.Basic

/-!
# Building a tree

Records arrive in document order, each with its level.  The *open path* leads
from the root to the record attached last; a record of level `n` goes below the
node at place `n` of that path and becomes the end of the new path.  A record
more than one level below the last one has no parent and is dropped.
-/

namespace Bindery

/-- A tree under construction. -/
structure TreeBuilder where
  nodes : Array Node := #[Node.root]
  /-- The nodes from the root to the one attached last. -/
  openPath : List NodeId := [0]
  deriving DecidableEq, Repr

namespace TreeBuilder

/-- The level of the record attached last, one above the first level before
there is one. -/
def leafLevel (builder : TreeBuilder) : Int :=
  (builder.openPath.length : Int) - 2

/-- What is reported about a record that skips a level. -/
def skippedLevel (builder : TreeBuilder) (record : Record) : Diagnostic :=
  ((Diagnostic.warning
      ("Dropping " ++ record.tag.word ++ " at <" ++ record.address ++ ">: level " ++
        toString record.level.toNat ++ " follows level " ++ toString builder.leafLevel)).atLine
    record.line).withHelp
      "each record may be at most one level deeper than the one before it"

/-- Add a record below a node and end the open path with it. -/
def attach (builder : TreeBuilder) (record : Record) (parent : NodeId) : TreeBuilder :=
  let { nodes, openPath } := builder
  let id := nodes.size
  { nodes := (nodes.modify parent (Node.withChild id)).push (Node.ofRecord record parent)
    openPath := openPath.take (record.level.toNat + 1) ++ [id] }

@[simp]
theorem size_attach (builder : TreeBuilder) (record : Record) (parent : NodeId) :
    (builder.attach record parent).nodes.size = builder.nodes.size + 1 := by
  simp [attach]

/-- Offer the next record.  The answer holds the place that the record took, if
it was not dropped, and the finding about a dropped one. -/
def push (builder : TreeBuilder) (record : Record) :
    TreeBuilder × Option NodeId × Diagnostics :=
  match builder.openPath[record.level.toNat]? with
  | some parent =>
      let id := builder.nodes.size
      (builder.attach record parent, some id, [])
  | none => (builder, none, [builder.skippedLevel record])

/-- A record is attached exactly when it is at most one level below the record
attached last. -/
theorem push_isSome_iff (builder : TreeBuilder) (record : Record) :
    (builder.push record).2.1.isSome ↔ (record.level.toNat : Int) ≤ builder.leafLevel + 1 := by
  unfold push leafLevel
  split
  · rename_i parent found
    have := (List.getElem?_eq_some_iff.mp found).1
    simp only [Option.isSome_some, true_iff]
    omega
  · rename_i missing
    have := List.getElem?_eq_none_iff.mp missing
    simp only [Option.isSome_none, Bool.false_eq_true, false_iff]
    omega

/-- Offer records one after another. -/
def pushAll (builder : TreeBuilder) : List Record → TreeBuilder × Diagnostics
  | [] => (builder, [])
  | record :: rest =>
      let (next, _, findings) := builder.push record
      let (last, later) := next.pushAll rest
      (last, findings ++ later)

/-- The tree built so far. -/
def finish (builder : TreeBuilder) : SymbolTree :=
  ⟨builder.nodes⟩

end TreeBuilder

/-- The tree of records in document order.  No link is resolved yet. -/
def SymbolTree.ofRecords (records : List Record) : SymbolTree × Diagnostics :=
  let (builder, findings) := TreeBuilder.pushAll {} records
  (builder.finish, findings)

end Bindery
