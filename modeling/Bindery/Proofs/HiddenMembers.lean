import Bindery.Proofs.AgreeingBindings
import Bindery.Proofs.Resolution

/-!
# Members that are hidden

Nothing that is generated for a class depends on what a member function is
called, takes or returns unless the function is public.  Only that it stands
among the children of the class is read, and that it is not public.

The walks through types go from link to link.  So a hidden member must not be
the target of a link, which no compiler makes it.
-/

namespace Bindery

/-- A node whose names, attributes and type are covered up. -/
def Node.covered (node : Node) : Node :=
  { node with name := none, fullName := none, attributes := {}, link := .absent }

namespace SymbolTree

/-- A member function of a class that is not public and that no link leads
to. -/
structure HiddenIn (tree : SymbolTree) (owner id : NodeId) : Prop where
  member : id ∈ tree.children owner
  hidden : tree.Hidden id
  noTarget : ∀ other, (tree.node other).link ≠ .target id

/-- Trees that differ in what is covered up of hidden members and in nothing
else. -/
structure AlikeBut (first second : SymbolTree) (owner : NodeId) : Prop where
  size : second.nodes.size = first.nodes.size
  covered : ∀ id, (second.node id).covered = (first.node id).covered
  node : ∀ id, ¬ (first.HiddenIn owner id ∧ second.HiddenIn owner id) →
    second.node id = first.node id

namespace AlikeBut

variable {first second : SymbolTree} {owner : NodeId}

/-- What is read off a node as it is covered up is the same in both trees. -/
theorem field_eq (alike : AlikeBut first second owner) {α : Type} (field : Node → α)
    (blind : ∀ node : Node, field node.covered = field node) (id : NodeId) :
    field (second.node id) = field (first.node id) := by
  rw [← blind, alike.covered, blind]

/-- Functions lend no name to what they enclose. -/
theorem scopeName? (alike : AlikeBut first second owner) (id : NodeId) :
    second.scopeName? id = first.scopeName? id := by
  by_cases hidden : first.HiddenIn owner id ∧ second.HiddenIn owner id
  · rw [SymbolTree.scopeName?, SymbolTree.scopeName?, hidden.1.hidden.1, hidden.2.hidden.1]
    rfl
  · rw [SymbolTree.scopeName?, SymbolTree.scopeName?, alike.node id hidden]

theorem ancestorsFrom (alike : AlikeBut first second owner) (steps : Nat)
    (start : Option NodeId) :
    second.ancestorsFrom steps start = first.ancestorsFrom steps start := by
  induction steps generalizing start with
  | zero => rfl
  | succ steps ih =>
      cases start with
      | none => rfl
      | some id =>
          rw [SymbolTree.ancestorsFrom, SymbolTree.ancestorsFrom, ih,
            alike.field_eq Node.parent (fun _ => rfl) id]

/-- The trees agree on everything but the hidden members. -/
theorem agree (alike : AlikeBut first second owner) :
    Agree first second fun id => ¬ (first.HiddenIn owner id ∧ second.HiddenIn owner id) where
  node := alike.node
  target := fun id _ target link hidden => hidden.1.noTarget id link
  child := fun _ _ child _ => by
    by_cases hidden : first.HiddenIn owner child ∧ second.HiddenIn owner child
    · exact Or.inr ⟨hidden.1.hidden, hidden.2.hidden⟩
    · exact Or.inl hidden
  access := fun id shown => by
    have tag : ∀ above, (second.node above).tag = (first.node above).tag :=
      alike.field_eq Node.tag fun _ => rfl
    simp only [SymbolTree.access, alike.node id shown, tag]
  qualifiedName? := fun id shown => by
    have scopes : second.scopeName? = first.scopeName? := funext alike.scopeName?
    simp only [SymbolTree.qualifiedName?, ancestors, alike.node id shown, alike.size,
      alike.ancestorsFrom, scopes]

end AlikeBut

/-- What is generated for a class does not depend on its hidden members. -/
theorem bindings_ignoreHidden {first second : SymbolTree} {owner : NodeId}
    (wellFormed : first.WellFormed) (alike : AlikeBut first second owner) (scriptName : String) :
    second.bindings owner scriptName = first.bindings owner scriptName := by
  -- No node is a child of its own, so the class is none of its hidden members.
  have shown : ¬ (first.HiddenIn owner owner ∧ second.HiddenIn owner owner) := fun hidden =>
    Nat.lt_irrefl owner (wellFormed.lt_of_mem_children hidden.1.member).1
  exact alike.agree.bindings shown scriptName

/-- A class with a member function of any kind and a public one. -/
def lampRecords (member : Record) : List Record := [
  { level := 0, address := "b", abbreviation := 1, tag := .classType, name := some "Lamp",
    line := 0 },
  member,
  { level := 1, address := "d", abbreviation := 2, tag := .subprogram, name := some "blink",
    attributes := ⟨[("accessibility", "1")]⟩, line := 2 },
  { level := 0, address := "e", abbreviation := 3, tag := .baseType, name := some "int",
    line := 3 }]

/-- A private function that returns a number. -/
def dimRecord : Record where
  level := 1
  address := "c"
  abbreviation := 2
  tag := .subprogram
  name := some "dim"
  attributes := ⟨[("type", "<0xe>")]⟩
  line := 1

/-- A protected function that returns nothing. -/
def fadeRecord : Record where
  level := 1
  address := "c"
  abbreviation := 2
  tag := .subprogram
  name := some "fade"
  attributes := ⟨[("accessibility", "2")]⟩
  line := 1

/-- The tree of the class with a member function. -/
def lampTree (member : Record) : SymbolTree :=
  (ofRecords (lampRecords member)).1.resolve.tree

theorem size_lampTree {member : Record} (chosen : member ∈ [dimRecord, fadeRecord]) :
    (lampTree member).nodes.size = 5 := by
  rw [lampTree, size_resolve]
  revert member
  decide +kernel

theorem hiddenIn_lampTree {member : Record} (chosen : member ∈ [dimRecord, fadeRecord]) :
    (lampTree member).HiddenIn 1 2 := by
  refine ⟨?_, ?_, fun other => ?_⟩
  · rw [lampTree, children_resolve]
    revert member
    decide +kernel
  · simp only [Hidden, access, lampTree, node_resolve]
    revert member
    decide +kernel
  · rcases Nat.lt_or_ge other 5 with inside | outside
    · rw [lampTree, node_resolve]
      revert member other
      decide +kernel
    · rw [node_of_size_le (Nat.le_trans (Nat.le_of_eq (size_lampTree chosen)) outside)]
      exact Link.noConfusion

theorem node_lampTree {id : NodeId} (other : id ≠ 2) :
    (lampTree fadeRecord).node id = (lampTree dimRecord).node id := by
  rcases Nat.lt_or_ge id 5 with inside | outside
  · rw [lampTree, lampTree, node_resolve, node_resolve]
    revert other
    revert id
    decide +kernel
  · have dimSize : (lampTree dimRecord).nodes.size = 5 := size_lampTree (by simp)
    have fadeSize : (lampTree fadeRecord).nodes.size = 5 := size_lampTree (by simp)
    rw [node_of_size_le (Nat.le_trans (Nat.le_of_eq fadeSize) outside),
      node_of_size_le (Nat.le_trans (Nat.le_of_eq dimSize) outside)]

theorem alikeBut_lampTree : AlikeBut (lampTree dimRecord) (lampTree fadeRecord) 1 where
  size := (size_lampTree (by simp)).trans (size_lampTree (by simp)).symm
  covered := by
    intro id
    by_cases member : id = 2
    · rw [member, lampTree, lampTree, node_resolve, node_resolve]
      decide +kernel
    · rw [node_lampTree member]
  node := fun id shown => node_lampTree fun member =>
    shown (member ▸ ⟨hiddenIn_lampTree (by simp), hiddenIn_lampTree (by simp)⟩)

theorem bindings_ignoreHidden_lamp :
    AlikeBut (lampTree dimRecord) (lampTree fadeRecord) 1 ∧
      (lampTree fadeRecord).node 2 ≠ (lampTree dimRecord).node 2 ∧
      ∀ scriptName, (lampTree fadeRecord).bindings 1 scriptName =
        (lampTree dimRecord).bindings 1 scriptName := by
  refine ⟨alikeBut_lampTree, ?_, fun scriptName =>
    bindings_ignoreHidden (wellFormed_ofRecords _).resolve alikeBut_lampTree scriptName⟩
  rw [lampTree, lampTree, node_resolve, node_resolve]
  decide +kernel

end SymbolTree

end Bindery
