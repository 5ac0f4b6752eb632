import Bindery.Proofs.SignedNumeral
import Bindery.SymbolTree.Query

/-!
# The values of enumerators

An enumeration lists its named constants in the order of their declaration.  The
value of a constant is the number that opens its text, where blanks may stand
before the number and anything after a blank behind it.  A constant without a
value stands for its position among all constants, those without a name
included.
-/

namespace Bindery

namespace SymbolTree

open Bindery.Text

/-- A number that opens a text is read. -/
theorem constant?_of_opens {text : String} {number : Int} (opens : Opens text number) :
    constant? text = some number := by
  obtain ⟨blanks, word, rest, split, before, writes, after⟩ := opens
  have first : firstWord? text.toList = some word := by
    rw [split, firstWord?_append before writes.ne_nil writes.not_isBlank after]
  rw [constant?, first, Option.bind_eq_bind, Option.bind_some]
  cases writes with
  | decimal _ least greatest =>
      split
      · rename_i digits isHex
        -- No decimal number has an `x` in it.
        have mark : 'x' ∈ (toString number).toList := by
          rw [isHex]
          exact List.mem_cons_of_mem _ List.mem_cons_self
        exact absurd (Json.isNumeral_of_mem_toString mark) (by decide)
      · exact signed64?_of_integer? (integer?_toString number) least greatest
  | hexadecimal writes greatest =>
      apply signed64?_of_integer? (integer?_of_natural? writes.natural?)
      · omega
      · omega

example : constant? "\t-9223372036854775808 (least)" = some (-2 ^ 63) := by decide +kernel

example : constant? "0x007FFFffffFFFFffff" = some (2 ^ 63 - 1) := by decide +kernel

/-! ## Constants of an enumeration -/

/-- Whether a node is a constant of an enumeration. -/
def isConstant (tree : SymbolTree) (id : NodeId) : Bool :=
  (tree.node id).tag = .enumerator

/-- Whether a node is a constant with a name. -/
def isNamedConstant (tree : SymbolTree) (id : NodeId) : Bool :=
  (tree.node id).name.isSome && tree.isConstant id

/-- The constants among some nodes, from a position on. -/
def enumeratorsFrom (tree : SymbolTree) (position : Nat) (ids : List NodeId) : List Enumerator :=
  ((ids.filter tree.isConstant).zipIdx position).filterMap fun entry =>
    tree.enumerator? entry.2 entry.1

variable {tree : SymbolTree}

theorem enumerators_eq (enumeration : NodeId) :
    tree.enumerators enumeration = tree.enumeratorsFrom 0 (tree.children enumeration) :=
  rfl

theorem enumeratorsFrom_append (position : Nat) (before after : List NodeId) :
    tree.enumeratorsFrom position (before ++ after) =
      tree.enumeratorsFrom position before ++
        tree.enumeratorsFrom (position + before.countP tree.isConstant) after := by
  rw [enumeratorsFrom, List.filter_append, List.zipIdx_append, List.filterMap_append,
    List.countP_eq_length_filter]
  rfl

theorem enumeratorsFrom_cons {id : NodeId} (constant : tree.isConstant id = true)
    (position : Nat) (after : List NodeId) :
    tree.enumeratorsFrom position (id :: after) =
      (tree.enumerator? position id).toList ++ tree.enumeratorsFrom (position + 1) after := by
  rw [enumeratorsFrom, List.filter_cons_of_pos constant, List.zipIdx_cons]
  cases found : tree.enumerator? position id with
  | none => exact List.filterMap_cons_none found
  | some enumerator => exact List.filterMap_cons_some found

theorem map_name_enumeratorsFrom (position : Nat) (ids : List NodeId) :
    (tree.enumeratorsFrom position ids).map Enumerator.name =
      (ids.filter tree.isConstant).filterMap fun id => (tree.node id).name := by
  have named : (fun entry : NodeId × Nat =>
      (tree.enumerator? entry.2 entry.1).map Enumerator.name) =
        (fun id => (tree.node id).name) ∘ Prod.fst := by
    funext entry
    rw [enumerator?, Option.map_map]
    exact Option.map_id_apply
  rw [enumeratorsFrom, List.map_filterMap, named, ← List.filterMap_map, List.zipIdx_map_fst]

theorem length_enumeratorsFrom (position : Nat) (ids : List NodeId) :
    (tree.enumeratorsFrom position ids).length = ids.countP tree.isNamedConstant := by
  rw [← List.length_map, map_name_enumeratorsFrom, List.length_filterMap_eq_countP,
    List.countP_filter]
  rfl

/-! ## Their values -/

/-- What a constant stands for, given how many constants stand before it. -/
structure StandsForValue (tree : SymbolTree) (position : Nat) (id : NodeId) (value : Int) :
    Prop where
  written : ∀ text number, (tree.node id).attributes.get? "const_value" = some text →
    Text.Opens text number → value = number
  silent : (tree.node id).attributes.get? "const_value" = none → value = position

/-- What the list of the constants of an enumeration says. -/
structure ListsConstants (tree : SymbolTree) (enumeration : NodeId) : Prop where
  names : (tree.enumerators enumeration).map Enumerator.name =
    ((tree.children enumeration).filter tree.isConstant).filterMap fun id => (tree.node id).name
  /-- Constants without a name are not listed, but count for the position. -/
  values : ∀ before id after name, tree.children enumeration = before ++ id :: after →
    tree.isConstant id = true → (tree.node id).name = some name →
      ∃ value, tree.StandsForValue (before.countP tree.isConstant) id value ∧
        (tree.enumerators enumeration)[before.countP tree.isNamedConstant]? = some ⟨name, value⟩

theorem exists_enumerator? {id : NodeId} {name : String} (named : (tree.node id).name = some name)
    (position : Nat) :
    ∃ value, tree.StandsForValue position id value ∧
      tree.enumerator? position id = some ⟨name, value⟩ := by
  refine ⟨_, ⟨fun text number stated opens => ?_, fun silent => ?_⟩, by
    rw [enumerator?, named, Option.map_some]⟩
  · rw [stated, Option.bind_some, constant?_of_opens opens, Option.getD_some]
  · rw [silent, Option.bind_none, Option.getD_none]

/-- All named constants are listed in order, each with its value. -/
theorem enumerators_listsConstants (tree : SymbolTree) (enumeration : NodeId) :
    tree.ListsConstants enumeration where
  names := map_name_enumeratorsFrom 0 _
  values := fun before id after name split constant named => by
    obtain ⟨value, stands, entry⟩ := exists_enumerator? named (before.countP tree.isConstant)
    refine ⟨value, stands, ?_⟩
    rw [enumerators_eq, split, enumeratorsFrom_append, Nat.zero_add, enumeratorsFrom_cons constant,
      entry, ← length_enumeratorsFrom 0 before, List.getElem?_append_right (Nat.le_refl _),
      Nat.sub_self]
    rfl

end SymbolTree

end Bindery
