import Bindery.Proofs.BodyParts
import Bindery.Proofs.CodeRuns
import Bindery.Proofs.Numeral

/-!
# The choice by the number of arguments

When the number of arguments is known, the tests of all other numbers fail.  So
the lines that are run are those of a single overload, in both layouts of an
entry point.
-/

namespace Bindery

universe u v w

/-- The header of the block for a number of arguments. -/
def countHeader (number : Nat) : String :=
  "if (args_count == " ++ toString number ++ ") \x7b"

theorem countHeader_eq (number : Nat) :
    "if (" ++ countTest number ++ ") \x7b" = countHeader number := by
  have opening : "if (args_count == " = "if (" ++ "args_count == " := rfl
  unfold countTest countHeader
  rw [opening, ← String.append_assoc]

theorem countHeader_injective : Function.Injective countHeader := by
  intro first second same
  unfold countHeader at same
  rw [String.append_left_inj, String.append_right_inj] at same
  exact Text.toString_injective same

/-- Of the headers that test the number of arguments, the one for the given
number holds. -/
def KnowsCount (holds : String → Bool) (count : Nat) : Prop :=
  ∀ number, holds (countHeader number) = decide (number = count)

/-- The number of arguments can always be known, because the tests differ. -/
theorem exists_knowsCount (count : Nat) : ∃ holds, KnowsCount holds count := by
  refine ⟨fun header => header = countHeader count, ?_⟩
  intro number
  simp only [countHeader_injective.eq_iff]

/-! ## Blocks -/

theorem path_countBlock {holds : String → Bool} {count : Nat} (knows : KnowsCount holds count)
    (overload : Overload) (body : List Code) :
    (OverloadSet.countBlock overload body).path holds =
      if overload.arity = count then Code.allPaths holds body else [] := by
  rw [OverloadSet.countBlock, Code.path, countHeader_eq, knows]
  simp only [decide_eq_true_eq]

/-- Of items with distinct keys, only the one with a given key contributes. -/
theorem flatMap_eq_of_nodup {α : Type u} {κ : Type v} {β : Type w} {items : List α} {item : α}
    {key : α → κ} {part : α → List β}
    (distinct : (items.map key).Nodup) (member : item ∈ items)
    (others : ∀ other ∈ items, key other ≠ key item → part other = []) :
    items.flatMap part = part item := by
  obtain ⟨before, after, rfl⟩ := List.append_of_mem member
  rw [List.map_append, List.map_cons, List.nodup_middle, List.nodup_cons, List.mem_append,
    not_or] at distinct
  have noneBefore : before.flatMap part = [] := by
    rw [List.flatMap_eq_nil_iff]
    intro other inBefore
    apply others other (List.mem_append_left _ inBefore)
    intro same
    exact distinct.1.1 (List.mem_map.mpr ⟨other, inBefore, same⟩)
  have noneAfter : after.flatMap part = [] := by
    rw [List.flatMap_eq_nil_iff]
    intro other inAfter
    apply others other (List.mem_append_right _ (List.mem_cons_of_mem _ inAfter))
    intro same
    exact distinct.1.2 (List.mem_map.mpr ⟨other, inAfter, same⟩)
  rw [List.flatMap_append, List.flatMap_cons, noneBefore, noneAfter, List.nil_append,
    List.append_nil]

/-- Of all blocks only the one for the given number is entered. -/
theorem allPaths_countBlocks {holds : String → Bool} {count : Nat}
    (knows : KnowsCount holds count) {overloads : List Overload} {overload : Overload}
    (distinct : (overloads.map Overload.arity).Nodup) (member : overload ∈ overloads)
    (arity : overload.arity = count) (body : Overload → List Code) :
    Code.allPaths holds
        (overloads.map fun overload => OverloadSet.countBlock overload (body overload)) =
      Code.allPaths holds (body overload) := by
  rw [Code.allPaths_eq_flatMap, List.flatMap_map, flatMap_eq_of_nodup distinct member]
  · rw [path_countBlock knows, if_pos arity]
  · intro other _ different
    rw [path_countBlock knows, if_neg (arity ▸ different)]

/-! ## The choice -/

theorem OverloadSet.Arranged.nodup_arities {overloads : OverloadSet}
    (arranged : overloads.Arranged) : (overloads.values.map Overload.arity).Nodup := by
  have keys : overloads.values.map Overload.arity = overloads.keys := by
    rw [OrderedMap.values, OrderedMap.keys, List.map_map]
    apply List.map_congr_left
    intro entry inEntries
    exact arranged.arity entry.1 entry.2 inEntries
  exact keys ▸ arranged.nodup_keys

namespace ClassNames

variable (names : ClassNames)

/-- What is run before the body of the chosen overload. -/
def lead (role : Role) (overloads : OverloadSet) : List Code :=
  if overloads.size = 1 then [] else names.beforeBlocks role

/-- What is left to run after the body of the chosen overload. -/
def trail (role : Role) (overloads : OverloadSet) : List Code :=
  if overloads.size = 1 then [] else afterBlocks role

theorem trail_constructor (overloads : OverloadSet) : trail .constructor overloads = [] := by
  unfold trail
  split <;> rfl

variable {names}

theorem allPaths_dispatch {holds : String → Bool} {role : Role} {overloads : OverloadSet}
    (arranged : overloads.Arranged) {number : Nat} {overload : Overload}
    (entry : (number, overload) ∈ overloads.entries) (knows : KnowsCount holds number) :
    Code.allPaths holds (names.dispatch role overloads) =
      Code.allPaths holds (names.lead role overloads ++
        (names.bodyCode role (overloads.size = 1) overload ++ trail role overloads)) := by
  have value : overload ∈ overloads.values := List.mem_map.mpr ⟨_, entry, rfl⟩
  have arity : overload.arity = number := arranged.arity number overload entry
  have distinct := arranged.nodup_arities
  have length : overloads.size = overloads.values.length := (List.length_map _).symm
  unfold dispatch lead trail
  rw [length]
  generalize overloads.values = values at value distinct
  rcases values with _ | ⟨first, _ | ⟨second, rest⟩⟩
  · cases value
  · rw [List.mem_singleton.mp value]
    simp
  · have several : (first :: second :: rest).length ≠ 1 := by simp
    simp only [several, if_false, decide_false, Code.allPaths_append]
    rw [allPaths_countBlocks knows distinct value arity]

end ClassNames

end Bindery
