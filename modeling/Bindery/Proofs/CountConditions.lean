import Bindery.Proofs.CountDispatch
import Bindery.Text.Search

/-!
# Conditions on the number of arguments

The check of the number of arguments is written as a condition: alternatives
between `||`, each of which tests for one number.  Read as such, the condition is
met by the numbers that it was written for and by no others.
-/

namespace Bindery

/-! ## Reading a condition -/

/-- The alternatives of a condition.  The first one begins with the characters
held, nearest first. -/
def alternativesFrom (held : List Char) : List Char → List (List Char)
  | [] => [held.reverse]
  | ' ' :: '|' :: '|' :: ' ' :: rest => held.reverse :: alternativesFrom [] rest
  | c :: rest => alternativesFrom (c :: held) rest

/-- Whether a number of arguments meets one test. -/
def meetsTest (count : Nat) (test : List Char) : Bool :=
  match Text.after? "args_count == ".toList test with
  | some digits => Text.natural? 10 digits = some count
  | none => false

/-- Whether a number of arguments meets a condition. -/
def meets (count : Nat) (condition : String) : Bool :=
  (alternativesFrom [] condition.toList).any (meetsTest count)

/-- The condition that the number of arguments is among those listed. -/
def countCondition (arities : List Nat) : String :=
  " || ".intercalate (arities.map countTest)

/-! ## Alternatives -/

theorem alternativesFrom_of_not_mem {chars : List Char} (plain : '|' ∉ chars) (held : List Char) :
    alternativesFrom held chars = [held.reverse ++ chars] := by
  induction chars generalizing held with
  | nil => rw [alternativesFrom, List.append_nil]
  | cons c rest ih =>
      rw [List.mem_cons, not_or] at plain
      rw [alternativesFrom, ih plain.2, List.reverse_cons, List.append_assoc]
      · rfl
      · rintro others rfl rfl
        exact plain.2 List.mem_cons_self

/-- What stands before `||` is the first alternative. -/
theorem alternativesFrom_append {chars : List Char} (plain : '|' ∉ chars) (held rest : List Char) :
    alternativesFrom held (chars ++ ' ' :: '|' :: '|' :: ' ' :: rest) =
      (held.reverse ++ chars) :: alternativesFrom [] rest := by
  induction chars generalizing held with
  | nil => rw [List.nil_append, alternativesFrom, List.append_nil]
  | cons c others ih =>
      rw [List.mem_cons, not_or] at plain
      rw [List.cons_append, alternativesFrom, ih plain.2, List.reverse_cons, List.append_assoc]
      · rfl
      · rintro more rfl begins
        cases others with
        | nil => simp at begins
        | cons next _ =>
            rw [List.cons_append, List.cons.injEq] at begins
            exact plain.2 (begins.1 ▸ List.mem_cons_self)

theorem bar_not_mem_countTest (count : Nat) : '|' ∉ (countTest count).toList := by
  rw [countTest, String.toList_append, List.mem_append, not_or]
  refine ⟨by decide, ?_⟩
  intro member
  exact absurd (Text.isDigit_of_mem_toString member) (by decide)

theorem alternativesFrom_countCondition {arities : List Nat} (nonempty : arities ≠ []) :
    alternativesFrom [] (countCondition arities).toList =
      arities.map fun arity => (countTest arity).toList := by
  unfold countCondition
  induction arities with
  | nil => contradiction
  | cons first rest ih =>
      cases rest with
      | nil =>
          rw [List.map_singleton, String.intercalate_singleton,
            alternativesFrom_of_not_mem (bar_not_mem_countTest first)]
          rfl
      | cons second others =>
          have bars : " || ".toList = [' ', '|', '|', ' '] := rfl
          have split : (" || ".intercalate ((first :: second :: others).map countTest)).toList =
              (countTest first).toList ++ ' ' :: '|' :: '|' :: ' ' ::
                (" || ".intercalate ((second :: others).map countTest)).toList := by
            rw [List.map_cons, List.map_cons, String.intercalate_cons_cons, String.toList_append,
              String.toList_append, bars, List.append_assoc]
            rfl
          rw [split, alternativesFrom_append (bar_not_mem_countTest first),
            ih (List.cons_ne_nil _ _)]
          rfl

/-! ## Tests -/

theorem meetsTest_countTest (count number : Nat) :
    meetsTest count (countTest number).toList = decide (number = count) := by
  have split : (countTest number).toList = "args_count == ".toList ++ (toString number).toList :=
    String.toList_append
  rw [meetsTest, Text.after?_eq_some_iff.mpr split]
  simp only [Text.natural?_toString, Option.some.injEq]

theorem meets_countTest (count number : Nat) :
    meets count (countTest number) = decide (number = count) := by
  rw [meets, alternativesFrom_of_not_mem (bar_not_mem_countTest number)]
  simp only [List.reverse_nil, List.nil_append, List.any_cons, List.any_nil, Bool.or_false,
    meetsTest_countTest]

/-- The condition is met by the numbers listed. -/
theorem meets_countCondition_iff {arities : List Nat} (nonempty : arities ≠ []) (count : Nat) :
    meets count (countCondition arities) = true ↔ count ∈ arities := by
  rw [meets, alternativesFrom_countCondition nonempty, List.any_map, List.any_eq_true]
  simp only [Function.comp_apply, meetsTest_countTest, decide_eq_true_eq, exists_eq_right]

example : meets 2 "args_count == 0 || args_count == 2" = true := by
  decide

end Bindery
