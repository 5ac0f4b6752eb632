import Mathlib.Data.List.Count
import Bindery.EntryPoint
import Bindery.Proofs.OrderedMap

/-!
# The text of entry points

Sorting a set of overloads changes no look-up, and the support text of a class
attaches each of its methods once.
-/

namespace Bindery

namespace OverloadSet

theorem entries_sorted_perm (overloads : OverloadSet) :
    (sorted overloads).entries.Perm overloads.entries :=
  List.mergeSort_perm ..

theorem mem_entries_sorted_iff {overloads : OverloadSet} (distinct : overloads.keys.Nodup)
    (arity : Nat) (overload : Overload) :
    (arity, overload) ∈ (sorted overloads).entries ↔ overloads.get? arity = some overload := by
  rw [(entries_sorted_perm overloads).mem_iff, OrderedMap.mem_entries_iff distinct]

theorem mem_keys_sorted_iff (overloads : OverloadSet) (arity : Nat) :
    arity ∈ (sorted overloads).keys ↔ arity ∈ overloads.keys :=
  ((entries_sorted_perm overloads).map Prod.fst).mem_iff

/-- The numbers of arguments of an entry point ascend without repetition. -/
theorem keys_sorted_pairwise {overloads : OverloadSet} (distinct : overloads.keys.Nodup) :
    (sorted overloads).keys.Pairwise (· < ·) := by
  have ascending : (sorted overloads).entries.Pairwise fun first second =>
      arityAtMost first second = true := by
    apply List.pairwise_mergeSort
    · intro first second third
      simp only [arityAtMost, decide_eq_true_eq]
      omega
    · intro first second
      simp only [arityAtMost, Bool.or_eq_true, decide_eq_true_eq]
      omega
  have stillDistinct : (sorted overloads).keys.Nodup :=
    ((entries_sorted_perm overloads).map Prod.fst).nodup_iff.mpr distinct
  have weak : (sorted overloads).keys.Pairwise (· ≤ ·) := by
    rw [OrderedMap.keys, List.pairwise_map]
    exact ascending.imp fun atMost => of_decide_eq_true atMost
  exact (weak.and stillDistinct).imp fun both => Nat.lt_of_le_of_ne both.1 both.2

end OverloadSet

namespace ClassNames

/-- The text of an entry point that calls the given overloads.  Scripts cannot
construct a class without constructors. -/
def entryText (names : ClassNames) (role : Role) (name : String) (overloads : OverloadSet) :
    String :=
  match role with
  | .method => overloads.methodText names name
  | .constructor =>
      if overloads.isEmpty then names.missingConstructorText
      else overloads.constructorText names

/-! ## Attached methods -/

/-- The lines of the support text. -/
def supportLines (names : ClassNames) (methods : List String) : List String :=
  Code.allLinesAt 0 (names.destructorCode ++ [.blank] ++ names.wrapCode methods)

/-- The line that attaches a method. -/
def attachLine (names : ClassNames) (method : String) : String :=
  "    ATTACH_CLASS_FUNCTION(js_object, " ++ names.script ++ ", " ++ method ++ ");"

theorem supportText_eq (names : ClassNames) (methods : List String) :
    names.supportText methods = Text.trimmedEnd (Code.joined (names.supportLines methods)) :=
  rfl

theorem attachLine_injective (names : ClassNames) : Function.Injective names.attachLine := by
  intro first second same
  unfold attachLine at same
  rw [String.append_left_inj, String.append_right_inj] at same
  exact same

theorem linesAt_attachCode (names : ClassNames) (method : String) :
    (names.attachCode method).linesAt 1 = [names.attachLine method] := by
  have indented : "    ATTACH_CLASS_FUNCTION(js_object, " =
      "    " ++ "ATTACH_CLASS_FUNCTION(js_object, " := rfl
  unfold attachCode attachLine Code.linesAt
  rw [Code.lineAt_one (by simp), indented]
  simp only [String.append_assoc]

/-- Whether a line attaches a method. -/
def attaches (line : String) : Bool :=
  (Text.after? "    ATTACH".toList line.toList).isSome

theorem attaches_attachLine (names : ClassNames) (method : String) :
    attaches (names.attachLine method) = true := by
  unfold attaches attachLine
  simp [String.toList_append, Text.after?]

/-- The lines that attach methods are those of the listed methods, in order. -/
theorem filter_attaches_supportLines (names : ClassNames) (methods : List String) :
    (names.supportLines methods).filter attaches = methods.map names.attachLine := by
  have all : (methods.map names.attachLine).filter attaches = methods.map names.attachLine := by
    rw [List.filter_eq_self]
    intro line member
    obtain ⟨method, _, rfl⟩ := List.mem_map.mp member
    exact names.attaches_attachLine method
  have attached : (Code.allLinesAt 1
      (if methods.isEmpty then [] else .blank :: methods.map names.attachCode)).filter
        attaches = methods.map names.attachLine := by
    split
    · rename_i none
      rw [List.isEmpty_iff.mp none]
      rfl
    · rw [Code.allLinesAt, List.filter_append, Code.allLinesAt_map names.linesAt_attachCode, all]
      rfl
  unfold supportLines wrapCode destructorCode OverloadSet.comment
  simp only [Code.allLinesAt_append, Code.allLinesAt, Code.linesAt, List.filter_append, attached,
    List.map_cons, List.map_nil, List.filter_cons, List.filter_nil]
  simp [attaches, Code.lineAt, Code.blank, Code.linesAt, Text.after?]

/-- Each method is attached as often as it is listed, and nothing else is. -/
theorem count_attachLine (names : ClassNames) (methods : List String) (method : String) :
    (names.supportLines methods).count (names.attachLine method) = methods.count method := by
  rw [← List.count_filter (names.attaches_attachLine method), filter_attaches_supportLines,
    List.count_map_of_injective _ _ names.attachLine_injective]

end ClassNames

end Bindery
