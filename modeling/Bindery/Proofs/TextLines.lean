import Mathlib.Data.List.Basic
import Bindery.Text.Search

/-!
# Texts made of lines

A text of which each line stands between line feeds is read back as its lines,
provided that no line holds a line feed or ends with a carriage return.  The last
line must not be empty, because a text that ends with a line feed has no empty
line after it.
-/

namespace Bindery.Text

/-- A text that is read as one line, unless it is empty and ends the text around
it. -/
structure OneLine (text : String) : Prop where
  noFeed : '\n' ∉ text.toList
  noReturn : text.toList.getLast? ≠ some '\r'

/-- What stands before the end of a line must only be free of line feeds. -/
theorem OneLine.append {lead tail : String} (single : OneLine tail) (nonempty : tail ≠ "")
    (noFeed : '\n' ∉ lead.toList) : OneLine (lead ++ tail) where
  noFeed := by
    rw [String.toList_append, List.mem_append, not_or]
    exact ⟨noFeed, single.noFeed⟩
  noReturn := by
    rw [String.toList_append, List.getLast?_append_of_ne_nil]
    · exact single.noReturn
    · rwa [Ne, String.toList_eq_nil_iff]

/-! ## Reading lines -/

theorem dropReturn_eq_self {chars : List Char} (noReturn : chars.getLast? ≠ some '\r') :
    dropReturn chars = chars := by
  induction chars using dropReturn.induct with
  | case1 => rfl
  | case2 => simp at noReturn
  | case3 c rest others ih =>
      rw [dropReturn]
      · cases rest with
        | nil => rfl
        | cons next more => rw [ih (by simpa using noReturn)]
      · exact others

theorem linesFrom_append_of_not_mem {chars : List Char} (noFeed : '\n' ∉ chars)
    (line rest : List Char) :
    linesFrom line (chars ++ rest) = linesFrom (chars.reverse ++ line) rest := by
  induction chars generalizing line with
  | nil => rfl
  | cons c others ih =>
      have different : c ≠ '\n' := fun same => noFeed (same ▸ List.mem_cons_self)
      have notInOthers : '\n' ∉ others := fun member => noFeed (List.mem_cons_of_mem c member)
      rw [List.cons_append, linesFrom, ih notInOthers]
      · simp
      · exact different

/-- A line with its end comes before the lines of the text after it. -/
theorem lines_append_feed {line : String} (single : OneLine line) (rest : String) :
    lines (line ++ "\n" ++ rest) = line :: lines rest := by
  have split : (line ++ "\n" ++ rest).toList = line.toList ++ '\n' :: rest.toList := by
    simp [String.toList_append]
  rw [lines, split, linesFrom_append_of_not_mem single.noFeed, linesFrom, List.append_nil,
    List.reverse_reverse, dropReturn_eq_self single.noReturn, List.map_cons, String.ofList_toList]
  rfl

/-- A text without a line feed is one line, and none if it is empty. -/
theorem lines_of_oneLine {line : String} (single : OneLine line) (nonempty : line ≠ "") :
    lines line = [line] := by
  have whole : line.toList = line.toList ++ [] := (List.append_nil _).symm
  rw [lines, whole, linesFrom_append_of_not_mem single.noFeed, linesFrom, List.append_nil,
    if_neg (by simpa using nonempty), List.reverse_reverse, List.map_singleton,
    String.ofList_toList]

/-- Lines between line feeds are read back. -/
theorem lines_intercalate {texts : List String} (single : ∀ text ∈ texts, OneLine text)
    (last : texts.getLast? ≠ some "") : lines ("\n".intercalate texts) = texts := by
  induction texts with
  | nil => rfl
  | cons first others ih =>
      obtain ⟨firstSingle, othersSingle⟩ := List.forall_mem_cons.mp single
      cases others with
      | nil =>
          rw [String.intercalate_singleton]
          apply lines_of_oneLine firstSingle
          simpa using last
      | cons second rest =>
          rw [String.intercalate_cons_cons, lines_append_feed firstSingle,
            ih othersSingle (by simpa using last)]

/-! ## What a line holds -/

theorem mem_of_mem_dropReturn {c : Char} {chars : List Char} (member : c ∈ dropReturn chars) :
    c ∈ chars := by
  induction chars using dropReturn.induct with
  | case1 => exact member
  | case2 => simp [dropReturn] at member
  | case3 first rest others ih =>
      rw [dropReturn] at member
      · rcases List.mem_cons.mp member with rfl | inRest
        · exact List.mem_cons_self
        · exact List.mem_cons_of_mem first (ih inRest)
      · exact others

theorem not_mem_of_mem_linesFrom {held text line : List Char} (noFeed : '\n' ∉ held)
    (member : line ∈ linesFrom held text) : '\n' ∉ line := by
  induction text generalizing held with
  | nil =>
      rw [linesFrom] at member
      split at member
      · cases member
      · rw [List.mem_singleton] at member
        rw [member, List.mem_reverse]
        exact noFeed
  | cons c rest ih =>
      by_cases feed : c = '\n'
      · subst feed
        rw [linesFrom, List.mem_cons] at member
        rcases member with rfl | inRest
        · intro inLine
          exact noFeed (List.mem_reverse.mp (mem_of_mem_dropReturn inLine))
        · exact ih List.not_mem_nil inRest
      · rw [linesFrom] at member
        · exact ih (List.not_mem_cons_of_ne_of_not_mem (Ne.symm feed) noFeed) member
        · exact feed

/-- No line of a text holds a line feed. -/
theorem not_mem_of_mem_lines {text line : String} (member : line ∈ lines text) :
    '\n' ∉ line.toList := by
  obtain ⟨chars, inLines, rfl⟩ := List.mem_map.mp member
  rw [String.toList_ofList]
  exact not_mem_of_mem_linesFrom List.not_mem_nil inLines

end Bindery.Text
