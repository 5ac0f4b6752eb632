import Bindery.Code

/-!
# Running code

The lines of code on a path.  Which blocks are entered is given from outside, by
the headers that hold, and a path ends at its first return.
-/

namespace Bindery.Code

/-! ## The lines of code -/

mutual

/-- The lines of a piece without their indentation. -/
def texts : Code → List String
  | .line text => [text]
  | .block header footer body => header :: (allTexts body ++ [footer])

/-- The lines of pieces one after another, without their indentation. -/
def allTexts : List Code → List String
  | [] => []
  | piece :: rest => texts piece ++ allTexts rest

end

theorem allTexts_eq_flatMap (pieces : List Code) : allTexts pieces = pieces.flatMap texts := by
  induction pieces with
  | nil => rfl
  | cons piece rest ih => rw [allTexts, ih, List.flatMap_cons]

theorem allTexts_append (first second : List Code) :
    allTexts (first ++ second) = allTexts first ++ allTexts second := by
  simp only [allTexts_eq_flatMap, List.flatMap_append]

theorem mem_allTexts_iff {pieces : List Code} {text : String} :
    text ∈ allTexts pieces ↔ ∃ piece ∈ pieces, text ∈ piece.texts := by
  rw [allTexts_eq_flatMap, List.mem_flatMap]

theorem mem_allTexts_map_iff {α : Type} {items : List α} {piece : α → Code} {text : String} :
    text ∈ allTexts (items.map piece) ↔ ∃ item ∈ items, text ∈ (piece item).texts := by
  rw [allTexts_eq_flatMap, List.flatMap_map, List.mem_flatMap]

theorem mem_allLinesAt_iff {level : Nat} {pieces : List Code} {line : String} :
    line ∈ allLinesAt level pieces ↔ ∃ piece ∈ pieces, line ∈ linesAt level piece := by
  induction pieces with
  | nil => simp [allLinesAt]
  | cons piece rest ih => simp [allLinesAt, ih]

mutual

theorem exists_text_of_mem_linesAt {line : String} (level : Nat) :
    ∀ piece : Code, line ∈ linesAt level piece →
      ∃ text ∈ texts piece, ∃ deep, line = lineAt deep text
  | .line text, member => by
      rw [linesAt, List.mem_singleton] at member
      exact ⟨text, List.mem_singleton_self text, level, member⟩
  | .block header footer body, member => by
      rw [linesAt, List.mem_cons, List.mem_append, List.mem_singleton] at member
      rcases member with atHeader | inBody | atFooter
      · exact ⟨header, List.mem_cons_self, level, atHeader⟩
      · obtain ⟨text, inTexts, indented⟩ := exists_text_of_mem_allLinesAt (level + 1) body inBody
        exact ⟨text, List.mem_cons_of_mem _ (List.mem_append_left _ inTexts), indented⟩
      · refine ⟨footer, List.mem_cons_of_mem _ (List.mem_append_right _ ?_), level, atFooter⟩
        exact List.mem_singleton_self footer

/-- Every line is one of the texts, indented. -/
theorem exists_text_of_mem_allLinesAt {line : String} (level : Nat) :
    ∀ pieces : List Code, line ∈ allLinesAt level pieces →
      ∃ text ∈ allTexts pieces, ∃ deep, line = lineAt deep text
  | [], member => by cases member
  | piece :: rest, member => by
      rw [allLinesAt, List.mem_append] at member
      rcases member with inPiece | inRest
      · obtain ⟨text, inTexts, indented⟩ := exists_text_of_mem_linesAt level piece inPiece
        exact ⟨text, List.mem_append_left _ inTexts, indented⟩
      · obtain ⟨text, inTexts, indented⟩ := exists_text_of_mem_allLinesAt level rest inRest
        exact ⟨text, List.mem_append_right _ inTexts, indented⟩

end

/-! ## Paths -/

mutual

/-- The lines of a piece on the path on which given headers hold. -/
def path (holds : String → Bool) : Code → List String
  | .line text => [text]
  | .block header _ body => if holds header then allPaths holds body else []

/-- The lines of pieces on the path on which given headers hold. -/
def allPaths (holds : String → Bool) : List Code → List String
  | [] => []
  | piece :: rest => path holds piece ++ allPaths holds rest

end

theorem allPaths_eq_flatMap (holds : String → Bool) (pieces : List Code) :
    allPaths holds pieces = pieces.flatMap (path holds) := by
  induction pieces with
  | nil => rfl
  | cons piece rest ih => rw [allPaths, ih, List.flatMap_cons]

theorem allPaths_append (holds : String → Bool) (first second : List Code) :
    allPaths holds (first ++ second) = allPaths holds first ++ allPaths holds second := by
  simp only [allPaths_eq_flatMap, List.flatMap_append]

mutual

theorem mem_texts_of_mem_path {holds : String → Bool} {text : String} :
    ∀ piece : Code, text ∈ path holds piece → text ∈ texts piece
  | .line _, member => member
  | .block header footer body, member => by
      rw [path] at member
      split at member
      · exact List.mem_cons_of_mem _
          (List.mem_append_left _ (mem_allTexts_of_mem_allPaths body member))
      · cases member

/-- A path runs through lines of the code. -/
theorem mem_allTexts_of_mem_allPaths {holds : String → Bool} {text : String} :
    ∀ pieces : List Code, text ∈ allPaths holds pieces → text ∈ allTexts pieces
  | [], member => by cases member
  | piece :: rest, member => by
      rw [allPaths, List.mem_append] at member
      rw [allTexts, List.mem_append]
      exact member.imp (mem_texts_of_mem_path piece) (mem_allTexts_of_mem_allPaths rest)

end

/-! ## Runs -/

/-- Whether a line returns. -/
def isReturn (text : String) : Bool :=
  "return ".toList.isPrefixOf text.toList

/-- The lines up to the first one that returns. -/
def upToReturn : List String → List String
  | [] => []
  | text :: rest => if isReturn text then [text] else text :: upToReturn rest

/-- The lines that are run when given headers hold. -/
def run (holds : String → Bool) (pieces : List Code) : List String :=
  upToReturn (allPaths holds pieces)

/-- Whether a run ends in a return. -/
def Returns (holds : String → Bool) (pieces : List Code) : Prop :=
  ∃ before last, run holds pieces = before ++ [last] ∧ isReturn last = true

/-- What follows a return is never run. -/
theorem upToReturn_append {lines : List String} (returns : ∃ text ∈ lines, isReturn text = true)
    (rest : List String) : upToReturn (lines ++ rest) = upToReturn lines := by
  induction lines with
  | nil => simp at returns
  | cons text others ih =>
      rw [List.cons_append, upToReturn, upToReturn]
      split
      · rfl
      · rename_i goesOn
        obtain ⟨other, member, isReturn⟩ := returns
        rcases List.mem_cons.mp member with rfl | inOthers
        · exact absurd isReturn goesOn
        · rw [ih ⟨other, inOthers, isReturn⟩]

theorem exists_last_upToReturn {lines : List String}
    (returns : ∃ text ∈ lines, isReturn text = true) :
    ∃ before last, upToReturn lines = before ++ [last] ∧ isReturn last = true := by
  induction lines with
  | nil => simp at returns
  | cons text others ih =>
      rw [upToReturn]
      split
      · rename_i isReturn
        exact ⟨[], text, rfl, isReturn⟩
      · rename_i goesOn
        obtain ⟨other, member, isReturn⟩ := returns
        rcases List.mem_cons.mp member with rfl | inOthers
        · exact absurd isReturn goesOn
        · obtain ⟨before, last, split, lastReturns⟩ := ih ⟨other, inOthers, isReturn⟩
          exact ⟨text :: before, last, by rw [split, List.cons_append], lastReturns⟩

/-- A run ends in a return if there is one on its path. -/
theorem returns_of_mem {holds : String → Bool} {pieces : List Code} {text : String}
    (member : text ∈ allPaths holds pieces) (isReturn : isReturn text = true) :
    Returns holds pieces :=
  exists_last_upToReturn ⟨text, member, isReturn⟩

end Bindery.Code
