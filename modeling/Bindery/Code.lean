/-!
# Indented text

Program text as a list of lines and blocks.  A block is a header, a body one
level deeper and a footer.  Each level is four spaces; a line without text gets
none.
-/

namespace Bindery

/-- A piece of program text. -/
inductive Code where
  | line (text : String)
  | block (header footer : String) (body : List Code)
  deriving Repr

namespace Code

/-- A line without text. -/
def blank : Code :=
  .line ""

/-- A line of text at a level. -/
def lineAt (level : Nat) (text : String) : String :=
  if text.isEmpty then ""
  else String.ofList (List.replicate (4 * level) ' ') ++ text

theorem lineAt_one {text : String} (filled : text ≠ "") : lineAt 1 text = "    " ++ text := by
  rw [lineAt, if_neg (by simpa using filled)]
  rfl

mutual

/-- The lines of a piece at a level. -/
def linesAt (level : Nat) : Code → List String
  | .line text => [lineAt level text]
  | .block header footer body =>
      lineAt level header :: (allLinesAt (level + 1) body ++ [lineAt level footer])

/-- The lines of pieces one after another. -/
def allLinesAt (level : Nat) : List Code → List String
  | [] => []
  | piece :: rest => linesAt level piece ++ allLinesAt level rest

end

@[simp]
theorem allLinesAt_append (level : Nat) (first second : List Code) :
    allLinesAt level (first ++ second) = allLinesAt level first ++ allLinesAt level second := by
  induction first with
  | nil => rfl
  | cons piece rest ih => simp [allLinesAt, ih]

/-- Pieces of one line each are written line by line. -/
theorem allLinesAt_map {α : Type} {level : Nat} {piece : α → Code} {line : α → String}
    (single : ∀ item, (piece item).linesAt level = [line item]) (items : List α) :
    allLinesAt level (items.map piece) = items.map line := by
  induction items with
  | nil => rfl
  | cons item rest ih => simp [allLinesAt, single, ih]

/-- The text of lines, each with its end. -/
def joined (lines : List String) : String :=
  String.join (lines.map fun line => line ++ "\n")

@[simp]
theorem joined_append (first second : List String) :
    joined (first ++ second) = joined first ++ joined second := by
  simp [joined]

/-- The text of pieces that are nested in nothing. -/
def render (pieces : List Code) : String :=
  joined (allLinesAt 0 pieces)

theorem render_append (first second : List Code) :
    render (first ++ second) = render first ++ render second := by
  simp [render]

end Code

end Bindery
