import Bindery.Proofs.EntryLines

/-!
# Names in lines of a form

A generated text holds names in lines of fixed forms: a name stands between two
texts that are known.  The names are read back from the lines of a text.  A form
that begins at the margin is met outside of blocks only, since all lines of a
block are indented.
-/

namespace Bindery

/-! ## Joined lines -/

theorem Code.joined_cons (first : String) (rest : List String) :
    joined (first :: rest) = first ++ "\n" ++ joined rest := by
  rw [joined, List.map_cons, String.join_cons]
  rfl

namespace Text

/-- Whether some characters can end a line. -/
def closesLine (chars : List Char) : Bool :=
  chars.all (fun c => c != '\n') && chars.getLast?.any (fun c => c != '\r')

theorem OneLine.literal {chars : List Char} (closes : closesLine chars = true) :
    OneLine (String.ofList chars) := by
  rw [closesLine, Bool.and_eq_true] at closes
  refine ⟨unbroken_literal closes.1, ?_⟩
  rw [String.toList_ofList]
  intro isReturn
  rw [isReturn] at closes
  cases closes.2

theorem OneLine.blank : OneLine "" :=
  ⟨List.not_mem_nil, nofun⟩

/-- Only the end of a line matters, as long as it is unbroken before. -/
theorem OneLine.closed {lead : String} {chars : List Char} (unbroken : Unbroken lead)
    (closes : closesLine chars = true) : OneLine (lead ++ String.ofList chars) := by
  apply (OneLine.literal closes).append _ unbroken
  intro empty
  rw [← String.toList_eq_nil_iff, String.toList_ofList] at empty
  rw [empty] at closes
  cases closes

/-- A line in which an unbroken text stands between two literals. -/
theorem OneLine.around {lead tail : List Char} {middle : String} (unbroken : Unbroken middle)
    (opens : (lead.all fun c => c != '\n') = true) (closes : closesLine tail = true) :
    OneLine (String.ofList lead ++ middle ++ String.ofList tail) :=
  .closed (unbroken_append.mpr ⟨unbroken_literal opens, unbroken⟩) closes

end Text

/-- Joined lines are read back. -/
theorem Text.lines_joined {lines : List String} (single : ∀ line ∈ lines, OneLine line) :
    Text.lines (Code.joined lines) = lines := by
  induction lines with
  | nil => rfl
  | cons first rest ih =>
      obtain ⟨here, later⟩ := List.forall_mem_cons.mp single
      rw [Code.joined_cons, lines_append_feed here, ih later]

/-- A line with its end stands in a text, at the beginning or after the end of
another line. -/
def StandsIn (line text : String) : Prop :=
  ∃ before after, text = Code.joined before ++ (line ++ "\n" ++ after)

theorem standsIn_joined {line : String} {lines : List String} (member : line ∈ lines) :
    StandsIn line (Code.joined lines) := by
  obtain ⟨before, after, rfl⟩ := List.append_of_mem member
  exact ⟨before, Code.joined after, by rw [Code.joined_append, Code.joined_cons]⟩

/-! ## Lines at the margin -/

/-- A line that is blank or begins with a space. -/
def Indented (line : String) : Prop :=
  line = "" ∨ line.toList.head? = some ' '

namespace Code

theorem indented_lineAt_succ (level : Nat) (text : String) : Indented (lineAt (level + 1) text) := by
  unfold lineAt
  split
  · exact Or.inl rfl
  · right
    rw [String.toList_append, String.toList_ofList, Nat.mul_succ, List.replicate_succ]
    rfl

mutual

theorem indented_of_mem_linesAt {line : String} (level : Nat) :
    ∀ piece : Code, line ∈ linesAt (level + 1) piece → Indented line
  | .line text, member => by
      rw [linesAt, List.mem_singleton] at member
      exact member ▸ indented_lineAt_succ level text
  | .block header footer body, member => by
      rw [linesAt, List.mem_cons, List.mem_append, List.mem_singleton] at member
      rcases member with rfl | inBody | rfl
      · exact indented_lineAt_succ level header
      · exact indented_of_mem_allLinesAt (level + 1) body inBody
      · exact indented_lineAt_succ level footer

/-- Below the top level all lines are indented. -/
theorem indented_of_mem_allLinesAt {line : String} (level : Nat) :
    ∀ pieces : List Code, line ∈ allLinesAt (level + 1) pieces → Indented line
  | [], member => by cases member
  | piece :: rest, member => by
      rw [allLinesAt, List.mem_append] at member
      rcases member with inPiece | inRest
      · exact indented_of_mem_linesAt level piece inPiece
      · exact indented_of_mem_allLinesAt level rest inRest

end

/-- The lines of a piece that stand at the margin. -/
def margin : Code → List String
  | .line text => [text]
  | .block header footer _ => [header, footer]

theorem margin_subset_linesAt (piece : Code) : piece.margin ⊆ piece.linesAt 0 := by
  cases piece with
  | line text =>
      rw [linesAt, lineAt_zero]
      exact List.Subset.refl _
  | block header footer body =>
      rw [linesAt, lineAt_zero, lineAt_zero]
      intro line member
      rcases member with _ | ⟨_, _ | ⟨_, ⟨⟩⟩⟩
      · exact List.mem_cons_self
      · exact List.mem_cons_of_mem _ (List.mem_append_right _ (List.mem_singleton_self _))

theorem standsIn_render {line : String} {pieces : List Code}
    (member : line ∈ pieces.flatMap margin) : StandsIn line (render pieces) := by
  obtain ⟨piece, inPieces, inMargin⟩ := List.mem_flatMap.mp member
  exact standsIn_joined (mem_allLinesAt_iff.mpr ⟨piece, inPieces, margin_subset_linesAt piece inMargin⟩)

end Code

/-! ## Forms -/

/-- A form of lines, in which a name stands between two texts. -/
structure LineForm where
  lead : String
  tail : String
  deriving DecidableEq, Repr

namespace LineForm

variable {form : LineForm} {text name : String}

/-- The line that holds a name. -/
def line (form : LineForm) (name : String) : String :=
  form.lead ++ name ++ form.tail

/-- The name that a line of the form holds. -/
def read? (form : LineForm) (text : String) : Option String := do
  let rest ← Text.after? form.lead.toList text.toList
  let name ← Text.after? form.tail.toList.reverse rest.reverse
  return String.ofList name.reverse

/-- The names that the lines of a text hold in the form. -/
def names (form : LineForm) (text : String) : List String :=
  (Text.lines text).filterMap form.read?

theorem toList_line (form : LineForm) (name : String) :
    (form.line name).toList = form.lead.toList ++ (name.toList ++ form.tail.toList) := by
  rw [line, String.toList_append, String.toList_append, List.append_assoc]

/-- A line is read as a name exactly if it is the line of that name. -/
theorem read?_eq_some_iff : form.read? text = some name ↔ text = form.line name := by
  simp only [read?, Option.bind_eq_bind, Option.bind_eq_some_iff, Text.after?_eq_some_iff,
    Option.pure_def, Option.some.injEq]
  constructor
  · rintro ⟨rest, split, reversed, ends, rfl⟩
    have rest_eq : rest = reversed.reverse ++ form.tail.toList := by
      simpa using congrArg List.reverse ends
    rw [← String.toList_inj, toList_line, split, rest_eq, String.toList_ofList]
  · rintro rfl
    exact ⟨_, toList_line form name, name.toList.reverse, List.reverse_append, by
      rw [List.reverse_reverse, String.ofList_toList]⟩

/-- No line that begins otherwise is of the form. -/
theorem read?_eq_none (begins : ¬ form.lead.toList <+: text.toList) :
    form.read? text = none := by
  rw [Option.eq_none_iff_forall_ne_some]
  intro name found
  rw [read?_eq_some_iff.mp found, toList_line] at begins
  exact begins (List.prefix_append _ _)

theorem names_joined {lines : List String} (single : ∀ line ∈ lines, Text.OneLine line) :
    form.names (Code.joined lines) = lines.filterMap form.read? := by
  rw [names, Text.lines_joined single]

/-- A form whose lines are not indented. -/
def AtMargin (form : LineForm) : Prop :=
  ∃ first ∈ form.lead.toList.head?, first ≠ ' '

theorem AtMargin.read?_indented (atMargin : form.AtMargin) (indented : Indented text) :
    form.read? text = none := by
  obtain ⟨first, isFirst, notSpace⟩ := atMargin
  obtain ⟨rest, begins⟩ := List.head?_eq_some_iff.mp isFirst
  apply read?_eq_none
  rw [begins]
  rintro ⟨others, split⟩
  rcases indented with rfl | space
  · cases split
  · rw [← split] at space
    exact notSpace (Option.some.inj space)

theorem AtMargin.filterMap_linesAt (atMargin : form.AtMargin) (piece : Code) :
    (piece.linesAt 0).filterMap form.read? = piece.margin.filterMap form.read? := by
  cases piece with
  | line text => rw [Code.linesAt, Code.lineAt_zero, Code.margin]
  | block header footer body =>
      have inside : (Code.allLinesAt 1 body).filterMap form.read? = [] := by
        rw [List.filterMap_eq_nil_iff]
        intro line member
        exact atMargin.read?_indented (Code.indented_of_mem_allLinesAt 0 body member)
      rw [Code.linesAt, Code.lineAt_zero, Code.lineAt_zero, ← List.singleton_append,
        List.filterMap_append, List.filterMap_append, inside, List.nil_append,
        ← List.filterMap_append]
      rfl

theorem AtMargin.read?_blank (atMargin : form.AtMargin) : form.read? "" = none :=
  atMargin.read?_indented (Or.inl rfl)

/-- The names that the lines of pieces at the margin hold in the form. -/
def marginNames (form : LineForm) (pieces : List Code) : List String :=
  (pieces.flatMap Code.margin).filterMap form.read?

theorem marginNames_append (form : LineForm) (first second : List Code) :
    form.marginNames (first ++ second) = form.marginNames first ++ form.marginNames second := by
  rw [marginNames, List.flatMap_append, List.filterMap_append]
  rfl

theorem marginNames_map_line (form : LineForm) (lines : List String) :
    form.marginNames (lines.map .line) = lines.filterMap form.read? := by
  have margins : (lines.map Code.line).flatMap Code.margin = lines := by
    rw [List.flatMap_map]
    exact List.flatMap_singleton' lines
  rw [marginNames, margins]

/-- Blank lines hold no names. -/
theorem AtMargin.marginNames_flatMap (atMargin : form.AtMargin) (blocks : List (List Code)) :
    form.marginNames (blocks.flatMap (· ++ [.blank])) = blocks.flatMap form.marginNames := by
  have blank : form.marginNames [.blank] = [] := by
    rw [marginNames, List.flatMap_singleton, Code.blank, Code.margin, List.filterMap_cons,
      atMargin.read?_blank]
    rfl
  induction blocks with
  | nil => rfl
  | cons first rest ih =>
      rw [List.flatMap_cons, List.flatMap_cons, marginNames_append, marginNames_append, blank,
        List.append_nil, ih]

/-- In the text of pieces only the lines at the margin are of a form that begins
there. -/
theorem AtMargin.names_render (atMargin : form.AtMargin) {pieces : List Code}
    (single : ∀ text ∈ Code.allTexts pieces, Text.OneLine text) :
    form.names (Code.render pieces) = form.marginNames pieces := by
  rw [Code.render, names_joined]
  · induction pieces with
    | nil => rfl
    | cons piece rest ih =>
        have later : ∀ text ∈ Code.allTexts rest, Text.OneLine text := fun text member =>
          single text (List.mem_append_right _ member)
        rw [Code.allLinesAt, List.filterMap_append, atMargin.filterMap_linesAt, ih later,
          marginNames, marginNames, List.flatMap_cons, List.filterMap_append]
  · intro line member
    obtain ⟨text, inTexts, deep, rfl⟩ := Code.exists_text_of_mem_allLinesAt 0 _ member
    exact (single text inTexts).lineAt deep

/-- A name that is read from joined lines stands in their text. -/
theorem standsIn_joined {lines : List String} (read : name ∈ lines.filterMap form.read?) :
    StandsIn (form.line name) (Code.joined lines) := by
  obtain ⟨line, member, isName⟩ := List.mem_filterMap.mp read
  exact Bindery.standsIn_joined (read?_eq_some_iff.mp isName ▸ member)

theorem standsIn_render {pieces : List Code} (read : name ∈ form.marginNames pieces) :
    StandsIn (form.line name) (Code.render pieces) := by
  obtain ⟨line, member, isName⟩ := List.mem_filterMap.mp read
  exact Code.standsIn_render (read?_eq_some_iff.mp isName ▸ member)

end LineForm

end Bindery
