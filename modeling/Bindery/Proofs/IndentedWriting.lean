import Bindery.Proofs.LineForms

/-!
# Writing indented text

A writer goes through a text once.  It keeps the level of its next line, which it
raises before the body of a block and lowers after it.  It writes the same text
as pieces that are told their level from outside, and it comes out of each
operation at the level at which it went in.  The body of a block is the text that
the body would be at the margin, shifted by one level.
-/

namespace Bindery.Code

/-! ## Shifted text -/

/-- Put four spaces in front of each line that is not empty.  The flag tells
whether a line begins here. -/
def shiftFrom : (fresh : Bool) → List Char → List Char
  | _, [] => []
  | _, '\n' :: rest => '\n' :: shiftFrom true rest
  | true, c :: rest => ' ' :: ' ' :: ' ' :: ' ' :: c :: shiftFrom false rest
  | false, c :: rest => c :: shiftFrom false rest

/-- A text one level deeper. -/
def shifted (text : String) : String :=
  String.ofList (shiftFrom true text.toList)

theorem shiftFrom_false_append {chars : List Char} (noFeed : '\n' ∉ chars) (rest : List Char) :
    shiftFrom false (chars ++ rest) = chars ++ shiftFrom false rest := by
  induction chars with
  | nil => rfl
  | cons c others ih =>
      obtain ⟨different, later⟩ := not_or.mp (List.mem_cons.not.mp noFeed)
      rw [List.cons_append, shiftFrom, ih later, List.cons_append]
      exact Ne.symm different

theorem shiftFrom_line {line : String} (unbroken : Unbroken line) (rest : List Char) :
    shiftFrom true (line.toList ++ '\n' :: rest) =
      (lineAt 1 line).toList ++ '\n' :: shiftFrom true rest := by
  cases chars : line.toList with
  | nil =>
      rw [String.toList_eq_nil_iff.mp chars]
      rfl
  | cons c others =>
      rw [Unbroken, chars] at unbroken
      obtain ⟨different, later⟩ := not_or.mp (List.mem_cons.not.mp unbroken)
      have filled : ¬ line.isEmpty = true := by
        rw [String.isEmpty_iff, ← String.toList_eq_nil_iff, chars]
        exact List.cons_ne_nil c others
      rw [lineAt, if_neg filled, String.toList_append, String.toList_ofList, chars,
        List.cons_append, shiftFrom, shiftFrom_false_append later]
      · rfl
      · exact Ne.symm different

/-- Shifting a text shifts its lines. -/
theorem shifted_joined {lines : List String} (unbroken : ∀ line ∈ lines, Unbroken line) :
    shifted (joined lines) = joined (lines.map (lineAt 1)) := by
  have chars : shiftFrom true (joined lines).toList = (joined (lines.map (lineAt 1))).toList := by
    induction lines with
    | nil => rfl
    | cons line rest ih =>
        obtain ⟨here, later⟩ := List.forall_mem_cons.mp unbroken
        rw [joined_cons, List.map_cons, joined_cons, String.append_assoc, String.append_assoc,
          String.toList_append, String.toList_append, String.toList_append, String.toList_append]
        exact (shiftFrom_line here _).trans (congrArg _ (congrArg _ (ih later)))
  rw [shifted, chars, String.ofList_toList]

/-! ## One level deeper -/

theorem lineAt_one_lineAt (level : Nat) (text : String) :
    lineAt 1 (lineAt level text) = lineAt (level + 1) text := by
  unfold lineAt
  split <;> rename_i empty
  · rfl
  · have filled : ¬ (String.ofList (List.replicate (4 * level) ' ') ++ text).isEmpty = true := by
      simpa using fun _ => empty
    rw [if_neg filled, ← String.append_assoc, ← String.ofList_append,
      List.replicate_append_replicate, ← Nat.mul_add, Nat.add_comm]

mutual

theorem linesAt_succ (level : Nat) :
    ∀ piece : Code, linesAt (level + 1) piece = (linesAt level piece).map (lineAt 1)
  | .line text => by
      rw [linesAt, linesAt, List.map_singleton, lineAt_one_lineAt]
  | .block header footer body => by
      rw [linesAt, linesAt, List.map_cons, List.map_append, List.map_singleton,
        lineAt_one_lineAt, lineAt_one_lineAt, allLinesAt_succ (level + 1) body]

/-- At the next level all lines stand one level deeper. -/
theorem allLinesAt_succ (level : Nat) :
    ∀ pieces : List Code, allLinesAt (level + 1) pieces = (allLinesAt level pieces).map (lineAt 1)
  | [] => rfl
  | piece :: rest => by
      rw [allLinesAt, allLinesAt, List.map_append, linesAt_succ level piece,
        allLinesAt_succ level rest]

end

theorem unbroken_lineAt {text : String} (unbroken : Unbroken text) (level : Nat) :
    Unbroken (lineAt level text) := by
  unfold lineAt
  split
  · exact List.not_mem_nil
  · refine unbroken_append.mpr ⟨?_, unbroken⟩
    rw [Unbroken, String.toList_ofList, List.mem_replicate]
    rintro ⟨_, isSpace⟩
    cases isSpace

theorem joined_singleton (line : String) : joined [line] = line ++ "\n" := by
  rw [joined_cons, joined, List.map_nil, String.join_nil, String.append_empty]

theorem joined_block (level : Nat) (header footer : String) (body : List Code) :
    joined (allLinesAt level [.block header footer body]) =
      joined [lineAt level header] ++
        (joined (allLinesAt (level + 1) body) ++ joined [lineAt level footer]) := by
  rw [allLinesAt, allLinesAt, linesAt, List.append_nil, ← List.singleton_append, joined_append,
    joined_append]

/-- The text of pieces at the next level is their shifted text. -/
theorem shifted_allLinesAt {pieces : List Code}
    (unbroken : ∀ text ∈ allTexts pieces, Unbroken text) (level : Nat) :
    shifted (joined (allLinesAt level pieces)) = joined (allLinesAt (level + 1) pieces) := by
  rw [shifted_joined, allLinesAt_succ]
  intro line member
  obtain ⟨text, inTexts, deep, rfl⟩ := exists_text_of_mem_allLinesAt level pieces member
  exact unbroken_lineAt (unbroken text inTexts) deep

/-- The text of pieces at a level is what they are at the margin, shifted as many
times. -/
theorem joined_allLinesAt {pieces : List Code}
    (unbroken : ∀ text ∈ allTexts pieces, Unbroken text) (level : Nat) :
    joined (allLinesAt level pieces) = shifted^[level] (render pieces) := by
  induction level with
  | zero => rfl
  | succ level ih => rw [Function.iterate_succ_apply', ← ih, shifted_allLinesAt unbroken]

/-! ## Writers -/

theorem join_replicate_spaces (level : Nat) :
    String.join (List.replicate level "    ") = String.ofList (List.replicate (4 * level) ' ') := by
  induction level with
  | zero => rfl
  | succ level ih =>
      rw [List.replicate_succ, String.join_cons, ih, Nat.mul_succ, Nat.add_comm,
        ← List.replicate_append_replicate, String.ofList_append]
      rfl

/-- What a writer can be asked to do. -/
inductive Operation where
  | writeln (text : String)
  | lines (texts : List String)
  | blank
  | block (header footer : String) (body : List Operation)

/-- The text written so far and the level of the next line. -/
structure Writer where
  text : String := ""
  level : Nat := 0
  deriving DecidableEq, Repr

namespace Writer

/-- Add some text as it is. -/
def put (writer : Writer) (text : String) : Writer :=
  { writer with text := writer.text ++ text }

/-- Add a line at the present level. -/
def writeln (writer : Writer) (line : String) : Writer :=
  if line.isEmpty then writer.put "\n"
  else ((writer.put (String.join (List.replicate writer.level "    "))).put line).put "\n"

def raise (writer : Writer) : Writer :=
  { writer with level := writer.level + 1 }

def lower (writer : Writer) : Writer :=
  { writer with level := writer.level - 1 }

mutual

/-- Do one thing. -/
def perform (writer : Writer) : Operation → Writer
  | .writeln text => writer.writeln text
  | .lines texts => texts.foldl writeln writer
  | .blank => writer.put "\n"
  | .block header footer body =>
      ((writer.writeln header).raise.performAll body).lower.writeln footer

/-- Do one thing after another. -/
def performAll (writer : Writer) : List Operation → Writer
  | [] => writer
  | operation :: rest => (writer.perform operation).performAll rest

end

end Writer

mutual

/-- The pieces of an operation. -/
def Operation.pieces : Operation → List Code
  | .writeln text => [.line text]
  | .lines texts => texts.map .line
  | .blank => [.blank]
  | .block header footer body => [.block header footer (piecesOf body)]

/-- The pieces of operations one after another. -/
def piecesOf : List Operation → List Code
  | [] => []
  | operation :: rest => operation.pieces ++ piecesOf rest

end

/-- The text of operations. -/
def textOf (operations : List Operation) : String :=
  render (piecesOf operations)

theorem piecesOf_append (first second : List Operation) :
    piecesOf (first ++ second) = piecesOf first ++ piecesOf second := by
  induction first with
  | nil => rfl
  | cons operation rest ih => rw [List.cons_append, piecesOf, ih, piecesOf, List.append_assoc]

namespace Writer

theorem put_empty (writer : Writer) : writer.put "" = writer :=
  congrArg (Writer.mk · writer.level) String.append_empty

theorem put_put (writer : Writer) (first second : String) :
    (writer.put first).put second = writer.put (first ++ second) := by
  rw [put, put, put, String.append_assoc]

theorem writeln_eq (writer : Writer) (line : String) :
    writer.writeln line = writer.put (joined [lineAt writer.level line]) := by
  rw [writeln, joined_singleton]
  unfold lineAt
  split
  · rfl
  · rw [put_put, put_put, join_replicate_spaces, String.append_assoc]

theorem foldl_writeln (writer : Writer) (texts : List String) :
    texts.foldl writeln writer =
      writer.put (joined (allLinesAt writer.level (texts.map .line))) := by
  induction texts generalizing writer with
  | nil => exact writer.put_empty.symm
  | cons text rest ih =>
      rw [List.foldl_cons, ih, writeln_eq, List.map_cons, allLinesAt, linesAt, joined_append,
        ← put_put]
      rfl

mutual

theorem perform_eq (writer : Writer) : ∀ operation : Operation,
    writer.perform operation = writer.put (joined (allLinesAt writer.level operation.pieces))
  | .writeln text => by
      rw [perform, writeln_eq]
      rfl
  | .lines texts => foldl_writeln writer texts
  | .blank => rfl
  | .block header footer body => by
      rw [perform, performAll_eq _ body, writeln_eq, writeln_eq, Operation.pieces, joined_block,
        ← put_put, ← put_put]
      rfl

/-- What a writer adds is the text of the pieces at its level. -/
theorem performAll_eq (writer : Writer) : ∀ operations : List Operation,
    writer.performAll operations =
      writer.put (joined (allLinesAt writer.level (piecesOf operations)))
  | [] => writer.put_empty.symm
  | operation :: rest => by
      rw [performAll, perform_eq writer operation, performAll_eq _ rest, piecesOf,
        allLinesAt_append, joined_append, ← put_put]
      rfl

end

theorem level_perform (writer : Writer) (operation : Operation) :
    (writer.perform operation).level = writer.level := by
  rw [perform_eq]
  rfl

theorem text_performAll {operations : List Operation}
    (unbroken : ∀ text ∈ allTexts (piecesOf operations), Unbroken text) (writer : Writer) :
    (writer.performAll operations).text =
      writer.text ++ shifted^[writer.level] (textOf operations) := by
  rw [performAll_eq, textOf, ← joined_allLinesAt unbroken]
  rfl

theorem performAll_append (writer : Writer) (first second : List Operation) :
    writer.performAll (first ++ second) = (writer.performAll first).performAll second := by
  induction first generalizing writer with
  | nil => rfl
  | cons operation rest ih => exact ih (writer.perform operation)

end Writer

/-! ## Composition -/

/-- How a text is put together from the texts of operations. -/
structure Composes (operations : List Operation) : Prop where
  block : ∀ header footer : String, textOf [.block header footer operations] =
    header ++ "\n" ++ (shifted (textOf operations) ++ (footer ++ "\n"))
  append : ∀ others : List Operation,
    textOf (operations ++ others) = textOf operations ++ textOf others
  sequence : ∀ (writer : Writer) (others : List Operation),
    (writer.performAll operations).performAll others = writer.performAll (operations ++ others)
  /-- A writer adds the text shifted as many times as its level says. -/
  text : ∀ writer : Writer, (writer.performAll operations).text =
    writer.text ++ shifted^[writer.level] (textOf operations)
  /-- Whatever is done, the level is the same afterwards. -/
  level : ∀ (writer : Writer) (operation : Operation),
    (writer.perform operation).level = writer.level

/-- Operations whose texts hold no line feed compose. -/
theorem composes {operations : List Operation}
    (unbroken : ∀ text ∈ allTexts (piecesOf operations), Unbroken text) :
    Composes operations where
  block := fun header footer => by
    have pieces : piecesOf [.block header footer operations] =
        [.block header footer (piecesOf operations)] := rfl
    rw [textOf, textOf, render, render, pieces, joined_block, shifted_allLinesAt unbroken,
      lineAt_zero, lineAt_zero, joined_singleton, joined_singleton]
  append := fun others => by rw [textOf, piecesOf_append, render_append, textOf, textOf]
  sequence := fun writer others => (writer.performAll_append operations others).symm
  text := Writer.text_performAll unbroken
  level := Writer.level_perform

/-- Blocks in a block, with a header and a footer that are empty and with empty
lines between others. -/
theorem composes_loop :
    let operations : List Operation :=
      [.block "" "end" [.lines ["first", ""], .blank, .block "loop" "" [.writeln "next"]]]
    (∀ text ∈ allTexts (piecesOf operations), Unbroken text) ∧
      textOf operations = "\n    first\n\n\n    loop\n        next\n\nend\n" ∧
      Composes operations :=
  ⟨by decide, by decide +kernel, composes (by decide)⟩

end Bindery.Code
