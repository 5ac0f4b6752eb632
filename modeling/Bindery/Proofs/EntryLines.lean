import Bindery.Proofs.LineEndings
import Bindery.Proofs.TextLines
import Bindery.Proofs.Trimming
import Bindery.Proofs.UnbrokenNames

/-!
# The lines of entry points

The text of an entry point is read back as its lines, unless a name holds a line
feed.  The checks can be told apart from all other lines, whatever the names
are.
-/

namespace Bindery

/-! ## Joined lines -/

theorem intercalate_closed (lines : List String) :
    "\n".intercalate (lines ++ ["\x7d"]) = Code.joined lines ++ "\x7d" := by
  induction lines with
  | nil => rfl
  | cons first rest ih =>
      rw [List.cons_append, String.intercalate_cons_of_ne_nil (by simp), ih, Code.joined,
        Code.joined, List.map_cons, String.join_cons]
      simp only [String.append_assoc]

/-- The lines of a text that closes with a brace are read back. -/
theorem lines_closed {lines : List String} (single : ∀ line ∈ lines, Text.OneLine line) :
    Text.lines (Text.trimmedEnd (Code.joined (lines ++ ["\x7d"]))) = lines ++ ["\x7d"] := by
  rw [trimmedEnd_closed, ← intercalate_closed]
  apply Text.lines_intercalate
  · intro line member
    rw [List.mem_append, List.mem_singleton] at member
    rcases member with inLines | rfl
    · exact single line inLines
    · exact ⟨by decide, by decide⟩
  · simp

theorem Text.OneLine.lineAt {text : String} (single : Text.OneLine text) (level : Nat) :
    Text.OneLine (Code.lineAt level text) := by
  unfold Code.lineAt
  split
  · exact ⟨by decide, by decide⟩
  · rename_i filled
    apply single.append (by simpa using filled)
    rw [String.toList_ofList, List.mem_replicate]
    rintro ⟨_, feed⟩
    cases feed

/-! ## Checks -/

/-- A text after some spaces. -/
def indented (spaces : Nat) (text : String) : String :=
  String.ofList (List.replicate spaces ' ') ++ text

/-- A line that checks arguments, for whatever class and entry point. -/
def ChecksArguments (line : String) : Prop :=
  ∃ spaces script name guard, line = indented spaces (Guard.wording script name guard)

/-- A line that checks the number of arguments. -/
def ChecksCount (line : String) : Prop :=
  ∃ spaces script name arities, line = indented spaces (Guard.wording script name (.count arities))

theorem ChecksArguments.endsIn {line : String} (checks : ChecksArguments line) :
    EndsIn guardEndings line := by
  obtain ⟨spaces, script, name, guard, rfl⟩ := checks
  exact (guard.endsIn_wording script name).prepend _

theorem trimStart_indented (spaces : Nat) (text : String) :
    Text.trimStart (indented spaces text).toList = Text.trimStart text.toList := by
  rw [indented, String.toList_append, String.toList_ofList, Text.trimStart,
    List.dropWhile_append_of_pos]
  · rfl
  · intro c member
    rw [(List.mem_replicate.mp member).2]
    rfl

theorem Guard.trimStart_wording (script name : String) (guard : Guard) :
    Text.trimStart (guard.wording script name).toList = (guard.wording script name).toList := by
  apply Text.trimStart_eq_self
  rw [wording.eq_def]
  cases guard <;>
  · simp [String.toList_append]
    decide

/-- The check of a type is no check of the number. -/
theorem Guard.not_checksCount {guard : Guard} (typed : ∀ arities, guard ≠ .count arities)
    (spaces : Nat) (script name : String) :
    ¬ ChecksCount (indented spaces (guard.wording script name)) := by
  rintro ⟨others, other, entry, counts, same⟩
  have equal := congrArg (fun line => Text.trimStart line.toList) same
  simp only [trimStart_indented, Guard.trimStart_wording] at equal
  have begins := congrArg (List.take 16) equal
  rw [wording.eq_def, wording.eq_def] at begins
  cases guard with
  | count arities => exact typed arities rfl
  | always | onCount => simp [String.toList_append] at begins

/-! ## Ends of lines -/

/-- A line that is empty or ends as lines outside the checks do. -/
def EndsOutside (text : String) : Prop :=
  text = "" ∨ EndsIn plainEndings text ∨ EndsIn wrapEndings text

theorem EndsOutside.not_checksArguments {text : String} (ends : EndsOutside text) (level : Nat) :
    ¬ ChecksArguments (Code.lineAt level text) := by
  intro checks
  rcases ends with rfl | plain | wrap
  · have blank : Code.lineAt level "" = "" := rfl
    rw [blank] at checks
    exact absurd checks.endsIn (by decide)
  · exact (plain.lineAt level).not_of_apart apart_plain_guard checks.endsIn
  · exact (wrap.lineAt level).not_of_apart apart_wrap_guard checks.endsIn

/-- No line ends in a carriage return. -/
theorem getLast?_ne_return {line : String}
    (ends : EndsIn (plainEndings ++ (wrapEndings ++ guardEndings)) line) :
    line.toList.getLast? ≠ some '\r' := by
  have closed : ∀ ending ∈ plainEndings ++ (wrapEndings ++ guardEndings),
      ending.toList.getLast?.any (fun c => c != '\r') = true := by
    decide
  obtain ⟨ending, member, front, split⟩ := ends
  have last := closed ending member
  rw [← split, List.getLast?_append]
  cases isLast : ending.toList.getLast? with
  | none =>
      rw [isLast] at last
      cases last
  | some c =>
      rw [isLast] at last
      simpa using last

theorem oneLine_of_endsIn {text : String} (unbroken : Unbroken text)
    (ends : text = "" ∨ EndsIn (plainEndings ++ (wrapEndings ++ guardEndings)) text) :
    Text.OneLine text where
  noFeed := unbroken
  noReturn := by
    rcases ends with rfl | ends
    · decide
    · exact getLast?_ne_return ends

/-- A line outside the checks is told apart from them by its end. -/
structure Outside (text : String) : Prop where
  unbroken : Unbroken text
  ends : EndsOutside text

theorem Outside.oneLine {text : String} (outside : Outside text) : Text.OneLine text := by
  apply oneLine_of_endsIn outside.unbroken
  rcases outside.ends with empty | plain | wrap
  · exact Or.inl empty
  · exact Or.inr (plain.mono (List.subset_append_left _ _))
  · exact Or.inr (wrap.mono fun _ member =>
      List.mem_append_right _ (List.mem_append_left _ member))

/-! ## The lines of an entry point -/

theorem Outside.of_mem_closing {role : Role} {text : String}
    (member : text ∈ Code.allTexts (ClassNames.closing role)) : Outside text := by
  cases role with
  | method => cases member
  | constructor =>
      rcases member with _ | ⟨_, _ | ⟨_, ⟨⟩⟩⟩
      · exact ⟨by decide, Or.inl rfl⟩
      · exact ⟨by decide, Or.inr (Or.inr (by decide))⟩

/-- No name in an entry point holds a line feed. -/
structure UnbrokenEntry (tree : SymbolTree) (names : ClassNames) (name : String) : Prop where
  tree : tree.NamesUnbroken
  script : Unbroken names.script
  native : Unbroken names.native
  name : Unbroken name

namespace UnbrokenEntry

variable {tree : SymbolTree} {owner : NodeId} {names : ClassNames} {role : Role} {name : String}
  {overloads : OverloadSet} {text : String}

theorem entryTop (unbroken : UnbrokenEntry tree names name)
    (member : text ∈ names.entryTop role name) : Outside text where
  ends := Or.inr (Or.inl (ClassNames.endsIn_plain_entryTop member))
  unbroken := by
    rw [ClassNames.entryTop] at member
    rcases member with _ | ⟨_, _ | ⟨_, _ | ⟨_, _ | ⟨_, ⟨⟩⟩⟩⟩⟩
    · decide
    · cases role <;>
      · simp only [ClassNames.entryNote, unbroken_append, unbroken.script, unbroken.name, and_true]
        decide
    · decide
    · cases role <;>
      · simp only [ClassNames.entryHeader_method, ClassNames.entryHeader_constructor,
          unbroken_append, unbroken.script, unbroken.name, and_true]
        decide

theorem frame (unbroken : UnbrokenEntry tree names name) (member : text ∈ names.frame role) :
    Outside text where
  ends := (ClassNames.endsIn_plain_frame member).imp_right Or.inl
  unbroken := by
    have native := unbroken.native
    cases role with
    | constructor =>
        simp only [ClassNames.frame, List.mem_cons, List.not_mem_nil, or_false] at member
        rcases member with rfl | rfl | rfl
        · decide
        · decide
        · exact unbroken_append.mpr ⟨native, by decide⟩
    | method =>
        simp only [ClassNames.frame, List.mem_cons, List.not_mem_nil, or_false] at member
        rcases member with rfl | rfl | rfl | rfl | rfl | rfl
        · decide
        · decide
        · decide
        · decide
        · simp only [unbroken_append, native, true_and, and_true]
          decide
        · decide

theorem statement (unbroken : UnbrokenEntry tree names name)
    (bound : tree.AllBound owner role name overloads) {overload : Overload}
    (inValues : overload ∈ overloads.values) {alone : Bool} {statement : Statement}
    (inStatements : statement ∈ names.statements role alone overload)
    (member : text ∈ statement.code.texts) : Outside text := by
  obtain ⟨⟨number, _⟩, entry, rfl⟩ := List.mem_map.mp inValues
  obtain ⟨function, boundTo⟩ := bound number _ entry
  constructor
  · exact Statement.unbroken_of_mem_texts
      (boundTo.unbroken unbroken.tree unbroken.native alone inStatements) member
  · right
    cases wraps : statement.wraps with
    | false =>
        exact Or.inl (Statement.endsIn_plainEndings
          (boundTo.passesArguments names alone inStatements) wraps member)
    | true =>
        cases statement with
        | returnWrapped wrapped =>
            rw [List.mem_singleton.mp member]
            exact Or.inr (Statement.endsIn_wrapEndings wrapped)
        | _ => cases wraps

/-- No line after the checks is a check. -/
theorem afterGuards (unbroken : UnbrokenEntry tree names name)
    (bound : tree.AllBound owner role name overloads)
    (member : text ∈ Code.allTexts (names.afterGuards role overloads)) : Outside text := by
  rw [ClassNames.afterGuards, ← List.append_assoc, Code.allTexts_append, List.mem_append] at member
  rcases member with inside | atEnd
  · rcases ClassNames.mem_texts_inside inside with inFrame | ⟨number, rfl⟩ |
      ⟨overload, inValues, alone, statement, inStatements, inTexts⟩
    · exact unbroken.frame inFrame
    · constructor
      · unfold countHeader
        simp only [unbroken_append, unbroken_toString, and_true]
        decide
      · exact Or.inr (Or.inl (EndsIn.prepend (by decide) _))
    · exact unbroken.statement bound inValues inStatements inTexts
  · exact Outside.of_mem_closing atEnd

theorem guard (unbroken : UnbrokenEntry tree names name) (guard : Guard) :
    Text.OneLine (guard.wording names.script (entryName role name)) := by
  have ends := guard.endsIn_wording names.script (entryName role name)
  have called : Unbroken (entryName role name) := by
    cases role with
    | method => exact unbroken.name
    | constructor =>
        rw [entryName, constructorName]
        decide
  refine oneLine_of_endsIn ?_ (Or.inr (ends.mono fun _ inEndings =>
    List.mem_append_right _ (List.mem_append_right _ inEndings)))
  rw [Guard.wording.eq_def]
  cases guard with
  | count arities =>
      have tests : Unbroken (" || ".intercalate (arities.map countTest)) := by
        apply unbroken_intercalate (by decide)
        intro test inTests
        obtain ⟨arity, _, rfl⟩ := List.mem_map.mp inTests
        exact unbroken_countTest arity
      refine unbroken_append.mpr ⟨unbroken_append.mpr ⟨?_, tests⟩, by decide⟩
      simp only [unbroken_append, unbroken.script, called, and_true]
      decide
  | always index kind | onCount index kind arity =>
      have word : Unbroken kind.asked := by
        cases kind <;> decide
      simp only [unbroken_append, unbroken.script, called, unbroken_toString, word, and_true]
      decide

theorem oneLine_of_mem_guardCode (unbroken : UnbrokenEntry tree names name)
    (member : text ∈ Code.allTexts (names.guardCode role name overloads)) : Text.OneLine text := by
  rw [ClassNames.guardCode, Code.mem_allTexts_map_iff] at member
  obtain ⟨guard, _, inTexts⟩ := member
  rw [guard.code_eq_line] at inTexts
  exact List.mem_singleton.mp inTexts ▸ unbroken.guard guard

/-- Every line of an entry point is read as one line. -/
theorem oneLine_of_mem_entryPieces (unbroken : UnbrokenEntry tree names name)
    (bound : tree.AllBound owner role name overloads)
    (member : text ∈ Code.allTexts (names.entryPieces role name overloads)) : Text.OneLine text := by
  rw [ClassNames.allTexts_entryPieces, List.mem_append, List.mem_append, List.mem_append,
    List.mem_singleton] at member
  rcases member with inTop | inGuards | after | rfl
  · exact (unbroken.entryTop inTop).oneLine
  · exact unbroken.oneLine_of_mem_guardCode inGuards
  · exact (unbroken.afterGuards bound after).oneLine
  · exact ⟨by decide, by decide⟩

/-- The text of an entry point is read back as its lines. -/
theorem lines_entryPieces (unbroken : UnbrokenEntry tree names name)
    (bound : tree.AllBound owner role name overloads) :
    Text.lines (Text.trimmedEnd (Code.render (names.entryPieces role name overloads))) =
      names.entryTop role name ++ (Code.allLinesAt 1 (names.guardCode role name overloads) ++
        (Code.allLinesAt 1 (names.afterGuards role overloads) ++ ["\x7d"])) := by
  have split := names.allLinesAt_entryPieces role name overloads
  rw [← List.append_assoc, ← List.append_assoc] at split
  rw [Code.render, split, ← List.append_assoc, ← List.append_assoc]
  apply lines_closed
  intro line member
  obtain ⟨text, inTexts, deep, rfl⟩ :=
    Code.exists_text_of_mem_allLinesAt 0 (names.entryPieces role name overloads)
      (split ▸ List.mem_append_left _ member)
  exact (unbroken.oneLine_of_mem_entryPieces bound inTexts).lineAt deep

/-- The checks stand between the lines that open an entry point and its other
code. -/
theorem not_checksArguments (unbroken : UnbrokenEntry tree names name)
    (bound : tree.AllBound owner role name overloads) {line : String}
    (member : line ∈ names.entryTop role name ++
      (Code.allLinesAt 1 (names.afterGuards role overloads) ++ ["\x7d"])) :
    ¬ ChecksArguments line := by
  rw [List.mem_append, List.mem_append, List.mem_singleton] at member
  rcases member with inTop | after | rfl
  · have outside := (unbroken.entryTop inTop).ends.not_checksArguments 0
    rwa [Code.lineAt_zero] at outside
  · obtain ⟨text, inTexts, deep, rfl⟩ := Code.exists_text_of_mem_allLinesAt 1 _ after
    exact (unbroken.afterGuards bound inTexts).ends.not_checksArguments deep
  · intro checks
    exact absurd checks.endsIn (by decide)

end UnbrokenEntry

end Bindery
