import Mathlib.Tactic.IntervalCases
import Bindery.Proofs.EntryTexts

/-!
# How lines end

The lines of entry points begin with names and spellings, which may be any text.
What they end in is fixed by their purpose, up to a digit.  So lines of different
purposes are told apart by their ends, whatever the names are.
-/

namespace Bindery

/-! ## Endings -/

/-- A line ends in one of the given texts. -/
def EndsIn (endings : List String) (line : String) : Prop :=
  ∃ ending ∈ endings, ending.toList <:+ line.toList

instance (endings : List String) (line : String) : Decidable (EndsIn endings line) :=
  inferInstanceAs (Decidable (∃ ending ∈ endings, ending.toList <:+ line.toList))

/-- Whether no line ends both in one of the first and in one of the second
texts. -/
def apart (first second : List String) : Bool :=
  first.all fun ending => second.all fun other =>
    !ending.toList.isSuffixOf other.toList && !other.toList.isSuffixOf ending.toList

theorem endsIn_append {endings : List String} {ending : String} (member : ending ∈ endings)
    (front : String) : EndsIn endings (front ++ ending) := by
  refine ⟨ending, member, ?_⟩
  rw [String.toList_append]
  exact List.suffix_append _ _

theorem EndsIn.not_of_apart {first second : List String} {line : String}
    (ends : EndsIn first line) (different : apart first second = true) :
    ¬ EndsIn second line := by
  rintro ⟨other, inSecond, otherSuffix⟩
  obtain ⟨ending, inFirst, suffix⟩ := ends
  have unlike := List.all_eq_true.mp (List.all_eq_true.mp different ending inFirst) other inSecond
  rw [Bool.and_eq_true, Bool.not_eq_true', Bool.not_eq_true'] at unlike
  rcases List.suffix_or_suffix_of_suffix suffix otherSuffix with shorter | longer
  · rw [← List.isSuffixOf_iff_suffix, unlike.1] at shorter
    cases shorter
  · rw [← List.isSuffixOf_iff_suffix, unlike.2] at longer
    cases longer

/-- What stands before an ending makes no difference. -/
theorem EndsIn.prepend {endings : List String} {line : String} (ends : EndsIn endings line)
    (front : String) : EndsIn endings (front ++ line) := by
  obtain ⟨ending, member, suffix⟩ := ends
  refine ⟨ending, member, ?_⟩
  rw [String.toList_append]
  exact suffix.trans (List.suffix_append _ _)

theorem EndsIn.mono {first second : List String} {line : String} (ends : EndsIn first line)
    (within : first ⊆ second) : EndsIn second line := by
  obtain ⟨ending, member, suffix⟩ := ends
  exact ⟨ending, within member, suffix⟩

/-- Indentation changes no ending. -/
theorem EndsIn.lineAt {endings : List String} {text : String} (ends : EndsIn endings text)
    (level : Nat) : EndsIn endings (Code.lineAt level text) := by
  obtain ⟨ending, member, suffix⟩ := ends
  refine ⟨ending, member, ?_⟩
  unfold Code.lineAt
  split
  · rename_i empty
    rwa [String.isEmpty_iff.mp empty] at suffix
  · rw [String.toList_append]
    exact suffix.trans (List.suffix_append _ _)

/-! ## Numbers -/

/-- The digits. -/
def digits : List String :=
  ["0", "1", "2", "3", "4", "5", "6", "7", "8", "9"]

/-- The endings of a digit and a text. -/
def afterDigit (rest : String) : List String :=
  digits.map fun digit => digit ++ rest

theorem exists_last_digit (number : Nat) :
    ∃ front, ∃ digit ∈ digits, toString number = front ++ digit := by
  obtain ⟨front, last, split⟩ :=
    (List.eq_nil_or_concat (toString number).toList).resolve_left
      (Text.toList_toString_ne_nil number)
  rw [List.concat_eq_append] at split
  have isDigit : last.isDigit = true :=
    Text.isDigit_of_mem_toString (split ▸ List.mem_append_right front List.mem_cons_self)
  refine ⟨String.ofList front, String.ofList [last], ?_, ?_⟩
  · have low : 48 ≤ last.toNat := (Char.isDigit_iff_toNat.mp isDigit).1
    have high : last.toNat ≤ 57 := (Char.isDigit_iff_toNat.mp isDigit).2
    rw [← Char.ofNat_toNat last]
    interval_cases last.toNat <;> decide
  · rw [← String.ofList_append, ← split, String.ofList_toList]

theorem endsIn_afterDigit (front : String) (number : Nat) (rest : String) :
    EndsIn (afterDigit rest) (front ++ toString number ++ rest) := by
  obtain ⟨lead, digit, isDigit, split⟩ := exists_last_digit number
  rw [split, ← String.append_assoc, String.append_assoc]
  exact endsIn_append (List.mem_map.mpr ⟨digit, isDigit, rfl⟩) _

/-- Joined texts end in the last of them. -/
theorem exists_intercalate_concat (separator : String) (items : List String) (last : String) :
    ∃ front, separator.intercalate (items ++ [last]) = front ++ last := by
  cases items with
  | nil => exact ⟨"", by simp⟩
  | cons first rest =>
      rw [String.intercalate_append_of_ne_nil (List.cons_ne_nil _ _) (List.cons_ne_nil _ _),
        String.intercalate_singleton]
      exact ⟨_, rfl⟩

/-- A list of arguments ends in a digit, unless it is empty. -/
theorem endsIn_argumentList (callee : String) (count : Nat) :
    EndsIn ("();" :: afterDigit ");") (callee ++ "(" ++ argumentList count ++ ");") := by
  cases count with
  | zero =>
      have empty : "(" ++ (argumentList 0 ++ ");") = "();" := rfl
      rw [String.append_assoc, String.append_assoc, empty]
      exact endsIn_append List.mem_cons_self callee
  | succ count =>
      obtain ⟨front, split⟩ := exists_intercalate_concat ", "
        ((List.range count).map argumentName) (argumentName count)
      obtain ⟨ending, member, suffix⟩ :=
        endsIn_afterDigit (callee ++ "(" ++ (front ++ "arg")) count ");"
      refine ⟨ending, List.mem_cons_of_mem _ member, ?_⟩
      rw [argumentList, List.range_succ, List.map_append, List.map_singleton, split,
        argumentName]
      simpa only [String.append_assoc] using suffix

/-! ## Kinds of lines -/

/-- The endings of lines that neither check an argument nor wrap an object. -/
def plainEndings : List String :=
  ["]));", "]);", " + 1);", "_size);", "\\0';", "_buffer);", "_buffer;", "_handle;", "_handle);",
    "();", "(double) result);", "boolean(result);", "*) result);", "size());", "ptr_val;",
    "&ptr_val);", ">(ptr_val);", "NULL;", "\x7b", "\x7d", "/**", " */", "method)",
    "constructor)", "JavaScript)", "JavaScript\");"] ++ afterDigit ");"

/-- The endings of lines that wrap an object. -/
def wrapEndings : List String :=
  ["object(result);", "(result));", "(native_ptr);"]

/-- The endings of checks. -/
def guardEndings : List String :=
  ["number);", "boolean);", "string);", "object);", ", ());"] ++ afterDigit "));"

theorem apart_plain_guard : apart plainEndings guardEndings = true := by
  decide

theorem apart_wrap_guard : apart wrapEndings guardEndings = true := by
  decide

/-! ## Statements -/

namespace Statement

/-- A call passes a number of arguments. -/
def PassesArguments : Statement → Prop
  | .call expression | .callFor _ expression =>
      ∃ callee count, expression = callee ++ "(" ++ argumentList count ++ ")"
  | _ => True

theorem endsIn_scriptValue (front : String) (index : Nat) {rest : String}
    (ends : EndsIn plainEndings ("]" ++ rest)) :
    EndsIn plainEndings (front ++ scriptValue index ++ rest) := by
  have whole := ends.prepend (front ++ ("args[" ++ toString index))
  simpa only [scriptValue, String.append_assoc] using whole

/-- A call ends as its list of arguments does. -/
theorem endsIn_call (callee : String) (count : Nat) :
    EndsIn plainEndings (callee ++ "(" ++ argumentList count ++ ");") := by
  have within : "();" :: afterDigit ");" ⊆ plainEndings := by
    decide
  exact (endsIn_argumentList callee count).mono within

/-- The lines of a statement that wraps nothing end plainly, whatever names are
in them. -/
theorem endsIn_plainEndings {statement : Statement} (passes : statement.PassesArguments)
    (plain : statement.wraps = false) {text : String} (member : text ∈ statement.code.texts) :
    EndsIn plainEndings text := by
  have close : ");" = ")" ++ ";" := rfl
  cases statement with
  | returnWrapped wrapped => cases plain
  | returnNullIfNull =>
      have all : ∀ text ∈ Statement.returnNullIfNull.code.texts, EndsIn plainEndings text := by
        decide
      exact all text member
  | call expression =>
      obtain ⟨callee, count, rfl⟩ := passes
      have ends := endsIn_call callee count
      rw [List.mem_singleton.mp member]
      rwa [close, ← String.append_assoc] at ends
  | callFor type expression =>
      obtain ⟨callee, count, rfl⟩ := passes
      have ends := endsIn_call (type ++ " result = " ++ callee) count
      rw [List.mem_singleton.mp member]
      rw [close] at ends
      simpa only [String.append_assoc] using ends
  | declareNew record arguments | assignNew record arguments =>
      rw [List.mem_singleton.mp member]
      exact endsIn_call _ arguments
  | bindNumber index _ | bindBoolean index | measureString index =>
      rw [List.mem_singleton.mp member]
      apply endsIn_scriptValue
      decide
  | returnUndefined | returnNumber | returnBoolean | returnCString =>
      rw [List.mem_singleton.mp member]
      decide
  | _ =>
      rw [List.mem_singleton.mp member]
      apply EndsIn.prepend
      decide

/-- A line that wraps an object can be told by its end. -/
theorem endsIn_wrapEndings (wrapped : Wrapped) :
    EndsIn wrapEndings ("return " ++ wrapRoutine ++ "(" ++ wrapped.expression ++ ");") := by
  have close : "(result));" = "(result)" ++ ");" := rfl
  have ends : EndsIn wrapEndings "(result));" := by
    decide
  cases wrapped with
  | result => decide
  | withoutConst record =>
      have cast : "*>(result)" = "*>" ++ "(result)" := rfl
      have whole := ends.prepend ("return " ++ wrapRoutine ++ "(" ++
        ("const_cast<" ++ record ++ "*>"))
      rw [close] at whole
      simpa only [Wrapped.expression, cast, String.append_assoc] using whole
  | copy record =>
      have whole := ends.prepend ("return " ++ wrapRoutine ++ "(" ++ ("new " ++ record))
      rw [close] at whole
      simpa only [Wrapped.expression, String.append_assoc] using whole

theorem passesArguments_of_argument? {statement : Statement} {index : Nat}
    (about : statement.argument? = some index) : statement.PassesArguments := by
  cases statement with
  | call | callFor => cases about
  | _ => trivial

theorem passesArguments_of_mayReturn {statement : Statement}
    (returning : statement.mayReturn = true) : statement.PassesArguments := by
  cases statement with
  | call | callFor => cases returning
  | _ => trivial

theorem passesArguments_callOf (native : NativeType) (name : String) (arity : Nat) :
    (SymbolTree.callOf native (SymbolTree.methodCall name arity)).PassesArguments := by
  unfold SymbolTree.callOf
  split <;> exact ⟨"native_ptr->" ++ name, arity, rfl⟩

end Statement

/-! ## Checks -/

/-- Every check ends in the type that it asks for or in a number. -/
theorem Guard.endsIn_wording (script name : String) (guard : Guard) :
    EndsIn guardEndings (guard.wording script name) := by
  have digits : afterDigit "));" ⊆ guardEndings := List.subset_append_right _ _
  rw [wording.eq_def]
  cases guard with
  | always index kind =>
      dsimp only
      rw [String.append_assoc]
      apply EndsIn.prepend
      cases kind <;> decide
  | onCount index kind arity =>
      dsimp only
      rw [← String.append_assoc]
      exact (endsIn_afterDigit _ arity _).mono digits
  | count arities =>
      dsimp only
      rcases List.eq_nil_or_concat arities with rfl | ⟨others, last, rfl⟩
      · have open_ : ", ());" = ", (" ++ "));" := rfl
        have ends : EndsIn guardEndings ", ());" := by
          decide
        have whole := ends.prepend ("CHECK_ARGUMENT_COUNT(" ++ script ++ ", " ++ name)
        rw [open_, ← String.append_assoc] at whole
        rwa [List.map_nil, String.intercalate_nil, String.append_empty]
      · obtain ⟨front, split⟩ := exists_intercalate_concat " || " (others.map countTest)
          (countTest last)
        have tests : " || ".intercalate
            ((others ++ [last]).map fun arity => "args_count == " ++ toString arity) =
              front ++ countTest last := by
          rw [List.map_append]
          exact split
        rw [List.concat_eq_append, tests, countTest, ← String.append_assoc, ← String.append_assoc]
        exact (endsIn_afterDigit _ last _).mono digits

/-! ## Entry points -/

namespace ClassNames

variable {names : ClassNames}

theorem endsIn_plain_frame {role : Role} {text : String} (member : text ∈ names.frame role) :
    text = "" ∨ EndsIn plainEndings text := by
  cases role with
  | constructor =>
      simp only [frame, List.mem_cons, List.not_mem_nil, or_false] at member
      rcases member with rfl | rfl | rfl
      · exact Or.inl rfl
      · exact Or.inr (by decide)
      · exact Or.inr (EndsIn.prepend (by decide) _)
  | method =>
      simp only [frame, List.mem_cons, List.not_mem_nil, or_false] at member
      rcases member with rfl | rfl | rfl | rfl | rfl | rfl
      · exact Or.inl rfl
      · exact Or.inr (by decide)
      · exact Or.inr (by decide)
      · exact Or.inr (by decide)
      · exact Or.inr (EndsIn.prepend (by decide) _)
      · exact Or.inr (by decide)

theorem endsIn_plain_entryTop {role : Role} {name text : String}
    (member : text ∈ names.entryTop role name) : EndsIn plainEndings text := by
  have open_ : EndsIn plainEndings ") \x7b" := by
    decide
  rcases member with _ | ⟨_, _ | ⟨_, _ | ⟨_, _ | ⟨_, ⟨⟩⟩⟩⟩⟩
  · decide
  · cases role <;> exact EndsIn.prepend (by decide) _
  · decide
  · cases role <;> exact open_.prepend _

end ClassNames

/-! ## Statements of bound members -/

namespace SymbolTree

variable {tree : SymbolTree} {owner : NodeId} {slot : Slot} {function : NodeId}
  {overload : Overload}

theorem BoundTo.argument?_of_mem_plans (bound : tree.BoundTo owner slot function overload)
    {statement : Statement}
    (member : statement ∈ overload.arguments.flatMap fun plan => plan.conversion ++ plan.cleanup) :
    ∃ index, statement.argument? = some index := by
  obtain ⟨index, _, about⟩ := (planned_of_lower bound.lowered).argument?_of_mem member
  exact ⟨index, about⟩

theorem BoundTo.passesArguments (bound : tree.BoundTo owner slot function overload)
    (names : ClassNames) (alone : Bool) {statement : Statement}
    (member : statement ∈ names.statements slot.role alone overload) :
    statement.PassesArguments := by
  rcases bound.cases_of_mem_statements member with inPlans | rfl |
    ⟨_, declared, native, back, _, _, given, _, rfl | inBack⟩
  · obtain ⟨index, about⟩ := bound.argument?_of_mem_plans inPlans
    exact Statement.passesArguments_of_argument? about
  · cases alone <;> trivial
  · exact Statement.passesArguments_callOf native declared _
  · exact Statement.passesArguments_of_mayReturn (mayReturn_of_mem_giveBack given inBack)

end SymbolTree

end Bindery
