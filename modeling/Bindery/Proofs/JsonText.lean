import Mathlib.Tactic.SplitIfs
import Bindery.Json
import Bindery.Proofs.Numeral

/-!
# Documents and their values

A document is the text of one value only.  What follows a value inside a
document begins with a comma or a line feed, so it is clear where the value ends.
-/

namespace Bindery.Json

/-! ## Texts in quotes -/

/-- The value of a hexadecimal digit in lower case. -/
def hexValue (digit : Char) : Nat :=
  if digit.isDigit then digit.toNat - '0'.toNat else digit.toNat - 'a'.toNat + 10

theorem hexValue_hexDigit : ∀ value < 16, hexValue (hexDigit value) = value := by
  decide

/-- Read one character that stands between quotes. -/
def unescape : List Char → Option (Char × List Char)
  | '\\' :: 'u' :: '0' :: '0' :: high :: low :: rest =>
      some (Char.ofNat (16 * hexValue high + hexValue low), rest)
  | '\\' :: 'n' :: rest => some ('\n', rest)
  | '\\' :: 'r' :: rest => some ('\r', rest)
  | '\\' :: 't' :: rest => some ('\t', rest)
  | '\\' :: 'b' :: rest => some (Char.ofNat 0x8, rest)
  | '\\' :: 'f' :: rest => some (Char.ofNat 0xc, rest)
  | '\\' :: c :: rest => some (c, rest)
  | '"' :: _ => none
  | c :: rest => some (c, rest)
  | [] => none

/-- A character between quotes is read back. -/
theorem unescape_escapeChar (c : Char) (rest : List Char) :
    unescape (escapeChar c ++ rest) = some (c, rest) := by
  unfold escapeChar
  split_ifs with isQuote isMark isFeed isReturn isTab isBack isPage isControl
  · rw [isQuote]
    rfl
  · rw [isMark]
    rfl
  · rw [isFeed]
    rfl
  · rw [isReturn]
    rfl
  · rw [isTab]
    rfl
  · rw [← Char.ofNat_toNat c, isBack]
    rfl
  · rw [← Char.ofNat_toNat c, isPage]
    rfl
  · have high := hexValue_hexDigit (c.toNat / 16) (by omega)
    have low := hexValue_hexDigit (c.toNat % 16) (Nat.mod_lt _ (by decide))
    have whole : 16 * (c.toNat / 16) + c.toNat % 16 = c.toNat := Nat.div_add_mod _ _
    simp only [List.cons_append, List.nil_append, unescape, high, low, whole, Char.ofNat_toNat]
  · rw [List.singleton_append, unescape]
    all_goals simp [isQuote, isMark]

/-- Characters between quotes end at the first quote that stands for itself. -/
theorem escaped_cancel {first second rest other : List Char}
    (same : first.flatMap escapeChar ++ '"' :: rest = second.flatMap escapeChar ++ '"' :: other) :
    first = second ∧ rest = other := by
  have ends : ∀ tail, unescape ('"' :: tail) = none := fun _ => rfl
  induction first generalizing second with
  | nil =>
      cases second with
      | nil => exact ⟨rfl, (List.cons.inj same).2⟩
      | cons d ds =>
          have read := congrArg unescape same
          rw [List.flatMap_cons, List.append_assoc, unescape_escapeChar] at read
          cases read
  | cons c cs ih =>
      cases second with
      | nil =>
          have read := congrArg unescape same
          rw [List.flatMap_cons, List.append_assoc, unescape_escapeChar] at read
          cases read
      | cons d ds =>
          have read := congrArg unescape same
          rw [List.flatMap_cons, List.flatMap_cons, List.append_assoc, List.append_assoc,
            unescape_escapeChar, unescape_escapeChar, Option.some.injEq, Prod.mk.injEq] at read
          obtain ⟨rfl, tails⟩ := read
          obtain ⟨rfl, afterwards⟩ := ih tails
          exact ⟨rfl, afterwards⟩

theorem quote_cancel {first second : String} {rest other : List Char}
    (same : (quote first).toList ++ rest = (quote second).toList ++ other) :
    first = second ∧ rest = other := by
  simp only [quote, String.toList_ofList, List.append_assoc, List.cons_append,
    List.cons.injEq, true_and] at same
  obtain ⟨equal, afterwards⟩ := escaped_cancel same
  exact ⟨String.toList_inj.mp equal, afterwards⟩

/-! ## Numbers -/

/-- What may follow a value in a document. -/
def EndsValue (rest : List Char) : Prop :=
  ∀ c ∈ rest.head?, c = ',' ∨ c = '\n'

/-- A character of a number. -/
def isNumeral (c : Char) : Bool :=
  c.isDigit || c = '-'

theorem toList_toString_negSucc (number : Nat) :
    (toString (Int.negSucc number)).toList = '-' :: (toString (number + 1)).toList :=
  String.toList_append

theorem toList_toString_int_ne_nil (value : Int) : (toString value).toList ≠ [] := by
  cases value with
  | ofNat number => exact Text.toList_toString_ne_nil number
  | negSucc number =>
      rw [toList_toString_negSucc]
      exact List.cons_ne_nil _ _

theorem isNumeral_of_mem_toString {value : Int} {c : Char} (member : c ∈ (toString value).toList) :
    isNumeral c = true := by
  cases value with
  | ofNat number =>
      have digit := Text.isDigit_of_mem_toString (show c ∈ (toString number).toList from member)
      rw [isNumeral, digit, Bool.true_or]
  | negSucc number =>
      rw [toList_toString_negSucc] at member
      rcases List.mem_cons.mp member with rfl | inDigits
      · rfl
      · rw [isNumeral, Text.isDigit_of_mem_toString inDigits, Bool.true_or]

theorem toString_injective : Function.Injective (toString : Int → String) := by
  have notSigned : ∀ number below : Nat,
      toString (Int.ofNat number) ≠ toString (Int.negSucc below) := by
    intro number below same
    have sign : '-' ∈ (toString number).toList := by
      rw [show toString number = toString (Int.negSucc below) from same, toList_toString_negSucc]
      exact List.mem_cons_self
    exact absurd (Text.isDigit_of_mem_toString sign) (by decide)
  intro first second same
  cases first with
  | ofNat number =>
      cases second with
      | ofNat other => exact congrArg Int.ofNat (Text.toString_injective same)
      | negSucc below => exact absurd same (notSigned number below)
  | negSucc number =>
      cases second with
      | ofNat other => exact absurd same.symm (notSigned other number)
      | negSucc below =>
          have digits : toString (number + 1) = toString (below + 1) :=
            String.append_right_inj "-" |>.mp same
          rw [Nat.succ.inj (Text.toString_injective digits)]

theorem takeWhile_numeral (value : Int) {rest : List Char} (ends : EndsValue rest) :
    ((toString value).toList ++ rest).takeWhile isNumeral = (toString value).toList := by
  have none : rest.takeWhile isNumeral = [] := by
    cases rest with
    | nil => rfl
    | cons c others =>
        rcases ends c rfl with rfl | rfl <;> rfl
  rw [List.takeWhile_append_of_pos fun c member => isNumeral_of_mem_toString member, none,
    List.append_nil]

theorem number_cancel {first second : Int} {rest other : List Char} (ends : EndsValue rest)
    (otherEnds : EndsValue other)
    (same : (toString first).toList ++ rest = (toString second).toList ++ other) :
    first = second ∧ rest = other := by
  have digits := congrArg (List.takeWhile isNumeral) same
  rw [takeWhile_numeral first ends, takeWhile_numeral second otherEnds] at digits
  rw [digits] at same
  exact ⟨toString_injective (String.toList_inj.mp digits), List.append_cancel_left same⟩

/-! ## Bracketed lists -/

theorem toList_indentation_succ (depth : Nat) :
    (indentation (depth + 1)).toList = ' ' :: ' ' :: (indentation depth).toList := by
  rw [indentation, indentation, String.toList_ofList, String.toList_ofList]
  rfl

/-- The parts of a bracketed list, each on a line of its own, before the rest of a
document. -/
def partsText (depth : Nat) (parts : List String) (rest : List Char) : List Char :=
  (",\n".intercalate (parts.map fun part => indentation depth ++ part)).toList ++ '\n' :: rest

/-- What stands after a part. -/
def afterPart (depth : Nat) (rest : List Char) : (later : List String) → List Char
  | [] => '\n' :: rest
  | next :: later => ',' :: '\n' :: partsText depth (next :: later) rest

theorem endsValue_afterPart (depth : Nat) (rest : List Char) (later : List String) :
    EndsValue (afterPart depth rest later) := by
  intro c first
  cases later with
  | nil => exact Or.inr (Option.some.inj first).symm
  | cons next later => exact Or.inl (Option.some.inj first).symm

theorem partsText_cons (depth : Nat) (part : String) (later : List String) (rest : List Char) :
    partsText depth (part :: later) rest =
      (indentation depth).toList ++ (part.toList ++ afterPart depth rest later) := by
  cases later with
  | nil =>
      rw [partsText, List.map_singleton, String.intercalate_singleton, String.toList_append,
        List.append_assoc, afterPart]
  | cons next later =>
      rw [partsText, List.map_cons, List.map_cons, String.intercalate_cons_cons, afterPart,
        partsText, List.map_cons]
      simp [String.toList_append]

/-- The text of a value shows what the value is and where it ends. -/
def Tells {α : Type} (write : α → String) (value : α) : Prop :=
  ∀ (other : α) (rest tail : List Char), EndsValue rest → EndsValue tail →
    (write value).toList ++ rest = (write other).toList ++ tail → value = other ∧ rest = tail

/-- A list is told by its parts.  Parts are indented, so none begins with a line
feed. -/
theorem partsText_cancel {α : Type} {write : α → String} (depth : Nat) {first second : List α}
    (tells : ∀ part ∈ first, Tells write part) {rest tail : List Char}
    (same : partsText (depth + 1) (first.map write) rest =
      partsText (depth + 1) (second.map write) tail) : first = second ∧ rest = tail := by
  induction first generalizing second with
  | nil =>
      cases second with
      | nil => exact ⟨rfl, (List.cons.inj same).2⟩
      | cons next others =>
          rw [List.map_cons, partsText_cons, toList_indentation_succ] at same
          cases (List.cons.inj same).1
  | cons part later ih =>
      obtain ⟨tellsPart, tellsLater⟩ := List.forall_mem_cons.mp tells
      cases second with
      | nil =>
          rw [List.map_cons, partsText_cons, toList_indentation_succ] at same
          cases (List.cons.inj same).1
      | cons next others =>
          rw [List.map_cons, List.map_cons, partsText_cons, partsText_cons,
            List.append_cancel_left_eq] at same
          obtain ⟨rfl, after⟩ := tellsPart next _ _ (endsValue_afterPart _ _ _)
            (endsValue_afterPart _ _ _) same
          cases later with
          | nil =>
              cases others with
              | nil => exact ⟨rfl, (List.cons.inj after).2⟩
              | cons following more => cases after
          | cons following more =>
              cases others with
              | nil => cases after
              | cons another remaining =>
                  have onward : partsText (depth + 1) ((following :: more).map write) rest =
                      partsText (depth + 1) ((another :: remaining).map write) tail :=
                    (List.cons.inj (List.cons.inj after).2).2
                  obtain ⟨equal, ended⟩ := ih tellsLater onward
                  exact ⟨congrArg (part :: ·) equal, ended⟩

theorem toList_bracketed_nil (opening closing : String) (depth : Nat) (rest : List Char) :
    (bracketed opening closing depth []).toList ++ rest =
      opening.toList ++ (closing.toList ++ rest) := by
  rw [bracketed, List.isEmpty_nil, if_pos rfl, String.toList_append, List.append_assoc]

theorem toList_bracketed_cons (opening closing : String) (depth : Nat) (part : String)
    (parts : List String) (rest : List Char) :
    (bracketed opening closing depth (part :: parts)).toList ++ rest =
      opening.toList ++ '\n' :: partsText (depth + 1) (part :: parts)
        ((indentation depth).toList ++ (closing.toList ++ rest)) := by
  rw [bracketed, List.isEmpty_cons, if_neg Bool.false_ne_true, partsText]
  simp [String.toList_append]

/-- Brackets are told by what stands between them. -/
theorem bracketed_cancel {α : Type} {write : α → String} (opening : String) (closing : Char)
    (notFeed : closing ≠ '\n') (depth : Nat) {first second : List α}
    (tells : ∀ part ∈ first, Tells write part) {rest tail : List Char}
    (same : (bracketed opening (String.singleton closing) depth (first.map write)).toList ++ rest =
      (bracketed opening (String.singleton closing) depth (second.map write)).toList ++ tail) :
    first = second ∧ rest = tail := by
  cases first with
  | nil =>
      cases second with
      | nil =>
          rw [List.map_nil, toList_bracketed_nil, toList_bracketed_nil] at same
          exact ⟨rfl, List.append_cancel_left (List.append_cancel_left same)⟩
      | cons next others =>
          rw [List.map_nil, List.map_cons, toList_bracketed_nil, toList_bracketed_cons,
            List.append_cancel_left_eq] at same
          simp [notFeed] at same
  | cons part later =>
      cases second with
      | nil =>
          rw [List.map_nil, List.map_cons, toList_bracketed_nil, toList_bracketed_cons,
            List.append_cancel_left_eq] at same
          simp [Ne.symm notFeed] at same
      | cons next others =>
          rw [List.map_cons, List.map_cons, toList_bracketed_cons, toList_bracketed_cons,
            List.append_cancel_left_eq, List.cons.injEq, ← List.map_cons, ← List.map_cons] at same
          obtain ⟨equal, ended⟩ := partsText_cancel depth tells same.2
          exact ⟨equal, List.append_cancel_left (List.append_cancel_left ended)⟩

/-! ## Values -/

/-- The kind of a value. -/
def shape : Json → Nat
  | .number _ => 0
  | .string _ => 1
  | .array _ => 2
  | .object _ => 3

/-- The kind of the value that a text begins with. -/
def shapeOf : List Char → Nat
  | '"' :: _ => 1
  | '[' :: _ => 2
  | '\x7b' :: _ => 3
  | _ => 0

theorem shapeOf_render (depth : Nat) (value : Json) (rest : List Char) :
    shapeOf ((render depth value).toList ++ rest) = shape value := by
  cases value with
  | number value =>
      rw [render]
      cases text : (toString value).toList with
      | nil => exact absurd text (toList_toString_int_ne_nil value)
      | cons c others =>
          have member : c ∈ (toString value).toList := text ▸ List.mem_cons_self
          have numeral := isNumeral_of_mem_toString member
          rw [List.cons_append, shapeOf, shape]
          all_goals
            intro _ begins
            rw [(List.cons.inj begins).1] at numeral
            cases numeral
  | string text =>
      rw [render, quote, String.toList_ofList]
      rfl
  | array items =>
      cases items with
      | nil =>
          rw [render, renderItems, toList_bracketed_nil]
          rfl
      | cons item items =>
          rw [render, renderItems, toList_bracketed_cons]
          rfl
  | object members =>
      cases members with
      | nil =>
          rw [render, renderMembers, toList_bracketed_nil]
          rfl
      | cons member members =>
          rw [render, renderMembers, toList_bracketed_cons]
          rfl

theorem renderItems_eq_map (depth : Nat) (items : List Json) :
    renderItems depth items = items.map (render depth) := by
  induction items with
  | nil => rfl
  | cons item rest ih => rw [renderItems, ih, List.map_cons]

/-- A member of an object as text. -/
def memberText (depth : Nat) (member : String × Json) : String :=
  quote member.1 ++ ": " ++ render depth member.2

theorem renderMembers_eq_map (depth : Nat) (members : List (String × Json)) :
    renderMembers depth members = members.map (memberText depth) := by
  induction members with
  | nil => rfl
  | cons member rest ih => rw [renderMembers, ih, List.map_cons, memberText]

theorem tells_memberText {depth : Nat} {member : String × Json}
    (tells : Tells (render depth) member.2) : Tells (memberText depth) member := by
  intro other rest tail ends tailEnds same
  simp only [memberText, String.toList_append, List.append_assoc] at same
  obtain ⟨sameKey, after⟩ := quote_cancel same
  obtain ⟨sameValue, ended⟩ := tells other.2 rest tail ends tailEnds (List.append_cancel_left after)
  exact ⟨Prod.ext sameKey sameValue, ended⟩

/-- Texts that are equal are texts of values of one kind. -/
theorem shape_eq {depth : Nat} {first second : Json} {rest tail : List Char}
    (same : (render depth first).toList ++ rest = (render depth second).toList ++ tail) :
    shape first = shape second := by
  rw [← shapeOf_render depth first rest, same, shapeOf_render]

theorem tells_number (depth : Nat) (value : Int) : Tells (render depth) (.number value) := by
  intro second rest tail ends tailEnds same
  have kind := shape_eq same
  cases second with
  | number other =>
      rw [render, render] at same
      obtain ⟨rfl, ended⟩ := number_cancel ends tailEnds same
      exact ⟨rfl, ended⟩
  | _ => cases kind

theorem tells_string (depth : Nat) (text : String) : Tells (render depth) (.string text) := by
  intro second rest tail _ _ same
  have kind := shape_eq same
  cases second with
  | string other =>
      rw [render, render] at same
      obtain ⟨rfl, ended⟩ := quote_cancel same
      exact ⟨rfl, ended⟩
  | _ => cases kind

theorem tells_array {depth : Nat} {items : List Json}
    (tells : ∀ item ∈ items, Tells (render (depth + 1)) item) :
    Tells (render depth) (.array items) := by
  intro second rest tail _ _ same
  have kind := shape_eq same
  cases second with
  | array others =>
      rw [render, render, renderItems_eq_map, renderItems_eq_map] at same
      obtain ⟨rfl, ended⟩ := bracketed_cancel "[" ']' (by decide) depth tells same
      exact ⟨rfl, ended⟩
  | _ => cases kind

theorem tells_object {depth : Nat} {members : List (String × Json)}
    (tells : ∀ member ∈ members, Tells (render (depth + 1)) member.2) :
    Tells (render depth) (.object members) := by
  intro second rest tail _ _ same
  have kind := shape_eq same
  cases second with
  | object others =>
      rw [render, render, renderMembers_eq_map, renderMembers_eq_map] at same
      obtain ⟨rfl, ended⟩ := bracketed_cancel "\x7b" '\x7d' (by decide) depth
        (fun member inMembers => tells_memberText (tells member inMembers)) same
      exact ⟨rfl, ended⟩
  | _ => cases kind

mutual

/-- Every value can be told from its text. -/
theorem tells_render (depth : Nat) : ∀ value : Json, Tells (render depth) value
  | .number value => tells_number depth value
  | .string text => tells_string depth text
  | .array items => tells_array (tells_items (depth + 1) items)
  | .object members => tells_object (tells_members (depth + 1) members)

theorem tells_items (depth : Nat) : ∀ items : List Json, ∀ item ∈ items, Tells (render depth) item
  | [], _, member => absurd member List.not_mem_nil
  | first :: rest, item, member => by
      rcases List.mem_cons.mp member with same | inRest
      · rw [same]
        exact tells_render depth first
      · exact tells_items depth rest item inRest

theorem tells_members (depth : Nat) : ∀ members : List (String × Json), ∀ member ∈ members,
    Tells (render depth) member.2
  | [], _, inMembers => absurd inMembers List.not_mem_nil
  | (key, value) :: rest, member, inMembers => by
      rcases List.mem_cons.mp inMembers with same | inRest
      · rw [same]
        exact tells_render depth value
      · exact tells_members depth rest member inRest

end

/-- Different values make different documents. -/
theorem pretty_injective : Function.Injective pretty := by
  intro first second same
  have ended : EndsValue [] := fun c first => by cases first
  exact (tells_render 0 first second [] [] ended ended (congrArg (String.toList · ++ []) same)).1

end Bindery.Json
