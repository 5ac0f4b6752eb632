import Bindery.Proofs.CountDispatch

/-!
# The texts in entry points

The lines of an entry point, indentation aside, come from the checks, from the
statements of the overloads or from the frame around them.  The frame depends on
the role and the names of the class alone, up to the tests for the number of
arguments.
-/

namespace Bindery.ClassNames

variable {names : ClassNames} {role : Role} {overloads : OverloadSet} {text : String}

/-- The lines of an entry point. -/
theorem allTexts_entryPieces (names : ClassNames) (role : Role) (name : String)
    (overloads : OverloadSet) :
    Code.allTexts (names.entryPieces role name overloads) =
      names.entryTop role name ++ (Code.allTexts (names.guardCode role name overloads) ++
        (Code.allTexts (names.afterGuards role overloads) ++ ["\x7d"])) := by
  simp only [entryPieces, entryTop, OverloadSet.comment, Code.allTexts_append, Code.allTexts,
    Code.texts, List.map_cons, List.map_nil, List.append_assoc, List.cons_append, List.nil_append,
    List.append_nil]

/-- The lines of a body are those of its statements and blank ones. -/
theorem mem_texts_bodyCode {alone : Bool} {overload : Overload}
    (member : text ∈ Code.allTexts (names.bodyCode role alone overload)) :
    text = "" ∨ ∃ statement ∈ names.statements role alone overload,
      text ∈ statement.code.texts := by
  cases role with
  | constructor => exact Or.inr (Code.mem_allTexts_map_iff.mp member)
  | method =>
      rw [bodyCode, Code.allTexts_append, Code.allTexts_append,
        List.mem_append, List.mem_append, Code.mem_allTexts_map_iff, Code.mem_allTexts_map_iff] at member
      rcases member with (⟨statement, inConversions, inTexts⟩ | inGap) |
        ⟨statement, inReturn, inTexts⟩
      · exact Or.inr ⟨statement, List.mem_append_left _ inConversions, inTexts⟩
      · split at inGap
        · cases inGap
        · exact Or.inl (List.mem_singleton.mp inGap)
      · exact Or.inr ⟨statement, List.mem_append_right _ inReturn, inTexts⟩

/-- The lines between the checks and the end that do not depend on overloads. -/
def frame (names : ClassNames) : Role → List String
  | .method =>
      ["", "\x7d", "uintptr_t ptr_val;", "jerry_get_object_native_handle(this_obj, &ptr_val);",
        names.native ++ "* native_ptr = reinterpret_cast<" ++ names.native ++ "*>(ptr_val);",
        "return jerry_create_undefined();"]
  | .constructor => ["", "\x7d", names.native ++ "* native_ptr = NULL;"]

theorem mem_frame_of_mem_opening (member : text ∈ Code.allTexts (names.opening role)) :
    text ∈ names.frame role := by
  cases role with
  | constructor => exact List.mem_singleton.mp member ▸ List.mem_cons_self
  | method =>
      simp only [opening, Code.allTexts, Code.texts, Code.blank, List.cons_append, List.nil_append,
        List.mem_cons, List.not_mem_nil, or_false] at member
      rw [frame]
      rcases member with rfl | rfl | rfl | rfl | rfl <;> simp

theorem mem_frame_of_mem_around (member : text ∈ Code.allTexts (names.beforeBlocks role) ∨
      text ∈ Code.allTexts (afterBlocks role)) : text ∈ names.frame role := by
  cases role with
  | constructor =>
      rcases member with declared | nothing
      · rw [List.mem_singleton.mp declared, frame]
        simp
      · cases nothing
  | method =>
      rcases member with nothing | returned
      · cases nothing
      · rw [frame]
        rcases returned with _ | ⟨_, _ | ⟨_, ⟨⟩⟩⟩ <;> simp

theorem mem_texts_countBlock {overload : Overload} {body : List Code}
    (member : text ∈ (OverloadSet.countBlock overload body).texts) :
    text ∈ names.frame role ∨ text = countHeader overload.arity ∨ text ∈ Code.allTexts body := by
  have brace : "\x7d" ∈ names.frame role := by
    cases role <;> simp [frame]
  rw [OverloadSet.countBlock, Code.texts, List.mem_cons, List.mem_append,
    List.mem_singleton] at member
  rcases member with rfl | inBody | rfl
  · exact Or.inr (Or.inl (countHeader_eq _))
  · exact Or.inr (Or.inr inBody)
  · exact Or.inl brace

theorem mem_texts_dispatch (member : text ∈ Code.allTexts (names.dispatch role overloads)) :
    text ∈ names.frame role ∨ (∃ number, text = countHeader number) ∨
      ∃ overload ∈ overloads.values, ∃ alone, ∃ statement ∈ names.statements role alone overload,
        text ∈ statement.code.texts := by
  have blank : "" ∈ names.frame role := by
    cases role <;> exact List.mem_cons_self
  have ofBody : ∀ overload ∈ overloads.values, ∀ alone,
      text ∈ Code.allTexts (names.bodyCode role alone overload) →
        text ∈ names.frame role ∨ ∃ overload ∈ overloads.values, ∃ alone,
          ∃ statement ∈ names.statements role alone overload, text ∈ statement.code.texts := by
    intro overload inValues alone inBody
    rcases mem_texts_bodyCode inBody with rfl | inStatements
    · exact Or.inl blank
    · exact Or.inr ⟨overload, inValues, alone, inStatements⟩
  unfold dispatch at member
  split at member
  · rename_i overload values
    have inValues : overload ∈ overloads.values := values ▸ List.mem_singleton_self overload
    exact (ofBody overload inValues true member).imp_right Or.inr
  · rw [Code.allTexts_append, Code.allTexts_append, List.mem_append, List.mem_append,
      Code.mem_allTexts_map_iff] at member
    rcases member with before | ⟨overload, inValues, inBlock⟩ | after
    · exact Or.inl (mem_frame_of_mem_around (Or.inl before))
    · rcases mem_texts_countBlock inBlock with inFrame | isHeader | inBody
      · exact Or.inl inFrame
      · exact Or.inr (Or.inl ⟨overload.arity, isHeader⟩)
      · exact (ofBody overload inValues false inBody).imp_right Or.inr
    · exact Or.inl (mem_frame_of_mem_around (Or.inr after))

/-- Between the checks and the end of an entry point there are the frame, the
tests for the number of arguments and the statements of the overloads. -/
theorem mem_texts_inside
    (member : text ∈ Code.allTexts (names.opening role ++ names.dispatch role overloads)) :
    text ∈ names.frame role ∨ (∃ number, text = countHeader number) ∨
      ∃ overload ∈ overloads.values, ∃ alone, ∃ statement ∈ names.statements role alone overload,
        text ∈ statement.code.texts := by
  rw [Code.allTexts_append, List.mem_append] at member
  exact member.elim (Or.inl ∘ mem_frame_of_mem_opening) mem_texts_dispatch

end Bindery.ClassNames
