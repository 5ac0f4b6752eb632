import Bindery.Proofs.CountDispatch

/-!
# The body that is run

An entry point runs the body for its number of arguments and no other one.  A
method returns on every path, whether or not a body is chosen, and so does a
constructor.
-/

namespace Bindery

/-! ## Returns -/

namespace Code

theorem isReturn_append (rest : String) : isReturn ("return " ++ rest) = true := by
  rw [isReturn, String.toList_append, List.isPrefixOf_iff_prefix]
  exact List.prefix_append _ _

theorem mem_allPaths_of_mem {holds : String → Bool} {pieces : List Code} {piece : Code}
    {text : String} (member : piece ∈ pieces) (inPath : text ∈ piece.path holds) :
    text ∈ allPaths holds pieces := by
  rw [allPaths_eq_flatMap]
  exact List.mem_flatMap.mpr ⟨piece, member, inPath⟩

end Code

/-- A statement that returns is one line, which is on every path. -/
theorem Statement.exists_return {statement : Statement} (returns : statement.returns = true)
    (holds : String → Bool) :
    ∃ text ∈ statement.code.path holds, Code.isReturn text = true := by
  cases statement with
  | returnWrapped wrapped =>
      refine ⟨_, List.mem_singleton_self _, ?_⟩
      simp only [String.append_assoc]
      exact Code.isReturn_append _
  | returnUndefined | returnNumber | returnBoolean | returnOwnedString | returnCString =>
      exact ⟨_, List.mem_singleton_self _, by decide⟩
  | _ => cases returns

namespace SymbolTree

variable {tree : SymbolTree} {owner : NodeId}

/-- Every path through the body of a method meets a return. -/
theorem BoundTo.exists_return {name : String} {number : Nat} {function : NodeId}
    {overload : Overload} (bound : tree.BoundTo owner ⟨.method, name, number⟩ function overload)
    (names : ClassNames) (alone : Bool) (holds : String → Bool) :
    ∃ text ∈ Code.allPaths holds (names.bodyCode .method alone overload),
      Code.isReturn text = true := by
  obtain ⟨declared, native, back, _, _, given, result⟩ := result_of_lower bound.lowered
  obtain ⟨last, returns, shape⟩ := exists_returns_of_giveBack given
  obtain ⟨text, inPath, isReturn⟩ := last.exists_return returns holds
  obtain ⟨gap, _, pieces⟩ := BodyParts.written_method result names alone
  have inBack : last ∈ back := by
    rcases shape with rfl | rfl <;> simp
  refine ⟨text, ?_, isReturn⟩
  apply Code.mem_allPaths_of_mem _ inPath
  rw [pieces]
  apply List.mem_append_right
  apply List.mem_append_right
  apply List.mem_map_of_mem
  exact List.mem_cons_of_mem _ (List.mem_append_right _ inBack)

end SymbolTree

namespace ClassNames

variable {names : ClassNames} {role : Role} {overloads : OverloadSet}

/-! ## The layout of the choice -/

/-- The block of one among several overloads. -/
def blockOf (names : ClassNames) (role : Role) (overload : Overload) : Code :=
  OverloadSet.countBlock overload (names.bodyCode role false overload)

theorem dispatch_of_size_ne_one (several : overloads.size ≠ 1) :
    names.dispatch role overloads =
      names.beforeBlocks role ++ (overloads.values.map (names.blockOf role) ++
        afterBlocks role) := by
  have length : overloads.size = overloads.values.length := (List.length_map _).symm
  unfold dispatch
  split
  · rename_i overload values
    rw [length, values] at several
    exact absurd rfl several
  · rfl

/-- A piece that is no block for a number of arguments. -/
def NotFor (number : Nat) (piece : Code) : Prop :=
  ∀ footer body, piece ≠ .block (countHeader number) footer body

theorem notFor_blockOf {number : Nat} {overload : Overload}
    (different : overload.arity ≠ number) : NotFor number (names.blockOf role overload) := by
  intro footer body same
  apply different
  apply countHeader_injective
  rw [← countHeader_eq overload.arity]
  exact (Code.block.inj same).1

variable (names) in
theorem notFor_around {piece : Code} (member : piece ∈ names.beforeBlocks role ∨
    piece ∈ afterBlocks role) (number : Nat) : NotFor number piece := by
  rintro footer body rfl
  cases role <;> simp [beforeBlocks, afterBlocks, Code.blank, Statement.code] at member

/-- One block is for a number of arguments, and it holds the body of its
overload. -/
theorem exists_block (arranged : overloads.Arranged) (several : overloads.size ≠ 1)
    {number : Nat} {overload : Overload} (entry : (number, overload) ∈ overloads.entries) :
    ∃ before after,
      names.dispatch role overloads =
        before ++ .block (countHeader number) "\x7d" (names.bodyCode role false overload) ::
          after ∧
      ∀ piece ∈ before ++ after, NotFor number piece := by
  have arity : overload.arity = number := arranged.arity number overload entry
  have inValues : overload ∈ overloads.values := List.mem_map.mpr ⟨_, entry, rfl⟩
  have distinct := arranged.nodup_arities
  obtain ⟨first, last, split⟩ := List.append_of_mem inValues
  rw [split, List.map_append, List.map_cons, List.nodup_middle, List.nodup_cons, arity,
    ← List.map_append] at distinct
  have block : names.blockOf role overload =
      .block (countHeader number) "\x7d" (names.bodyCode role false overload) := by
    rw [← arity, ← countHeader_eq]
    rfl
  have others : ∀ other ∈ first ++ last, NotFor number (names.blockOf role other) := by
    intro other inOthers
    apply notFor_blockOf
    intro same
    exact distinct.1 (List.mem_map.mpr ⟨other, inOthers, same⟩)
  refine ⟨names.beforeBlocks role ++ first.map (names.blockOf role),
    last.map (names.blockOf role) ++ afterBlocks role, ?_, ?_⟩
  · rw [dispatch_of_size_ne_one several, split, List.map_append, List.map_cons, block]
    simp only [List.append_assoc, List.cons_append]
  · intro piece member
    simp only [List.mem_append, List.mem_map] at member
    rcases member with (before | ⟨other, inFirst, rfl⟩) | ⟨other, inLast, rfl⟩ | after
    · exact notFor_around names (Or.inl before) number
    · exact others other (List.mem_append_left _ inFirst)
    · exact others other (List.mem_append_right _ inLast)
    · exact notFor_around names (Or.inr after) number

end ClassNames

/-! ## Runs of an entry point -/

/-- An entry point runs one body, and every path returns. -/
structure RunsOneBody (names : ClassNames) (role : Role) (overloads : OverloadSet) : Prop where
  /-- The body of a single overload stands by itself. -/
  alone : overloads.size = 1 → ∀ number overload, (number, overload) ∈ overloads.entries →
    names.dispatch role overloads = names.bodyCode role true overload
  /-- Of several overloads each has one block, for its number of arguments. -/
  several : overloads.size ≠ 1 → ∀ number overload, (number, overload) ∈ overloads.entries →
    ∃ before after,
      names.dispatch role overloads =
        before ++ .block (countHeader number) "\x7d" (names.bodyCode role false overload) ::
          after ∧
      ∀ piece ∈ before ++ after, ClassNames.NotFor number piece
  /-- When the number of arguments is known, the body for it is all that is run of
  the choice among overloads. -/
  runs : ∀ number overload, (number, overload) ∈ overloads.entries →
    ∀ holds, KnowsCount holds number →
      Code.run holds (names.afterGuards role overloads) =
        Code.run holds (names.opening role ++ (names.lead role overloads ++
          (names.bodyCode role (overloads.size = 1) overload ++ ClassNames.closing role)))
  returns : ∀ holds, Code.Returns holds (names.afterGuards role overloads)
  /-- The body of a method returns by itself. -/
  bodies : role = .method → ∀ number overload, (number, overload) ∈ overloads.entries →
    ∀ holds, Code.Returns holds (names.bodyCode role (overloads.size = 1) overload)

namespace SymbolTree

variable {tree : SymbolTree} {owner : NodeId} {names : ClassNames} {role : Role} {name : String}
  {overloads : OverloadSet}

theorem run_afterGuards (arranged : overloads.Arranged)
    (bound : tree.AllBound owner role name overloads) {number : Nat} {overload : Overload}
    (entry : (number, overload) ∈ overloads.entries) {holds : String → Bool}
    (knows : KnowsCount holds number) :
    Code.run holds (names.afterGuards role overloads) =
      Code.run holds (names.opening role ++ (names.lead role overloads ++
        (names.bodyCode role (overloads.size = 1) overload ++ ClassNames.closing role))) := by
  rw [Code.run, Code.run, ClassNames.afterGuards, Code.allPaths_append, Code.allPaths_append,
    ClassNames.allPaths_dispatch arranged entry knows]
  simp only [Code.allPaths_append, ← List.append_assoc]
  cases role with
  | constructor =>
      rw [ClassNames.trail_constructor, Code.allPaths, List.append_nil]
  | method =>
      -- The body returns, so what is left of the choice is not reached.
      obtain ⟨function, boundTo⟩ := bound number overload entry
      obtain ⟨text, inBody, isReturn⟩ :=
        boundTo.exists_return names (overloads.size = 1) holds
      have closing : ClassNames.closing .method = [] := rfl
      rw [closing, Code.allPaths, List.append_nil, List.append_nil]
      exact Code.upToReturn_append ⟨text, List.mem_append_right _ inBody, isReturn⟩ _

/-- Whatever path is taken, the choice among overloads or the end of a
constructor returns. -/
theorem returns_afterGuards (bound : tree.AllBound owner role name overloads)
    (holds : String → Bool) : Code.Returns holds (names.afterGuards role overloads) := by
  cases role with
  | constructor =>
      have atEnd : "return " ++ wrapRoutine ++ "(native_ptr);" ∈
          Code.allPaths holds (names.afterGuards .constructor overloads) := by
        rw [ClassNames.afterGuards, Code.allPaths_append, Code.allPaths_append]
        apply List.mem_append_right
        apply List.mem_append_right
        exact List.mem_cons_of_mem _ List.mem_cons_self
      exact Code.returns_of_mem atEnd (by decide)
  | method =>
      have inDispatch : ∃ text ∈ Code.allPaths holds (names.dispatch .method overloads),
          Code.isReturn text = true := by
        by_cases single : overloads.size = 1
        · obtain ⟨⟨number, overload⟩, entries⟩ := List.length_eq_one_iff.mp single
          have entry : (number, overload) ∈ overloads.entries := entries ▸ List.mem_cons_self
          obtain ⟨function, boundTo⟩ := bound number overload entry
          have held : names.Holds .method overloads overload _ := ClassNames.holds_of_mem entry
          rw [ClassNames.Holds, if_pos single] at held
          rw [held]
          exact boundTo.exists_return names _ holds
        · have afterBlocks : "return jerry_create_undefined();" ∈
              Code.allPaths holds (ClassNames.afterBlocks .method) :=
            List.mem_cons_of_mem _ List.mem_cons_self
          refine ⟨"return jerry_create_undefined();", ?_, by decide⟩
          rw [ClassNames.dispatch_of_size_ne_one single, Code.allPaths_append,
            Code.allPaths_append]
          exact List.mem_append_right _ (List.mem_append_right _ afterBlocks)
      obtain ⟨text, inPath, isReturn⟩ := inDispatch
      refine Code.returns_of_mem ?_ isReturn
      rw [ClassNames.afterGuards, Code.allPaths_append, Code.allPaths_append]
      exact List.mem_append_right _ (List.mem_append_left _ inPath)

theorem runsOneBody (arranged : overloads.Arranged)
    (bound : tree.AllBound owner role name overloads) : RunsOneBody names role overloads where
  alone := by
    intro single number overload entry
    have held : names.Holds role overloads overload _ := ClassNames.holds_of_mem entry
    simpa only [ClassNames.Holds, single, if_true, decide_true] using held
  several := fun several _ _ entry => ClassNames.exists_block arranged several entry
  runs := fun _ _ entry _ knows => run_afterGuards arranged bound entry knows
  returns := returns_afterGuards bound
  bodies := by
    rintro rfl number overload entry holds
    obtain ⟨function, boundTo⟩ := bound number overload entry
    obtain ⟨text, inBody, isReturn⟩ := boundTo.exists_return names (overloads.size = 1) holds
    exact Code.returns_of_mem inBody isReturn

end SymbolTree

end Bindery
