import Bindery.Proofs.BodyParts
import Bindery.Proofs.CodeRuns
import Bindery.Proofs.NativeType
import Bindery.Proofs.Numeral
import Bindery.Proofs.ReadRecords
import Bindery.Proofs.TreeShape
import Bindery.SymbolTree.Resolution

/-!
# Names on one line

The names in a tree may be any text.  If none of them holds a line feed, as it is
with the tree of a dump, then no spelling made of them does, and neither does a
line of code.
-/

namespace Bindery

/-! ## Texts without line feeds -/

/-- A text without a line feed. -/
def Unbroken (text : String) : Prop :=
  '\n' ∉ text.toList

instance : DecidablePred Unbroken :=
  fun text => inferInstanceAs (Decidable ('\n' ∉ text.toList))

@[simp]
theorem unbroken_append {first second : String} :
    Unbroken (first ++ second) ↔ Unbroken first ∧ Unbroken second := by
  simp only [Unbroken, String.toList_append, List.mem_append, not_or]

/-- What a literal holds is read off its characters, without decoding it. -/
theorem unbroken_literal {chars : List Char} (plain : (chars.all fun c => c != '\n') = true) :
    Unbroken (String.ofList chars) := by
  rw [Unbroken, String.toList_ofList]
  intro member
  have differs := List.all_eq_true.mp plain '\n' member
  cases differs

theorem unbroken_intercalate {separator : String} {items : List String}
    (between : Unbroken separator) (each : ∀ item ∈ items, Unbroken item) :
    Unbroken (separator.intercalate items) := by
  induction items with
  | nil => exact List.not_mem_nil
  | cons first rest ih =>
      obtain ⟨firstUnbroken, restUnbroken⟩ := List.forall_mem_cons.mp each
      cases rest with
      | nil => rwa [String.intercalate_singleton]
      | cons second others =>
          rw [String.intercalate_cons_cons, unbroken_append, unbroken_append]
          exact ⟨⟨firstUnbroken, between⟩, ih restUnbroken⟩

theorem unbroken_toString (number : Nat) : Unbroken (toString number) :=
  Text.feed_not_mem_toString number

@[simp]
theorem unbroken_argumentName (index : Nat) : Unbroken (argumentName index) :=
  unbroken_append.mpr ⟨by decide, unbroken_toString index⟩

@[simp]
theorem unbroken_scriptValue (index : Nat) : Unbroken (scriptValue index) :=
  unbroken_append.mpr ⟨unbroken_append.mpr ⟨by decide, unbroken_toString index⟩, by decide⟩

@[simp]
theorem unbroken_countTest (count : Nat) : Unbroken (countTest count) :=
  unbroken_append.mpr ⟨by decide, unbroken_toString count⟩

@[simp]
theorem unbroken_argumentList (count : Nat) : Unbroken (argumentList count) := by
  apply unbroken_intercalate (by decide)
  intro item member
  obtain ⟨index, _, rfl⟩ := List.mem_map.mp member
  exact unbroken_argumentName index

/-! ## Spellings -/

namespace SymbolTree

/-- No name in a tree holds a line feed. -/
def NamesUnbroken (tree : SymbolTree) : Prop :=
  ∀ node ∈ tree.nodes, ∀ name ∈ node.name, Unbroken name

instance : DecidablePred NamesUnbroken :=
  fun tree => inferInstanceAs (Decidable (∀ node ∈ tree.nodes, ∀ name ∈ node.name, Unbroken name))

namespace NamesUnbroken

variable {tree : SymbolTree}

theorem name (unbroken : tree.NamesUnbroken) {id : NodeId} {name : String}
    (named : (tree.node id).name = some name) : Unbroken name := by
  by_cases inside : id < tree.nodes.size
  · apply unbroken (tree.node id) _ name named
    rw [node, Array.getD, dif_pos inside]
    exact Array.getElem_mem inside
  · rw [node, Array.getD, dif_neg inside] at named
    cases named

theorem declaredName (unbroken : tree.NamesUnbroken) (function : NodeId) :
    Unbroken (tree.declaredName function) := by
  unfold SymbolTree.declaredName
  cases named : (tree.node function).name with
  | none => decide
  | some name => exact unbroken.name named

theorem qualifiedName (unbroken : tree.NamesUnbroken) {id : NodeId} {qualified : String}
    (qualifies : tree.qualifiedName? id = some qualified) : Unbroken qualified := by
  obtain ⟨name, named, rfl⟩ := Option.map_eq_some_iff.mp qualifies
  apply unbroken_intercalate (by decide)
  intro scope member
  rw [List.mem_append, List.mem_reverse, List.mem_singleton] at member
  rcases member with inScopes | rfl
  · obtain ⟨ancestor, _, lent⟩ := List.mem_filterMap.mp inScopes
    simp only [scopeName?] at lent
    split at lent
    · exact unbroken.name lent
    · cases lent
  · exact unbroken.name named

theorem spells (unbroken : tree.NamesUnbroken) {id : NodeId} {spelling : String}
    (spelled : tree.Spells id spelling) : Unbroken spelling := by
  induction spelled with
  | pointer _ _ _ ih | reference _ _ _ ih => exact unbroken_append.mpr ⟨ih, by decide⟩
  | const _ _ _ ih => exact unbroken_append.mpr ⟨by decide, ih⟩
  | untypedPointer | untypedConst | libraryString => decide
  | base _ named => exact unbroken.name named
  | named _ _ qualifies => exact unbroken.qualifiedName qualifies

theorem spelling (unbroken : tree.NamesUnbroken) {id : NodeId} {spelling : String}
    (found : tree.spelling id = .ok spelling) : Unbroken spelling :=
  unbroken.spells (spells_of_spellingIn found)

theorem denotes (unbroken : tree.NamesUnbroken) {id : NodeId} {walk : Walk} {native : NativeType}
    (denotes : tree.Denotes id walk native) : Unbroken native.spelling := by
  induction denotes with
  | boolean => decide
  | numeric _ named => exact unbroken.name named
  | const _ _ _ ih => exact ih
  | stringTypedef _ _ _ spelled | integerTypedef _ _ _ _ _ spelled | record _ spelled
  | enumeration _ spelled => exact unbroken.spells spelled
  | typedef _ _ _ _ spelled _ ih =>
      dsimp only
      split
      · exact unbroken.spells spelled
      · exact ih
  | text => dsimp only; split <;> decide
  | handle _ _ _ _ spelled => exact unbroken_append.mpr ⟨unbroken.spells spelled, by decide⟩
  | reference _ _ _ _ spelled =>
      split
      · exact unbroken.spells spelled
      · exact unbroken_append.mpr ⟨unbroken.spells spelled, by decide⟩

/-- The spelling of every native type is made of names. -/
theorem nativeType (unbroken : tree.NamesUnbroken) {link : Link} {native : NativeType}
    (typed : tree.nativeType link = .ok native) : Unbroken native.spelling := by
  obtain ⟨walk, denotes⟩ := linkDenotes_of_nativeType typed
  cases denotes with
  | absent => decide
  | target denotes => exact unbroken.denotes denotes

theorem native (unbroken : tree.NamesUnbroken) (owner : NodeId) (scriptName : String) :
    Unbroken (tree.classNames owner scriptName).native := by
  unfold classNames
  cases qualifies : tree.qualifiedName? owner with
  | some qualified => exact unbroken.qualifiedName qualifies
  | none =>
      cases named : (tree.node owner).name with
      | some name => exact unbroken.name named
      | none => exact List.not_mem_nil

end NamesUnbroken

end SymbolTree

/-! ## Names in a dump -/

theorem Record.unbroken_plainName {text : String} (unbroken : Unbroken text) :
    Unbroken (Record.plainName text) := by
  unfold Record.plainName
  split
  · rename_i name found
    simp only [Record.annotated?, Option.bind_eq_bind, Option.bind_eq_some_iff, Prod.exists] at found
    obtain ⟨_, opened, _, _, noted, rest, closed, found⟩ := found
    have suffix : rest <:+ text.toList :=
      (Text.suffix_of_after? closed).trans
        ((Text.suffix_of_run? noted).trans (Text.suffix_of_after? opened))
    have inText : Text.trim rest ⊆ text.toList := fun c member =>
      suffix.subset ((Text.trimStart_suffix _).subset ((Text.trimEnd_prefix _).subset member))
    split at found
    · cases found
    · cases found
      rw [Unbroken, String.toList_ofList]
      exact fun member => unbroken (inText member)
  · exact unbroken

namespace SymbolTree

/-- The names in a tree are those of the records. -/
theorem namesUnbroken_ofRecords {records : List Record}
    (each : ∀ record ∈ records, ∀ name ∈ record.name, Unbroken name) :
    (ofRecords records).1.NamesUnbroken := by
  intro node member name named
  obtain ⟨id, inside, rfl⟩ := Array.mem_iff_getElem.mp member
  have atId : (ofRecords records).1.node id = (ofRecords records).1.nodes[id] := by
    rw [SymbolTree.node, Array.getD, dif_pos inside]
    rfl
  rw [← atId] at named
  rcases Nat.eq_zero_or_pos id with rfl | positive
  · have root : ((ofRecords records).1.node 0).name = none :=
      congrArg Node.name (wellFormed_ofRecords records).root
    rw [root] at named
    cases named
  · obtain ⟨record, inRecords, parent, same⟩ :=
      exists_record_ofRecords records ((mem_ids_iff _ id).mpr ⟨positive, inside⟩)
    rw [Node.eq_of_withoutChildren same Node.name fun _ => rfl] at named
    exact each record inRecords name named

theorem NamesUnbroken.resolve {tree : SymbolTree} (unbroken : tree.NamesUnbroken) :
    tree.resolve.tree.NamesUnbroken := by
  intro node member name named
  obtain ⟨before, inNodes, rfl⟩ := Array.mem_map.mp member
  apply unbroken before inNodes
  split at named <;> exact named

/-- No name in the tree of a dump holds a line feed. -/
theorem namesUnbroken_ofDump {dump : String} {tree : SymbolTree} {findings : Diagnostics}
    (parsed : ofDump dump = (.ok tree, findings)) : tree.NamesUnbroken := by
  have each : ∀ record ∈ (Record.ofDump dump).1, ∀ name ∈ record.name, Unbroken name := by
    intro record member name named
    have regular := Record.regular_of_mem_ofDump member
    rw [regular.name] at named
    obtain ⟨full, isFull, rfl⟩ := Option.map_eq_some_iff.mp named
    exact Record.unbroken_plainName (regular.fullName full isFull).noFeed
  unfold ofDump at parsed
  split at parsed
  · cases parsed
  · rename_i records _ _ read
    cases parsed
    rw [read] at each
    exact (namesUnbroken_ofRecords each).resolve

end SymbolTree

/-! ## Statements -/

namespace Statement

/-- The types, records and calls in a statement. -/
def words : Statement → List String
  | .bindNumber _ type | .bindOwnedString _ type | .bindCString _ type | .bindPointer _ type =>
      [type]
  | .bindReference _ record | .declareNew record _ | .assignNew record _ => [record]
  | .call expression => [expression]
  | .callFor type expression => [type, expression]
  | .returnWrapped (.withoutConst record) | .returnWrapped (.copy record) => [record]
  | _ => []

theorem unbroken_of_mem_texts {statement : Statement}
    (unbroken : ∀ word ∈ statement.words, Unbroken word) {text : String}
    (member : text ∈ statement.code.texts) : Unbroken text := by
  cases statement with
  | returnNullIfNull =>
      rcases member with _ | ⟨_, _ | ⟨_, _ | ⟨_, ⟨⟩⟩⟩⟩ <;> exact unbroken_literal rfl
  | returnUndefined | returnNumber | returnBoolean | returnCString =>
      rw [List.mem_singleton.mp member]
      exact unbroken_literal rfl
  | returnWrapped wrapped =>
      rw [List.mem_singleton.mp member]
      cases wrapped with
      | result =>
          simp only [Wrapped.expression, wrapRoutine, unbroken_append]
          and_intros <;> exact unbroken_literal rfl
      | withoutConst record | copy record =>
          have spelled := unbroken record List.mem_cons_self
          simp only [Wrapped.expression, wrapRoutine, unbroken_append, spelled, and_true]
          and_intros <;> exact unbroken_literal rfl
  | bindNumber index type | bindOwnedString index type | bindCString index type
  | bindPointer index type | bindReference index type =>
      have spelled := unbroken type List.mem_cons_self
      rw [List.mem_singleton.mp member]
      simp only [unbroken_append, unbroken_argumentName, unbroken_scriptValue, spelled, and_true,
        true_and]
      and_intros <;> exact unbroken_literal rfl
  | declareNew record arguments | assignNew record arguments =>
      have spelled := unbroken record List.mem_cons_self
      rw [List.mem_singleton.mp member]
      simp only [unbroken_append, unbroken_argumentList, spelled, and_true, true_and]
      and_intros <;> exact unbroken_literal rfl
  | call expression =>
      rw [List.mem_singleton.mp member]
      exact unbroken_append.mpr ⟨unbroken expression List.mem_cons_self, unbroken_literal rfl⟩
  | callFor type expression =>
      have spelled := unbroken type List.mem_cons_self
      have called := unbroken expression (List.mem_cons_of_mem _ List.mem_cons_self)
      rw [List.mem_singleton.mp member]
      simp only [unbroken_append, spelled, called, and_true, true_and]
      and_intros <;> exact unbroken_literal rfl
  | _ =>
      rw [List.mem_singleton.mp member]
      simp only [unbroken_append, unbroken_argumentName, unbroken_scriptValue, and_true, true_and]
      and_intros <;> exact unbroken_literal rfl

end Statement

namespace SymbolTree

variable {tree : SymbolTree}

theorem NamesUnbroken.argumentPlan (unbroken : tree.NamesUnbroken) {native : NativeType}
    (spelled : Unbroken native.spelling) {index : Nat} {plan : ArgumentPlan}
    (planned : tree.argumentPlan native index = .ok plan) :
    ∀ statement ∈ plan.conversion ++ plan.cleanup, ∀ word ∈ statement.words, Unbroken word := by
  unfold SymbolTree.argumentPlan at planned
  cases category : native.category with
  | void => simp [category] at planned
  | numeric | boolean | ownedString | cString | enumeration node | handle node =>
      simp only [category, Except.ok.injEq] at planned
      subst planned
      simp [bufferString, readPointer, Statement.words, spelled]
  | byReference node | object node =>
      simp only [category, bind_eq_ok_iff] at planned
      obtain ⟨record, found, planned⟩ := planned
      cases planned
      simp [readPointer, Statement.words, unbroken.spelling found]

theorem NamesUnbroken.planned (unbroken : tree.NamesUnbroken) {start : Nat}
    {parameters : List NodeId} {plans : List ArgumentPlan}
    (planned : tree.Planned start parameters plans) {statement : Statement}
    (member : statement ∈ plans.flatMap fun plan => plan.conversion ++ plan.cleanup) :
    ∀ word ∈ statement.words, Unbroken word := by
  induction planned with
  | nil => cases member
  | cons typed planned _ ih =>
      rw [List.flatMap_cons, List.mem_append] at member
      rcases member with first | later
      · exact unbroken.argumentPlan (unbroken.nativeType typed) planned statement first
      · exact ih later

theorem NamesUnbroken.giveBack (unbroken : tree.NamesUnbroken) {owner : NodeId}
    {native : NativeType} {back : List Statement} (given : tree.giveBack owner native = .ok back) :
    ∀ statement ∈ back, ∀ word ∈ statement.words, Unbroken word := by
  cases category : native.category with
  | void | numeric | boolean | ownedString | cString | enumeration node =>
      simp only [SymbolTree.giveBack, category, Except.ok.injEq] at given
      subst given
      simp [Statement.words]
  | byReference node => simp [SymbolTree.giveBack, category] at given
  | handle node =>
      obtain ⟨_, record, found, rfl⟩ := exists_of_giveBack_handle category given
      unfold wrappedPointer
      split <;> simp [Statement.words, unbroken.spelling found]
  | object node =>
      obtain ⟨_, record, found, rfl⟩ := exists_of_giveBack_object category given
      simp [Statement.words, unbroken.spelling found]

theorem unbroken_callOf {native : NativeType} {name : String} (spelled : Unbroken native.spelling)
    (named : Unbroken name) (arity : Nat) :
    ∀ word ∈ (callOf native (methodCall name arity)).words, Unbroken word := by
  have call : Unbroken (methodCall name arity) := by
    unfold methodCall
    simp only [unbroken_append, unbroken_argumentList, named, and_true]
    and_intros <;> exact unbroken_literal rfl
  unfold callOf
  split <;> simp [Statement.words, spelled, call]

/-- The statements of a bound member are made of names. -/
theorem BoundTo.unbroken {owner : NodeId} {slot : Slot} {function : NodeId} {overload : Overload}
    (bound : tree.BoundTo owner slot function overload) (unbroken : tree.NamesUnbroken)
    {names : ClassNames} (native : Unbroken names.native) (alone : Bool) {statement : Statement}
    (member : statement ∈ names.statements slot.role alone overload) :
    ∀ word ∈ statement.words, Unbroken word := by
  rcases bound.cases_of_mem_statements member with inPlans | rfl |
    ⟨_, declared, type, back, named, typed, given, _, rfl | inBack⟩
  · exact unbroken.planned (planned_of_lower bound.lowered) inPlans
  · unfold BodyParts.making
    split <;> simpa [Statement.words] using native
  · exact unbroken_callOf (unbroken.nativeType typed) (unbroken.name named) _
  · exact unbroken.giveBack given statement inBack

end SymbolTree

end Bindery
