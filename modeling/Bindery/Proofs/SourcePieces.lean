import Bindery.Package
import Bindery.Proofs.ArgumentDispatch
import Bindery.Proofs.ExportedEnumerations
import Bindery.Proofs.JsonText
import Bindery.Proofs.LineForms
import Bindery.Proofs.WrapCalls

/-!
# The source as pieces

The source of a package is put together from texts whose last line end is taken
off.  Seen as a whole it is one list of pieces, and each line of it is read as
one line, unless the name of the library holds a line feed.
-/

namespace Bindery

/-! ## Texts put together -/

namespace Code

theorem allLinesAt_map_line (lines : List String) : allLinesAt 0 (lines.map .line) = lines := by
  have single : ∀ line, (Code.line line).linesAt 0 = [line] := fun line =>
    congrArg ([·]) (lineAt_zero line)
  rw [allLinesAt_map single, List.map_id']

/-- A text lacks only the last line end of some pieces. -/
def EndsWith (text : String) (pieces : List Code) : Prop :=
  text ++ "\n" = render pieces

/-- Where a block comes last, trimming takes off the last line end only. -/
theorem endsWith_trimmedEnd (lead : List Code) (header : String) (body : List Code) :
    EndsWith (Text.trimmedEnd (render (lead ++ [.block header "\x7d" body])))
      (lead ++ [.block header "\x7d" body]) := by
  have closed : allLinesAt 0 (lead ++ [.block header "\x7d" body]) =
      (allLinesAt 0 lead ++ header :: allLinesAt 1 body) ++ ["\x7d"] := by
    rw [allLinesAt_append, allLinesAt, linesAt, lineAt_zero, lineAt_zero]
    simp only [allLinesAt, List.append_nil, List.append_assoc, List.cons_append]
  rw [EndsWith, render, closed, trimmedEnd_closed, joined_append _ ["\x7d"], String.append_assoc]
  rfl

/-- Texts with a blank line after each of them. -/
theorem join_blank_lines {texts : List String} {blocks : List (List Code)}
    (ends : List.Forall₂ EndsWith texts blocks) :
    String.join (texts.map (· ++ "\n\n")) = render (blocks.flatMap (· ++ [.blank])) := by
  have feeds : "\n\n" = "\n" ++ "\n" := rfl
  have blank : render [.blank] = "\n" := rfl
  induction ends with
  | nil => rfl
  | cons here _ ih =>
      rw [List.map_cons, String.join_cons, ih, List.flatMap_cons, render_append, render_append,
        blank, ← here, feeds]
      simp only [String.append_assoc]

end Code

theorem intercalate_append_separator (separator : String) {texts : List String}
    (nonempty : texts ≠ []) :
    separator.intercalate texts ++ separator = String.join (texts.map (· ++ separator)) := by
  induction texts with
  | nil => exact absurd rfl nonempty
  | cons first rest ih =>
      cases rest with
      | nil => simp
      | cons second others =>
          rw [String.intercalate_cons_cons, String.append_assoc, ih (List.cons_ne_nil _ _),
            ← String.join_cons]
          rfl

/-! ## The pieces of a class -/

namespace ClassNames

/-- The pieces of the constructor. -/
def constructorPieces (names : ClassNames) (overloads : OverloadSet) : List Code :=
  if overloads.isEmpty then names.missingPieces
  else names.entryPieces .constructor constructorName overloads

theorem endsWith_methodText (names : ClassNames) (name : String) (overloads : OverloadSet) :
    Code.EndsWith (overloads.methodText names name)
      (names.entryPieces .method name overloads) := by
  have text : overloads.methodText names name = names.entryText .method name overloads := rfl
  have method : Role.method = .constructor → overloads.isEmpty = false := fun same => by cases same
  rw [text, entryText_eq name method]
  exact Code.endsWith_trimmedEnd _ _ _

theorem endsWith_supportText (names : ClassNames) (methods : List String) :
    Code.EndsWith (names.supportText methods) (names.supportPieces methods) := by
  obtain ⟨lead, header, body, layout⟩ : ∃ lead header body,
      names.supportPieces methods = lead ++ [.block header "\x7d" body] := by
    rw [supportPieces, wrapCode, ← List.append_assoc]
    exact ⟨_, _, _, rfl⟩
  have text : names.supportText methods =
    Text.trimmedEnd (Code.render (names.supportPieces methods)) := rfl
  rw [text, layout]
  exact Code.endsWith_trimmedEnd _ _ _

theorem endsWith_constructorText (names : ClassNames) (overloads : OverloadSet) :
    Code.EndsWith (names.entryText .constructor constructorName overloads)
      (names.constructorPieces overloads) := by
  unfold constructorPieces
  split
  · rename_i empty
    rw [entryText, if_pos empty]
    exact Code.endsWith_trimmedEnd _ _ _
  · rename_i filled
    rw [entryText_eq _ fun _ => Bool.eq_false_iff.mpr filled]
    exact Code.endsWith_trimmedEnd _ _ _

end ClassNames

namespace SymbolTree

variable (tree : SymbolTree) (owner : NodeId) (scriptName : String)

/-- The methods of a class, what they share and the constructor, each as
pieces. -/
def sourceBlocks : List (List Code) :=
  let names := tree.classNames owner scriptName
  let draft := tree.draft owner scriptName
  draft.keptMethods.map (fun group =>
      names.entryPieces .method group.1 (OverloadSet.sorted group.2)) ++
    [names.supportPieces (draft.keptMethods.map Prod.fst),
      names.constructorPieces (OverloadSet.sorted draft.constructors)]

/-- With a blank line after it, the source of a class is made of its parts, each
with a blank line after it. -/
theorem source_bindings :
    (tree.bindings owner scriptName).1.source ++ "\n\n" =
      Code.render ((tree.sourceBlocks owner scriptName).flatMap (· ++ [.blank])) := by
  have source : (tree.bindings owner scriptName).1.source = "\n\n".intercalate
      (((tree.draft owner scriptName).keptMethods.map
          (tree.classNames owner scriptName).methodBinding).map FunctionBinding.text ++
        [(tree.classNames owner scriptName).supportText
            ((tree.draft owner scriptName).keptMethods.map Prod.fst),
          (tree.classNames owner scriptName).entryText .constructor constructorName
            (OverloadSet.sorted (tree.draft owner scriptName).constructors)]) := rfl
  rw [source, intercalate_append_separator _ (by simp)]
  apply Code.join_blank_lines
  apply List.rel_append
  · rw [List.map_map, List.forall₂_map_left_iff, List.forall₂_map_right_iff, List.forall₂_same]
    exact fun group _ => ClassNames.endsWith_methodText _ _ _
  · exact .cons (ClassNames.endsWith_supportText _ _)
      (.cons (ClassNames.endsWith_constructorText _ _) .nil)

end SymbolTree

/-! ## The pieces of the setup routine -/

namespace EnumRegistry

/-- The pieces of the setup routine. -/
def setupPieces (registry : EnumRegistry) (scriptName : String) : List Code :=
  [.block ("void " ++ setupName scriptName ++ " \x7b") "\x7d"
    ((registry.values.map bindingCode).intersperse .blank)]

theorem setupText_eq (registry : EnumRegistry) (scriptName : String) :
    registry.setupText scriptName = Code.render (registry.setupPieces scriptName) :=
  rfl

end EnumRegistry

/-! ## The whole source -/

namespace PackageNames

/-- The lines above the bindings. -/
def sourceTop (names : PackageNames) : List String :=
  [banner, "", includeLine "jerryscript-mbed-util/logging.h", includeLine wrapToolsHeader,
    includeLine names.classInclude, ""]

/-- The pieces of the source. -/
def sourcePieces (names : PackageNames) (blocks : List (List Code)) (registry : EnumRegistry) :
    List Code :=
  names.sourceTop.map .line ++
    (blocks.flatMap (· ++ [.blank]) ++ registry.setupPieces names.scriptClass)

theorem sourceText_eq (names : PackageNames) (tree : SymbolTree) (owner : NodeId)
    (scriptName : String) :
    names.sourceText (tree.bindings owner scriptName).1 =
      Code.render (names.sourcePieces (tree.sourceBlocks owner scriptName)
        (tree.bindings owner scriptName).1.enums) := by
  have top : Code.render (names.sourceTop.map .line) = Code.joined names.sourceTop := by
    rw [Code.render, Code.allLinesAt_map_line]
  have bindings : Code.joined [(tree.bindings owner scriptName).1.source, ""] =
      (tree.bindings owner scriptName).1.source ++ "\n\n" := by
    rw [Code.joined_cons, String.append_assoc]
    rfl
  have whole : names.sourceText (tree.bindings owner scriptName).1 =
      Code.joined (names.sourceTop ++ [(tree.bindings owner scriptName).1.source, ""]) ++
        EnumRegistry.setupText (tree.bindings owner scriptName).1.enums names.scriptClass := rfl
  rw [whole, sourcePieces, Code.render_append, Code.render_append, top,
    ← SymbolTree.source_bindings, ← EnumRegistry.setupText_eq, Code.joined_append, bindings,
    String.append_assoc]

end PackageNames

/-! ## Lines without breaks -/

namespace ClassNames

variable {names : ClassNames} {text : String}

theorem oneLine_of_mem_supportTop (script : Unbroken names.script) (native : Unbroken names.native)
    (member : text ∈ names.supportTop) : Text.OneLine text := by
  have wrap : Text.OneLine ("jerry_value_t " ++ wrapRoutine ++ "(" ++ names.native ++
      "* ptr) \x7b") := by
    unfold wrapRoutine
    refine .closed (unbroken_append.mpr ⟨?_, native⟩) rfl
    simp only [unbroken_append]
    and_intros <;> exact unbroken_literal rfl
  have shared : ∀ line ∈ names.supportTop, Text.OneLine line := by
    simp only [supportTop, List.forall_mem_cons]
    exact ⟨.literal rfl, .around script rfl rfl, .literal rfl, .around script rfl rfl, .literal rfl,
      .around script rfl rfl, .around native rfl rfl, .literal rfl, .blank, .literal rfl,
      .around script rfl rfl, .literal rfl, wrap, .literal rfl, .blank, .literal rfl,
      .around script rfl rfl, List.forall_mem_nil _⟩
  exact shared text member

theorem oneLine_of_mem_support (script : Unbroken names.script) (native : Unbroken names.native)
    {methods : List String} (each : ∀ method ∈ methods, Unbroken method)
    (member : text ∈ Code.allTexts (names.supportPieces methods)) : Text.OneLine text := by
  rw [allTexts_supportPieces, List.mem_append, List.mem_append] at member
  rcases member with inTop | attached | atEnd
  · exact oneLine_of_mem_supportTop script native inTop
  · split at attached
    · cases attached
    · rw [Code.allTexts, List.mem_append, Code.mem_allTexts_map_iff] at attached
      rcases attached with isBlank | ⟨method, inMethods, inTexts⟩
      · rw [List.mem_singleton.mp isBlank]
        exact .blank
      · rw [List.mem_singleton.mp inTexts]
        refine .closed (unbroken_append.mpr ⟨?_, each method inMethods⟩) rfl
        exact (Text.OneLine.around script rfl rfl).noFeed
  · rcases atEnd with _ | ⟨_, _ | ⟨_, _ | ⟨_, ⟨⟩⟩⟩⟩
    · exact .blank
    · exact .literal rfl
    · exact .literal rfl

theorem oneLine_of_mem_missing (script : Unbroken names.script)
    (member : text ∈ Code.allTexts names.missingPieces) : Text.OneLine text := by
  rw [allTexts_missingPieces] at member
  rcases member with _ | ⟨_, _ | ⟨_, _ | ⟨_, _ | ⟨_, _ | ⟨_, _ | ⟨_, ⟨⟩⟩⟩⟩⟩⟩⟩
  · exact .literal rfl
  · exact .around script rfl rfl
  · exact .literal rfl
  · exact .around script rfl rfl
  · exact .around script rfl rfl
  · exact .literal rfl

end ClassNames

theorem unbroken_toString_int (value : Int) : Unbroken (toString value) :=
  fun member => absurd (Json.isNumeral_of_mem_toString member) (by decide)

namespace EnumRegistry

/-- No name in an entry holds a line feed. -/
structure UnbrokenEntry (entry : EnumBinding) : Prop where
  name : Unbroken entry.name
  constants : ∀ constant ∈ entry.values, Unbroken constant.name

variable {entry : EnumBinding} {text : String}

theorem unbroken_scriptString (unbroken : Unbroken text) : Unbroken (scriptString text) := by
  unfold scriptString
  exact (Text.OneLine.around unbroken rfl rfl).noFeed

theorem UnbrokenEntry.oneLine (unbroken : UnbrokenEntry entry)
    (member : text ∈ (bindingCode entry).texts) : Text.OneLine text := by
  have constants : ∀ constant ∈ entry.values, ∀ line ∈ (constantCode constant).texts,
      Text.OneLine line := by
    intro constant inValues line inTexts
    rw [constantCode, Code.texts, List.mem_singleton] at inTexts
    rw [inTexts]
    apply Text.OneLine.closed _ rfl
    simp only [unbroken_append, unbroken_scriptString (unbroken.constants constant inValues),
      unbroken_toString_int, and_true]
    and_intros <;> exact unbroken_literal rfl
  have published : Text.OneLine ("jerry_set_property(global_obj, " ++ scriptString entry.name ++
      ", enum_obj);") :=
    .around (unbroken_scriptString unbroken.name) rfl rfl
  rw [bindingCode, Code.texts, List.mem_cons, List.mem_append, Code.allTexts_append,
    Code.allTexts_append, List.mem_append, List.mem_append, List.mem_singleton] at member
  rcases member with rfl | ((atTop | inConstants) | atEnd) | rfl
  · exact .literal rfl
  · rcases atTop with _ | ⟨_, _ | ⟨_, ⟨⟩⟩⟩
    · exact .literal rfl
    · exact .blank
  · rw [Code.mem_allTexts_map_iff] at inConstants
    obtain ⟨constant, inValues, inTexts⟩ := inConstants
    exact constants constant inValues text inTexts
  · rcases atEnd with _ | ⟨_, _ | ⟨_, _ | ⟨_, _ | ⟨_, ⟨⟩⟩⟩⟩⟩
    · exact .blank
    · exact .literal rfl
    · exact published
    · exact .literal rfl
  · exact .literal rfl

theorem unbrokenEntry_of_mem_values {tree : SymbolTree} (unbroken : tree.NamesUnbroken)
    (owner : NodeId) (scriptName : String)
    (member : entry ∈ (tree.bindings owner scriptName).1.enums.values) : UnbrokenEntry entry := by
  obtain ⟨name, enumeration, first, rfl⟩ := tree.exists_first_of_mem_values owner scriptName member
  have named := List.find?_some first
  rw [decide_eq_true_eq] at named
  refine ⟨unbroken.name named, ?_⟩
  intro constant inValues
  obtain ⟨⟨id, position⟩, _, isConstant⟩ := List.mem_filterMap.mp inValues
  obtain ⟨own, hasName, rfl⟩ := Option.map_eq_some_iff.mp isConstant
  exact unbroken.name hasName

end EnumRegistry

theorem eq_or_mem_of_mem_intersperse {α : Type} {separator item : α} {items : List α}
    (member : item ∈ items.intersperse separator) : item = separator ∨ item ∈ items := by
  induction items with
  | nil => cases member
  | cons first rest ih =>
      cases rest with
      | nil => exact Or.inr member
      | cons second others =>
          rw [List.intersperse_cons_cons, List.mem_cons, List.mem_cons] at member
          rcases member with rfl | rfl | later
          · exact Or.inr List.mem_cons_self
          · exact Or.inl rfl
          · exact (ih later).imp_right (List.mem_cons_of_mem first)

theorem EnumRegistry.oneLine_of_mem_setup {registry : EnumRegistry} {scriptName text : String}
    (unbroken : ∀ entry ∈ registry.values, UnbrokenEntry entry) (script : Unbroken scriptName)
    (member : text ∈ Code.allTexts (registry.setupPieces scriptName)) : Text.OneLine text := by
  rw [setupPieces, Code.allTexts, Code.allTexts, List.append_nil, Code.texts, List.mem_cons,
    List.mem_append, List.mem_singleton] at member
  rcases member with rfl | inBody | rfl
  · unfold setupName
    apply Text.OneLine.closed _ rfl
    simp only [unbroken_append, script, and_true]
    and_intros <;> exact unbroken_literal rfl
  · obtain ⟨piece, inPieces, inTexts⟩ := Code.mem_allTexts_iff.mp inBody
    rcases eq_or_mem_of_mem_intersperse inPieces with rfl | isBinding
    · rw [List.mem_singleton.mp inTexts]
      exact .blank
    · obtain ⟨entry, inValues, rfl⟩ := List.mem_map.mp isBinding
      exact (unbroken entry inValues).oneLine inTexts
  · exact .literal rfl

namespace SymbolTree

variable {tree : SymbolTree} {owner : NodeId} {scriptName text : String}

/-- Every line of the bindings of a class is read as one line. -/
theorem oneLine_of_mem_sourceBlocks (unbroken : tree.NamesUnbroken) (script : Unbroken scriptName)
    {block : List Code} (inBlocks : block ∈ tree.sourceBlocks owner scriptName)
    (member : text ∈ Code.allTexts block) : Text.OneLine text := by
  have native := unbroken.native owner scriptName
  have entryOf : ∀ name, Unbroken name →
      UnbrokenEntry tree (tree.classNames owner scriptName) name := fun name named =>
    ⟨unbroken, script, native, named⟩
  have bound : ∀ role name, entryName role name = name →
      tree.AllBound owner role name
        (OverloadSet.sorted ((tree.draft owner scriptName).group name role)) := by
    intro role name same
    apply allBound_of_last
    intro number overload entry
    exact same ▸ tree.lastBoundTo_of_mem_sorted owner scriptName entry
  have methodName : ∀ group ∈ (tree.draft owner scriptName).keptMethods,
      group.2 = (tree.draft owner scriptName).group group.1 .method ∧ Unbroken group.1 := by
    intro group kept
    obtain ⟨groupEq, nonempty⟩ :=
      (Draft.mem_keptMethods_iff (tree.distinct_draft owner scriptName) _ _).mp kept
    obtain ⟨arity, hasArity⟩ := (OrderedMap.isEmpty_eq_false_iff group.2).mp nonempty
    refine ⟨groupEq, (bound .method group.1 rfl).unbroken_name unbroken ?_⟩
    rw [groupEq] at hasArity
    exact List.ne_nil_of_mem ((OverloadSet.mem_keys_sorted_iff _ arity).mpr hasArity)
  rw [sourceBlocks, List.mem_append, List.mem_cons, List.mem_singleton] at inBlocks
  rcases inBlocks with isMethod | rfl | rfl
  · obtain ⟨group, kept, rfl⟩ := List.mem_map.mp isMethod
    obtain ⟨groupEq, named⟩ := methodName group kept
    rw [groupEq] at member
    exact (entryOf group.1 named).oneLine_of_mem_entryPieces (bound .method group.1 rfl) member
  · apply ClassNames.oneLine_of_mem_support script native _ member
    intro method inMethods
    obtain ⟨group, kept, rfl⟩ := List.mem_map.mp inMethods
    exact (methodName group kept).2
  · unfold ClassNames.constructorPieces at member
    split at member
    · exact ClassNames.oneLine_of_mem_missing script member
    · exact (entryOf constructorName (by decide)).oneLine_of_mem_entryPieces
        (bound .constructor constructorName rfl) member

end SymbolTree

theorem oneLine_includeLine {path : String} (unbroken : Unbroken path) :
    Text.OneLine (includeLine path) := by
  unfold includeLine
  exact .around unbroken rfl rfl

namespace PackageNames

variable {names : PackageNames} {text : String}

/-- Without line feeds in the names of the library and the class, there are none
in the path of the class header. -/
theorem unbroken_classInclude (library : Unbroken names.library)
    (header : Unbroken (Text.lowercase names.scriptClass)) : Unbroken names.classInclude := by
  unfold classInclude package classHeader
  simp only [unbroken_append, library, header, and_true]
  and_intros <;> exact unbroken_literal rfl

theorem oneLine_of_mem_sourceTop (included : Unbroken names.classInclude)
    (member : text ∈ names.sourceTop) : Text.OneLine text := by
  simp only [sourceTop, List.mem_cons, List.not_mem_nil, or_false] at member
  rcases member with rfl | rfl | rfl | rfl | rfl | rfl
  · exact .literal rfl
  · exact .blank
  · exact oneLine_includeLine (unbroken_literal rfl)
  · exact oneLine_includeLine (unbroken_literal rfl)
  · exact oneLine_includeLine included
  · exact .blank

/-- Every line of the source is read as one line. -/
theorem oneLine_of_mem_sourcePieces {tree : SymbolTree} {owner : NodeId}
    (unbroken : tree.NamesUnbroken) (included : Unbroken names.classInclude)
    (script : Unbroken names.scriptClass)
    (member : text ∈ Code.allTexts (names.sourcePieces (tree.sourceBlocks owner names.scriptClass)
      (tree.bindings owner names.scriptClass).1.enums)) : Text.OneLine text := by
  rw [sourcePieces, Code.allTexts_append, Code.allTexts_append, List.mem_append,
    List.mem_append] at member
  rcases member with inTop | inBindings | inSetup
  · obtain ⟨piece, inPieces, inTexts⟩ := Code.mem_allTexts_iff.mp inTop
    obtain ⟨line, inLines, rfl⟩ := List.mem_map.mp inPieces
    rw [List.mem_singleton.mp inTexts]
    exact oneLine_of_mem_sourceTop included inLines
  · obtain ⟨piece, inPieces, inTexts⟩ := Code.mem_allTexts_iff.mp inBindings
    obtain ⟨block, inBlocks, inBlock⟩ := List.mem_flatMap.mp inPieces
    rcases List.mem_append.mp inBlock with inside | atEnd
    · exact SymbolTree.oneLine_of_mem_sourceBlocks unbroken script inBlocks
        (Code.mem_allTexts_iff.mpr ⟨piece, inside, inTexts⟩)
    · rw [List.mem_singleton.mp atEnd] at inTexts
      rw [List.mem_singleton.mp inTexts]
      exact .blank
  · exact EnumRegistry.oneLine_of_mem_setup
      (fun _ => EnumRegistry.unbrokenEntry_of_mem_values unbroken owner names.scriptClass) script
      inSetup

end PackageNames

end Bindery
