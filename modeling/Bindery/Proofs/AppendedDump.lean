import Bindery.Proofs.AppendedRecords
import Bindery.Proofs.Extension
import Bindery.SymbolTree.Resolution

/-!
# Dumps one after the other

A dump of more compile units begins with the dump of some of them.  What is
generated for a class of these must not depend on the others.  It does not, as
long as the others stand on their own: they begin with a record of the first
level and take no address that a type before them refers to.
-/

namespace Bindery.SymbolTree

theorem ofDump_eq_ok_iff (dump : String) (tree : SymbolTree) :
    (ofDump dump).1 = .ok tree ↔
      (Record.ofDump dump).1 ≠ [] ∧ (ofRecords (Record.ofDump dump).1).1.resolve.tree = tree := by
  unfold ofDump
  rcases Record.ofDump dump with ⟨_ | ⟨record, rest⟩, findings⟩
  · simp
  · simp

theorem ofDump_eq_iff {dump : String} {tree : SymbolTree} {findings : Diagnostics} :
    ofDump dump = (.ok tree, findings) ↔ (Record.ofDump dump).1 ≠ [] ∧
      (ofRecords (Record.ofDump dump).1).1.resolve.tree = tree ∧
        (Record.ofDump dump).2 ++ (ofRecords (Record.ofDump dump).1).2 ++
          (ofRecords (Record.ofDump dump).1).1.resolve.findings = findings := by
  unfold ofDump
  rcases Record.ofDump dump with ⟨_ | ⟨record, rest⟩, found⟩
  · simp
  · simp

/-- A dump that may follow another one without a change to it. -/
structure Follows (first second : String) : Prop where
  ends : first.toList.getLast? = some '\n'
  starts : ∀ line ∈ (Text.lines second).head?, Record.isAttribute line.toList = false
  top : ∀ record ∈ (Record.ofDump second).1.head?, record.level = 0
  /-- No record takes an address that a type of the first dump refers to. -/
  apart : ∀ record ∈ (Record.ofDump second).1, ∀ earlier ∈ (Record.ofDump first).1,
    ∀ text ∈ earlier.attributes.get? "type", ∀ digits ∈ reference? text.toList,
      record.address ≠ addressKey (String.ofList digits)

namespace Follows

variable {first second : String}

/-- The records of the second dump as they stand after the first one. -/
def added (first second : String) : List Record :=
  (Record.ofDump second).1.map (Record.moved · (Text.lines first).length)

theorem records_append (follows : Follows first second) :
    (Record.ofDump (first ++ second)).1 = (Record.ofDump first).1 ++ added first second :=
  Record.ofDump_append follows.ends follows.starts

theorem top_added (follows : Follows first second) :
    ∀ record ∈ (added first second).head?, record.level = 0 := by
  intro record member
  rw [added, List.head?_map] at member
  rcases Option.map_eq_some_iff.mp member with ⟨original, isFirst, rfl⟩
  exact follows.top original isFirst

/-- The raw link of an entry is the type of its record. -/
theorem exists_type_of_link {records : List Record} {id : NodeId} {text : String}
    (member : id ∈ (ofRecords records).1.ids)
    (link : ((ofRecords records).1.node id).link = .raw text) :
    ∃ record ∈ records, record.attributes.get? "type" = some text := by
  rcases exists_record_ofRecords records member with ⟨record, inRecords, parent, same⟩
  refine ⟨record, inRecords, ?_⟩
  rw [Node.eq_of_withoutChildren same Node.link fun _ => rfl, Node.ofRecord] at link
  dsimp only at link
  split at link
  · rename_i found
    cases link
    exact found
  · cases link

theorem undisturbed (follows : Follows first second) :
    Extends.Undisturbed (ofRecords (Record.ofDump first).1).1
      (ofRecords ((Record.ofDump first).1 ++ added first second)).1 := by
  intro id member text link digits refers new isNew
  rcases exists_type_of_link member link with ⟨earlier, inFirst, typed⟩
  rcases exists_record_of_mem_newIds isNew with ⟨record, inAdded, parent, same⟩
  rcases List.mem_map.mp inAdded with ⟨original, inSecond, rfl⟩
  rw [Node.eq_of_withoutChildren same Node.address fun _ => rfl]
  exact follows.apart original inSecond earlier inFirst text typed digits refers

theorem extends_resolved (follows : Follows first second) :
    Extends (ofRecords (Record.ofDump first).1).1.resolve.tree
      (ofRecords ((Record.ofDump first).1 ++ added first second)).1.resolve.tree :=
  (extends_ofRecords _ follows.top_added).resolve (wellFormed_ofRecords _).nonempty
    follows.undisturbed

/-- A new entry is a class of a name only if a record of the second dump is. -/
theorem isClassNamed_new {name : String}
    (noClass : ∀ record ∈ (Record.ofDump second).1, record.tag.isRecord = true →
      record.name ≠ some name)
    {records : List Record} :
    ∀ id ∈ newIds (ofRecords records).1.resolve.tree
      (ofRecords (records ++ added first second)).1.resolve.tree,
      (ofRecords (records ++ added first second)).1.resolve.tree.isClassNamed name id = false := by
  intro id isNew
  rw [newIds, size_resolve, size_resolve] at isNew
  rcases exists_record_of_mem_newIds isNew with ⟨record, inAdded, parent, same⟩
  rcases List.mem_map.mp inAdded with ⟨original, inSecond, rfl⟩
  have tag := Node.eq_of_withoutChildren same Node.tag fun _ => rfl
  have named := Node.eq_of_withoutChildren same Node.name fun _ => rfl
  rw [isClassNamed, node_resolve]
  dsimp only
  rw [tag, named]
  cases isRecord : original.tag.isRecord with
  | false => simp [Node.ofRecord, Record.moved, isRecord]
  | true =>
      have different := noClass original inSecond isRecord
      simp [Node.ofRecord, Record.moved, isRecord, different]

end Follows

theorem mem_ids_of_findClass? {tree : SymbolTree} {name : String} {owner : NodeId}
    (found : tree.findClass? name = some owner) : owner ∈ tree.ids := by
  rcases Option.or_eq_some_iff.mp found with definition | ⟨_, first⟩
  · exact (List.mem_filter.mp (List.mem_of_find?_eq_some definition)).1
  · exact (List.mem_filter.mp (List.mem_of_mem_head? first)).1

/-- A dump that follows another one changes nothing that is found or generated
for a class of the first one. -/
theorem ofDump_append_keeps {first second name : String} {tree : SymbolTree} {owner : NodeId}
    (follows : Follows first second) (built : (ofDump first).1 = .ok tree)
    (found : tree.findClass? name = some owner)
    (settled : (tree.node owner).isDeclaration = false ∨
      ∀ record ∈ (Record.ofDump second).1, record.tag.isRecord = true → record.name ≠ some name) :
    ∃ joined, (ofDump (first ++ second)).1 = .ok joined ∧
      joined.findClass? name = some owner ∧
      (∀ id ∈ tree.ids, id ∈ joined.ids ∧ joined.node id = tree.node id) ∧
      (∀ scriptName, joined.bindings owner scriptName = tree.bindings owner scriptName) ∧
      ∀ depth, joined.view owner depth = tree.view owner depth := by
  rcases (ofDump_eq_ok_iff first tree).mp built with ⟨nonempty, rfl⟩
  have extension := follows.extends_resolved
  have firstFormed := (wellFormed_ofRecords (Record.ofDump first).1).resolve
  have secondFormed := (wellFormed_ofRecords
    ((Record.ofDump first).1 ++ Follows.added first second)).resolve
  have closed := closed_resolve (link_ofRecords (Record.ofDump first).1)
  have owned := mem_ids_of_findClass? found
  refine ⟨_, (ofDump_eq_ok_iff _ _).mpr ⟨?_, rfl⟩, ?_⟩
  · rw [follows.records_append]
    exact List.append_ne_nil_of_left_ne_nil nonempty _
  · rw [follows.records_append]
    refine ⟨?_, ?_, ?_, ?_⟩
    · exact extension.findClass? firstFormed.nonempty found
        (settled.imp_right fun noClass => Follows.isClassNamed_new noClass)
    · intro id member
      refine ⟨?_, extension.node id member⟩
      rw [extension.ids firstFormed.nonempty]
      exact List.mem_append_left _ member
    · exact (extension.agree firstFormed secondFormed closed).bindings owned
    · exact extension.view firstFormed closed owned

/-- The dump of a class and of a pointer to it. -/
def lampDump : String :=
  "<0><b>:Abbrev Number:1 (DW_TAG_class_type)\n  <c>DW_AT_name:Lamp\n" ++
  "<0><d>:Abbrev Number:2 (DW_TAG_pointer_type)\n  <e>DW_AT_type:<0xb>\n"

/-- The dump of another class. -/
def motorDump : String :=
  "<0><f>:Abbrev Number:1 (DW_TAG_class_type)\n  <10>DW_AT_name:Motor\n"

/-- The long text is cut into its lines before anything is evaluated. -/
theorem lines_lampDump : Text.lines lampDump =
    ["<0><b>:Abbrev Number:1 (DW_TAG_class_type)", "  <c>DW_AT_name:Lamp",
      "<0><d>:Abbrev Number:2 (DW_TAG_pointer_type)", "  <e>DW_AT_type:<0xb>"] := by
  have joined : lampDump = String.ofList (_ ++ _) := String.ofList_append.symm
  rw [joined, Text.lines, String.toList_ofList]
  rfl

/-- What is read from both dumps. -/
theorem records_dumps :
    (Record.ofDump lampDump).1 = [
      { level := 0, address := "b", abbreviation := 1, tag := .classType, name := some "Lamp",
        fullName := some "Lamp", line := 0 },
      { level := 0, address := "d", abbreviation := 2, tag := .pointerType,
        attributes := ⟨[("type", "<0xb>")]⟩, line := 2 }] ∧
    (Record.ofDump motorDump).1 = [
      { level := 0, address := "f", abbreviation := 1, tag := .classType, name := some "Motor",
        fullName := some "Motor", line := 0 }] := by
  rw [Record.ofDump, lines_lampDump]
  decide +kernel

theorem ofDump_append_keeps_lamp :
    Follows lampDump motorDump ∧ ∃ tree joined, (ofDump lampDump).1 = .ok tree ∧
      tree.findClass? "Lamp" = some 1 ∧ (tree.node 1).isDeclaration = false ∧
      (ofDump (lampDump ++ motorDump)).1 = .ok joined ∧
      joined.findClass? "Lamp" = some 1 ∧
      ∀ scriptName, joined.bindings 1 scriptName = tree.bindings 1 scriptName := by
  obtain ⟨lamp, motor⟩ := records_dumps
  have built : (ofDump lampDump).1 = .ok (ofRecords (Record.ofDump lampDump).1).1.resolve.tree :=
    (ofDump_eq_ok_iff _ _).mpr ⟨by rw [lamp]; exact List.cons_ne_nil _ _, rfl⟩
  have found : (ofRecords (Record.ofDump lampDump).1).1.resolve.tree.findClass? "Lamp" =
      some 1 := by
    rw [findClass?_resolve, lamp]
    decide +kernel
  have defined : ((ofRecords (Record.ofDump lampDump).1).1.resolve.tree.node 1).isDeclaration =
      false := by
    rw [node_resolve, lamp]
    decide +kernel
  have follows : Follows lampDump motorDump := by
    constructor
    · decide +kernel
    · decide +kernel
    · rw [motor]
      decide +kernel
    · rw [motor, lamp]
      decide +kernel
  obtain ⟨joined, result, foundAgain, _, bindings, _⟩ :=
    ofDump_append_keeps follows built found (Or.inl defined)
  exact ⟨follows, _, joined, built, found, defined, result, foundAgain, bindings⟩

end Bindery.SymbolTree
