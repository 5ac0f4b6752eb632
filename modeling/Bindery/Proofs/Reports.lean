import Bindery.Proofs.Draft
import Bindery.Proofs.EntryPoint

/-!
# What a draft reports

Each declaration that is taken into account leaves one trace: a new overload, a
member that is left out or a note.  A member that takes the place of another one
leaves two of them and removes none, because the overload replaced was a trace
of its own and the number of overloads stays.

Each fact is shown for one more declaration and then for all of them.
-/

namespace Bindery

/-- The warning about a member that is left out. -/
def Dropped.warning (scriptName : String) (entry : Dropped) : Diagnostic :=
  Diagnostic.warning (scriptName ++ "#" ++ entry.name ++ " not bound: " ++ entry.reason.message)

/-- The note about a declaration that is passed over. -/
def skippedNotes (scriptName : String) (declaration : String × Verdict) : Diagnostics :=
  match declaration.2 with
  | .skipped kind =>
      [Diagnostic.info (scriptName ++ "#" ++ declaration.1 ++ " skipped: " ++ kind.word)]
  | .rejected _ | .unbindable _ _ | .bound _ _ => []

namespace Diagnostics

theorem warnings_append (first second : Diagnostics) :
    warnings (first ++ second) = first.warnings ++ second.warnings :=
  List.filter_append ..

theorem notes_append (first second : Diagnostics) :
    notes (first ++ second) = first.notes ++ second.notes :=
  List.filter_append ..

theorem warnings_eq_self {diagnostics : Diagnostics}
    (all : ∀ diagnostic ∈ diagnostics, diagnostic.severity = .warning) :
    diagnostics.warnings = diagnostics :=
  List.filter_eq_self.mpr fun diagnostic member => decide_eq_true (all diagnostic member)

theorem notes_eq_nil {diagnostics : Diagnostics}
    (all : ∀ diagnostic ∈ diagnostics, diagnostic.severity = .warning) :
    diagnostics.notes = [] :=
  List.filter_eq_nil_iff.mpr fun diagnostic member isInfo => by
    rw [Diagnostic.isInfo, all diagnostic member] at isInfo
    exact absurd isInfo (by decide)

end Diagnostics

theorem severity_of_mem_map_warning {scriptName : String} {entries : List Dropped} :
    ∀ diagnostic ∈ entries.map (Dropped.warning scriptName), diagnostic.severity = .warning := by
  intro diagnostic member
  obtain ⟨entry, _, rfl⟩ := List.mem_map.mp member
  rfl

theorem warnings_skippedNotes (scriptName : String) (declaration : String × Verdict) :
    (skippedNotes scriptName declaration).warnings = [] := by
  rcases declaration with ⟨name, _ | _ | _ | _⟩ <;> rfl

theorem notes_skippedNotes (scriptName : String) (declaration : String × Verdict) :
    (skippedNotes scriptName declaration).notes = skippedNotes scriptName declaration := by
  rcases declaration with ⟨name, _ | _ | _ | _⟩ <;> rfl

namespace Draft

variable (scriptName : String)

/-! ## One declaration -/

/-- The member that is left out on account of a declaration. -/
def leftOut (draft : Draft) (declaration : String × Verdict) : List Dropped :=
  match declaration.2 with
  | .skipped _ => []
  | .rejected reason => [⟨declaration.1, .rejected reason⟩]
  | .unbindable _ reason => [⟨declaration.1, .unbindable reason⟩]
  | .bound role overload =>
      if (draft.group declaration.1 role).contains overload.arity then
        [⟨declaration.1, .replaced⟩]
      else []

theorem findings_withGroup (draft : Draft) (name : String) (role : Role) (group : OverloadSet) :
    (draft.withGroup name role group).findings = draft.findings := by
  cases role <;> rfl

theorem findings_drop (draft : Draft) (name : String) (reason : DropReason) :
    (draft.drop scriptName name reason).findings =
      draft.findings ++ [Dropped.warning scriptName ⟨name, reason⟩] :=
  rfl

theorem dropped_add (draft : Draft) (declaration : String × Verdict) :
    (draft.add scriptName declaration).dropped =
      draft.dropped ++ draft.leftOut declaration := by
  rcases declaration with ⟨name, verdict⟩
  cases verdict with
  | skipped kind => exact (List.append_nil _).symm
  | rejected reason => rfl
  | unbindable role reason =>
      simp only [add, leftOut, dropped_drop, dropped_withGroup]
  | bound role overload =>
      simp only [add, leftOut]
      split <;> simp [dropped_drop, dropped_withGroup]

theorem findings_add (draft : Draft) (declaration : String × Verdict) :
    (draft.add scriptName declaration).findings =
      draft.findings ++ (skippedNotes scriptName declaration ++
        (draft.leftOut declaration).map (Dropped.warning scriptName)) := by
  rcases declaration with ⟨name, verdict⟩
  cases verdict with
  | skipped kind => rfl
  | rejected reason => rfl
  | unbindable role reason =>
      simp [add, leftOut, skippedNotes, findings_drop, findings_withGroup]
  | bound role overload =>
      simp only [add, leftOut]
      split <;> simp [skippedNotes, findings_drop, findings_withGroup]

/-! ## The number of overloads -/

/-- The number of overloads in all groups. -/
def overloadCount (draft : Draft) : Nat :=
  (draft.methods.entries.map fun group => group.2.size).sum + draft.constructors.size

theorem overloadCount_drop (draft : Draft) (name : String) (reason : DropReason) :
    (draft.drop scriptName name reason).overloadCount = draft.overloadCount :=
  rfl

theorem overloadCount_withGroup (draft : Draft) (name : String) (role : Role)
    (group : OverloadSet) :
    (draft.withGroup name role group).overloadCount + (draft.group name role).size =
      draft.overloadCount + group.size := by
  cases role with
  | constructor =>
      simp only [withGroup, overloadCount, Draft.group]
      omega
  | method =>
      have replaced := OrderedMap.sum_map_place (fun other : OverloadSet => other.size) name group
        draft.methods.entries
      have size : (draft.methodGroup name).size =
          ((OrderedMap.lookup name draft.methods.entries).map fun other => other.size).getD 0 := by
        rw [methodGroup, OrderedMap.get?]
        cases OrderedMap.lookup name draft.methods.entries <;> rfl
      simp only [withGroup, overloadCount, Draft.group, OrderedMap.insert, size]
      omega

/-- An overload is new unless its slot is taken. -/
theorem overloadCount_add (draft : Draft) (declaration : String × Verdict) :
    (draft.add scriptName declaration).overloadCount + (draft.leftOut declaration).length +
        (skippedNotes scriptName declaration).length = draft.overloadCount + 1 := by
  rcases declaration with ⟨name, verdict⟩
  cases verdict with
  | skipped kind => rfl
  | rejected reason => rfl
  | unbindable role reason =>
      have kept := draft.overloadCount_withGroup name role (draft.group name role)
      simp only [add, leftOut, skippedNotes, overloadCount_drop, List.length_singleton,
        List.length_nil]
      omega
  | bound role overload =>
      have placed := draft.overloadCount_withGroup name role
        ((draft.group name role).insert overload.arity overload)
      rw [OrderedMap.size_insert] at placed
      simp only [add, leftOut, skippedNotes, List.length_nil]
      -- In a taken slot the overload is no new one, but a member is left out for it.
      split at placed
      · rename_i taken
        simp only [taken, if_true, overloadCount_drop, List.length_singleton]
        omega
      · rename_i vacant
        rw [if_neg vacant, if_neg vacant, List.length_nil]
        omega

/-! ## All declarations -/

/-- Every declaration leaves one trace. -/
theorem length_eq_of_ofVerdicts (declarations : List (String × Verdict)) :
    declarations.length =
      (ofVerdicts scriptName declarations).overloadCount +
        (ofVerdicts scriptName declarations).dropped.length +
        (ofVerdicts scriptName declarations).findings.notes.length := by
  induction declarations using List.reverseRecOn with
  | nil => rfl
  | append_singleton earlier declaration ih =>
      have step := (ofVerdicts scriptName earlier).overloadCount_add scriptName declaration
      rw [ofVerdicts_concat, dropped_add, findings_add]
      simp only [Diagnostics.notes_append, notes_skippedNotes,
        Diagnostics.notes_eq_nil severity_of_mem_map_warning, List.append_nil,
        List.length_append, List.length_singleton]
      omega

/-- The warnings are those about the members left out, in the same order. -/
theorem warnings_findings_ofVerdicts (declarations : List (String × Verdict)) :
    (ofVerdicts scriptName declarations).findings.warnings =
      (ofVerdicts scriptName declarations).dropped.map (Dropped.warning scriptName) := by
  induction declarations using List.reverseRecOn with
  | nil => rfl
  | append_singleton earlier declaration ih =>
      rw [ofVerdicts_concat, dropped_add, findings_add]
      simp only [Diagnostics.warnings_append, warnings_skippedNotes,
        Diagnostics.warnings_eq_self severity_of_mem_map_warning, List.nil_append,
        List.map_append, ih]

/-- A declaration that cannot be bound is left out for its own reason. -/
theorem mem_dropped_ofVerdicts {declarations : List (String × Verdict)} {name : String}
    {role : Role} {reason : Unbindable}
    (member : (name, .unbindable role reason) ∈ declarations) :
    ⟨name, .unbindable reason⟩ ∈ (ofVerdicts scriptName declarations).dropped := by
  induction declarations using List.reverseRecOn with
  | nil => cases member
  | append_singleton earlier declaration ih =>
      rw [ofVerdicts_concat, dropped_add, List.mem_append]
      rcases List.mem_append.mp member with before | last
      · exact Or.inl (ih before)
      · cases List.mem_singleton.mp last
        exact Or.inr List.mem_cons_self

/-! ## The entry points of a draft -/

/-- Groups without an overload add nothing to the number of overloads. -/
theorem sum_size_keptMethods (draft : Draft) :
    (draft.keptMethods.map fun group => group.2.size).sum =
      (draft.methods.entries.map fun group => group.2.size).sum := by
  rw [keptMethods]
  induction draft.methods.entries with
  | nil => rfl
  | cons group rest ih =>
      rcases group with ⟨name, ⟨entries⟩⟩
      cases entries with
      | nil => simpa [OrderedMap.isEmpty, OrderedMap.size] using ih
      | cons entry others => simpa [OrderedMap.isEmpty, OrderedMap.size] using ih

theorem length_keys_sorted (group : OverloadSet) :
    (OverloadSet.sorted group).keys.length = group.size := by
  rw [OrderedMap.keys, List.length_map, (OverloadSet.entries_sorted_perm group).length_eq]
  rfl

end Draft

end Bindery
