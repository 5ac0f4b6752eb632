import Mathlib.Data.List.Basic
import Bindery.Run

/-!
# Paths and places

A path is followed part by part.  What a path leads to, once every directory on
its way exists, depends on its parts alone: a name goes down, two dots go up and
an empty part or a single dot stays.
-/

namespace Bindery.Volume

/-! ## Parts -/

theorem splitPath_ne_nil (chars : List Char) : splitPath chars ≠ [] := by
  unfold splitPath
  split
  · exact List.cons_ne_nil _ _
  · exact List.cons_ne_nil _ _
  · split <;> exact List.cons_ne_nil _ _

theorem splitPath_cons_of_ne {c : Char} (other : c ≠ '/') (rest : List Char) :
    ∃ part parts, splitPath rest = part :: parts ∧
      splitPath (c :: rest) = (String.singleton c ++ part) :: parts := by
  cases split : splitPath rest with
  | nil => exact absurd split (splitPath_ne_nil rest)
  | cons part parts =>
      refine ⟨part, parts, rfl, ?_⟩
      rw [splitPath]
      · rw [split]
      · exact other

/-- A slash separates the parts before it from those after it. -/
theorem splitPath_append_slash (first second : List Char) :
    splitPath (first ++ '/' :: second) = splitPath first ++ splitPath second := by
  induction first with
  | nil => rfl
  | cons c rest ih =>
      by_cases slash : c = '/'
      · subst slash
        rw [List.cons_append, splitPath, splitPath, ih, List.cons_append]
      · obtain ⟨part, parts, restParts, whole⟩ := splitPath_cons_of_ne slash rest
        obtain ⟨_, _, split, again⟩ := splitPath_cons_of_ne slash (rest ++ '/' :: second)
        rw [ih, restParts, List.cons_append, List.cons.injEq] at split
        obtain ⟨rfl, rfl⟩ := split
        rw [List.cons_append, again, whole, List.cons_append]

theorem splitPath_of_not_mem {chars : List Char} (noSlash : '/' ∉ chars) :
    splitPath chars = [String.ofList chars] := by
  induction chars with
  | nil => rfl
  | cons c rest ih =>
      have different : c ≠ '/' := fun same => noSlash (same ▸ List.mem_cons_self)
      obtain ⟨part, parts, split, whole⟩ := splitPath_cons_of_ne different rest
      rw [ih fun member => noSlash (List.mem_cons_of_mem c member), List.cons.injEq] at split
      obtain ⟨rfl, rfl⟩ := split
      rw [whole, ← String.ofList_cons]

/-- A text that can name a file or a directory. -/
structure IsName (part : String) : Prop where
  stays : staysInPlace part = false
  notUp : part ≠ ".."
  noSlash : '/' ∉ part.toList

theorem IsName.ne_empty {part : String} (isName : IsName part) : part ≠ "" := by
  rintro rfl
  exact absurd isName.stays (by decide)

theorem IsName.splitPath {part : String} (isName : IsName part) :
    splitPath part.toList = [part] := by
  rw [splitPath_of_not_mem isName.noSlash, String.ofList_toList]

/-- Names between slashes are the parts of a path. -/
theorem splitPath_intercalate {parts : List String} (names : ∀ part ∈ parts, IsName part)
    (nonempty : parts ≠ []) : splitPath ("/".intercalate parts).toList = parts := by
  induction parts with
  | nil => exact absurd rfl nonempty
  | cons first rest ih =>
      obtain ⟨isName, others⟩ := List.forall_mem_cons.mp names
      cases rest with
      | nil => rw [String.intercalate_singleton, isName.splitPath]
      | cons second later =>
          have whole : ("/".intercalate (first :: second :: later)).toList =
              first.toList ++ '/' :: ("/".intercalate (second :: later)).toList := by
            rw [String.intercalate_cons_cons, String.toList_append, String.toList_append]
            simp
          rw [whole, splitPath_append_slash, isName.splitPath,
            ih others (List.cons_ne_nil _ _), List.singleton_append]

/-! ## Joined paths -/

/-- A path to which a part can be added after a slash. -/
structure Extensible (path : String) : Prop where
  nonempty : path ≠ ""
  noSlash : path.toList.getLast? ≠ some '/'

theorem Extensible.joinPath_eq {path : String} (extensible : Extensible path) (name : String) :
    joinPath path name = path ++ "/" ++ name := by
  rw [joinPath, if_neg, if_neg extensible.noSlash]
  rw [String.isEmpty_iff]
  exact extensible.nonempty

theorem Extensible.splitPath_joinPath {path : String} (extensible : Extensible path)
    (name : String) :
    splitPath (joinPath path name).toList =
      splitPath path.toList ++ splitPath name.toList := by
  have whole : (path ++ "/" ++ name).toList = path.toList ++ '/' :: name.toList := by
    simp [String.toList_append]
  rw [extensible.joinPath_eq, whole, splitPath_append_slash]

theorem getLast?_name {name : String} (isName : IsName name) (lead : List Char) :
    (lead ++ name.toList).getLast? ≠ some '/' := by
  rw [List.getLast?_append_of_ne_nil]
  · intro last
    exact isName.noSlash (List.mem_of_getLast? last)
  · simpa using isName.ne_empty

/-- A path with a name at its end can be added to. -/
theorem extensible_joinPath (path : String) {name : String} (isName : IsName name) :
    Extensible (joinPath path name) := by
  have split : ∃ lead, (joinPath path name).toList = lead ++ name.toList := by
    unfold joinPath
    split
    · exact ⟨[], rfl⟩
    · split <;> exact ⟨_, String.toList_append⟩
  obtain ⟨lead, split⟩ := split
  constructor
  · intro empty
    rw [empty] at split
    exact isName.ne_empty (String.toList_eq_nil_iff.mp (List.append_eq_nil_iff.mp split.symm).2)
  · rw [split]
    exact getLast?_name isName lead

theorem Extensible.splitPath_foldl {path : String} (extensible : Extensible path)
    {names : List String} (areNames : ∀ name ∈ names, IsName name) :
    splitPath (names.foldl joinPath path).toList = splitPath path.toList ++ names := by
  induction names generalizing path with
  | nil => rw [List.foldl_nil, List.append_nil]
  | cons name rest ih =>
      obtain ⟨isName, others⟩ := List.forall_mem_cons.mp areNames
      rw [List.foldl_cons, ih (extensible_joinPath path isName) others,
        extensible.splitPath_joinPath, isName.splitPath, List.append_assoc,
        List.singleton_append]

/-- A name added to a path becomes its last part.  An empty part at the end of
the path gives way to it. -/
theorem exists_splitPath_joinPath (path : String) {name : String} (isName : IsName name) :
    ∃ lead, splitPath (joinPath path name).toList = lead ++ [name] ∧
      (splitPath path.toList = lead ∨ splitPath path.toList = lead ++ [""]) := by
  by_cases empty : path = ""
  · subst empty
    exact ⟨[], isName.splitPath, Or.inr rfl⟩
  · by_cases slash : path.toList.getLast? = some '/'
    · obtain ⟨front, split⟩ := List.getLast?_eq_some_iff.mp slash
      have joined : (joinPath path name).toList = front ++ '/' :: name.toList := by
        rw [joinPath, if_neg (by simpa using empty), if_pos slash, String.toList_append,
          split, List.append_assoc, List.singleton_append]
      refine ⟨splitPath front, ?_, Or.inr ?_⟩
      · rw [joined, splitPath_append_slash, isName.splitPath]
      · rw [split, splitPath_append_slash]
        rfl
    · refine ⟨splitPath path.toList, ?_, Or.inl rfl⟩
      rw [Extensible.splitPath_joinPath ⟨empty, slash⟩, isName.splitPath]

/-- A path begins where the path that it was added to begins. -/
theorem start_joinPath (volume : Volume) (path : String) {name : String} (isName : IsName name) :
    volume.start (joinPath path name) = volume.start path := by
  have head : (joinPath path name).toList.head? = some '/' ↔
      path.toList.head? = some '/' := by
    by_cases empty : path = ""
    · subst empty
      have joined : joinPath "" name = name := rfl
      rw [joined]
      refine iff_of_false (fun first => isName.noSlash (List.mem_of_head? first)) ?_
      decide
    · have nonempty : path.toList ≠ [] := by simpa using empty
      unfold joinPath
      rw [if_neg (by simpa using empty)]
      split <;> simp [String.toList_append, List.head?_append, List.head?_eq_some_head nonempty]
  simp only [start, head]

theorem Extensible.start_joinPath {path : String} (extensible : Extensible path)
    (volume : Volume) (name : String) :
    volume.start (joinPath path name) = volume.start path := by
  have nonempty : path.toList ≠ [] := by simpa using extensible.nonempty
  have head : (joinPath path name).toList.head? = path.toList.head? := by
    simp [extensible.joinPath_eq, String.toList_append, List.head?_append,
      List.head?_eq_some_head nonempty]
  rw [start, start, head]

theorem Extensible.start_foldl {path : String} (extensible : Extensible path)
    (volume : Volume) {names : List String} (areNames : ∀ name ∈ names, IsName name) :
    volume.start (names.foldl joinPath path) = volume.start path := by
  induction names generalizing path with
  | nil => rfl
  | cons name rest ih =>
      obtain ⟨isName, others⟩ := List.forall_mem_cons.mp areNames
      rw [List.foldl_cons, ih (extensible_joinPath path isName) others,
        extensible.start_joinPath]

/-! ## Where parts lead -/

/-- Where the parts of a path lead from a directory, once every directory on
the way exists. -/
def placeFrom (directory : Place) : (parts : List String) → Place
  | [] => directory
  | part :: rest =>
      if staysInPlace part then placeFrom directory rest
      else if part = ".." then placeFrom directory.dropLast rest
      else placeFrom (directory ++ [part]) rest

/-- The places that a path goes down to on its way from a directory. -/
def stopsFrom (directory : Place) : (parts : List String) → List Place
  | [] => []
  | part :: rest =>
      if staysInPlace part then stopsFrom directory rest
      else if part = ".." then stopsFrom directory.dropLast rest
      else (directory ++ [part]) :: stopsFrom (directory ++ [part]) rest

/-- The place that a path leads to, once every directory on its way exists. -/
def placeOf (volume : Volume) (path : String) : Place :=
  placeFrom (volume.start path) (splitPath path.toList)

theorem placeFrom_append (directory : Place) (first second : List String) :
    placeFrom directory (first ++ second) = placeFrom (placeFrom directory first) second := by
  induction first generalizing directory with
  | nil => rfl
  | cons part rest ih =>
      simp only [List.cons_append, placeFrom, ih]
      split
      · rfl
      · split <;> rfl

theorem stopsFrom_append (directory : Place) (first second : List String) :
    stopsFrom directory (first ++ second) =
      stopsFrom directory first ++ stopsFrom (placeFrom directory first) second := by
  induction first generalizing directory with
  | nil => rfl
  | cons part rest ih =>
      simp only [List.cons_append, placeFrom, stopsFrom, ih]
      split
      · rfl
      · split <;> rfl

/-- Names lead down. -/
theorem placeFrom_names (directory : Place) {names : List String}
    (areNames : ∀ name ∈ names, IsName name) : placeFrom directory names = directory ++ names := by
  induction names generalizing directory with
  | nil => rw [placeFrom, List.append_nil]
  | cons name rest ih =>
      obtain ⟨isName, others⟩ := List.forall_mem_cons.mp areNames
      rw [placeFrom, if_neg (by simp [isName.stays]), if_neg isName.notUp, ih _ others,
        List.append_assoc, List.singleton_append]

theorem stopsFrom_name (directory : Place) {name : String} (isName : IsName name) :
    stopsFrom directory [name] = [placeFrom directory [name]] := by
  rw [stopsFrom, if_neg (by simp [isName.stays]), if_neg isName.notUp, placeFrom,
    if_neg (by simp [isName.stays]), if_neg isName.notUp]
  rfl

/-- The stops at names are the nonempty beginnings of the way down. -/
theorem mem_stopsFrom_names {directory place : Place} {names : List String}
    (areNames : ∀ name ∈ names, IsName name) (stop : place ∈ stopsFrom directory names) :
    ∃ lead, lead ≠ [] ∧ lead <+: names ∧ place = directory ++ lead := by
  induction names generalizing directory with
  | nil => cases stop
  | cons name rest ih =>
      obtain ⟨isName, others⟩ := List.forall_mem_cons.mp areNames
      rw [stopsFrom, if_neg (by simp [isName.stays]), if_neg isName.notUp,
        List.mem_cons] at stop
      rcases stop with rfl | later
      · exact ⟨[name], List.cons_ne_nil _ _, ⟨rest, rfl⟩, rfl⟩
      · obtain ⟨lead, _, front, rfl⟩ := ih others later
        exact ⟨name :: lead, List.cons_ne_nil _ _, List.prefix_cons_inj name |>.mpr front, by simp⟩

end Bindery.Volume
