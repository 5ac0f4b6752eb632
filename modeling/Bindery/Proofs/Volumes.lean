import Mathlib.Data.List.Induction
import Bindery.Proofs.OrderedMap
import Bindery.Proofs.Paths

/-!
# What operations do to a volume

Making directories leaves files alone, adds only directories on the way of the
path and fails only where a file stands on that way.  In a volume everything
lies in a directory, so where nothing stands there is nothing below either.
-/

namespace Bindery.Volume

/-! ## Well-formed volumes -/

/-- A file or a directory stands at a place. -/
def Occupied (volume : Volume) (place : Place) : Prop :=
  volume.files.contains place = true ∨ volume.isDirectory place = true

instance (volume : Volume) (place : Place) : Decidable (volume.Occupied place) :=
  inferInstanceAs (Decidable (_ ∨ _))

theorem isDirectory_iff (volume : Volume) (place : Place) :
    volume.isDirectory place = true ↔ place = [] ∨ place ∈ volume.directories := by
  simp only [isDirectory, List.contains_eq_mem, Bool.or_eq_true, decide_eq_true_eq,
    List.isEmpty_iff]

/-- What stands in a volume stands in a directory. -/
structure WellFormed (volume : Volume) : Prop where
  working : volume.isDirectory volume.working = true
  above : ∀ place name, volume.Occupied (place ++ [name]) → volume.isDirectory place = true

/-- Nothing stands below a place at which nothing stands. -/
theorem WellFormed.not_occupied_append {volume : Volume} (wellFormed : volume.WellFormed)
    {place : Place} (free : ¬ volume.Occupied place) (rest : Place) :
    ¬ volume.Occupied (place ++ rest) := by
  induction rest using List.reverseRecOn with
  | nil => rwa [List.append_nil]
  | append_singleton front name ih =>
      intro occupied
      rw [← List.append_assoc] at occupied
      exact ih (Or.inr (wellFormed.above _ name occupied))

/-! ## Reading -/

theorem follow_cons (volume : Volume) (directory : Place) (part : String) (rest : List String) :
    volume.follow directory (part :: rest) =
      if staysInPlace part then volume.follow directory rest
      else if part = ".." then volume.follow directory.dropLast rest
      else if rest.isEmpty then .ok (directory ++ [part])
      else if volume.isDirectory (directory ++ [part]) then
        volume.follow (directory ++ [part]) rest
      else if volume.files.contains (directory ++ [part]) then .error .notADirectory
      else .error .notFound :=
  rfl

theorem read_eq_ok_iff {volume : Volume} {path contents : String} :
    volume.read path = .ok contents ↔
      ∃ place, volume.locate path = .ok place ∧ volume.files.get? place = some contents := by
  unfold read
  cases located : volume.locate path with
  | error error => simp [bind, Except.bind]
  | ok place =>
      cases stored : volume.files.get? place <;> simp [bind, Except.bind, stored]

/-! ## Volumes that grow -/

/-- Nothing of a volume is taken away or changed in a later one. -/
structure Within (volume later : Volume) : Prop where
  working : later.working = volume.working
  directories : ∀ place, volume.isDirectory place = true → later.isDirectory place = true
  files : ∀ place contents,
    volume.files.get? place = some contents → later.files.get? place = some contents

namespace Within

variable {volume later last : Volume}

theorem refl (volume : Volume) : volume.Within volume :=
  ⟨rfl, fun _ old => old, fun _ _ old => old⟩

theorem trans (first : volume.Within later) (second : later.Within last) : volume.Within last where
  working := second.working.trans first.working
  directories := fun place old => second.directories place (first.directories place old)
  files := fun place contents old => second.files place contents (first.files place contents old)

theorem start (within : volume.Within later) (path : String) :
    later.start path = volume.start path := by
  rw [Volume.start, Volume.start, within.working]

theorem placeOf (within : volume.Within later) (path : String) :
    later.placeOf path = volume.placeOf path := by
  rw [Volume.placeOf, Volume.placeOf, within.start]

theorem follow (within : volume.Within later) {directory place : Place} {parts : List String}
    (leads : volume.follow directory parts = .ok place) :
    later.follow directory parts = .ok place := by
  induction parts generalizing directory with
  | nil => exact leads
  | cons part rest ih =>
      rw [follow_cons] at leads ⊢
      by_cases stays : staysInPlace part = true
      · rw [if_pos stays] at leads ⊢
        exact ih leads
      · rw [if_neg stays] at leads ⊢
        by_cases up : part = ".."
        · rw [if_pos up] at leads ⊢
          exact ih leads
        · rw [if_neg up] at leads ⊢
          by_cases last : rest.isEmpty = true
          · rwa [if_pos last] at leads ⊢
          · rw [if_neg last] at leads ⊢
            split at leads
            · rename_i isDirectory
              rw [if_pos (within.directories _ isDirectory)]
              exact ih leads
            · split at leads <;> cases leads

theorem locate (within : volume.Within later) {path : String} {place : Place}
    (located : volume.locate path = .ok place) : later.locate path = .ok place := by
  rw [Volume.locate] at located ⊢
  split at located
  · cases located
  · rename_i nonempty
    rw [if_neg nonempty, within.start]
    exact within.follow located

/-- What can be read from a volume can be read later. -/
theorem read (within : volume.Within later) {path contents : String}
    (held : volume.read path = .ok contents) : later.read path = .ok contents := by
  obtain ⟨place, located, stored⟩ := read_eq_ok_iff.mp held
  exact read_eq_ok_iff.mpr ⟨place, within.locate located, within.files place contents stored⟩

end Within

/-! ## Making directories -/

/-- A volume with one more directory. -/
def withDirectory (volume : Volume) (place : Place) : Volume :=
  { volume with directories := volume.directories ++ [place] }

theorem isDirectory_withDirectory (volume : Volume) (place other : Place) :
    (volume.withDirectory place).isDirectory other = true ↔
      volume.isDirectory other = true ∨ other = place := by
  rw [isDirectory_iff, isDirectory_iff, withDirectory, List.mem_append, List.mem_singleton,
    or_assoc]

theorem within_withDirectory (volume : Volume) (place : Place) :
    volume.Within (volume.withDirectory place) where
  working := rfl
  directories := fun _ old => (isDirectory_withDirectory _ _ _).mpr (Or.inl old)
  files := fun _ _ old => old

theorem makeFrom_cons (volume : Volume) (directory : Place) (part : String) (rest : List String) :
    volume.makeFrom directory (part :: rest) =
      if staysInPlace part then volume.makeFrom directory rest
      else if part = ".." then volume.makeFrom directory.dropLast rest
      else if volume.isDirectory (directory ++ [part]) then
        volume.makeFrom (directory ++ [part]) rest
      else if volume.files.contains (directory ++ [part]) then (.error .notADirectory, volume)
      else (volume.withDirectory (directory ++ [part])).makeFrom (directory ++ [part]) rest :=
  rfl

/-- Make directories at some places, one after another. -/
def makeStops (volume : Volume) : List Place → Except FileError Unit × Volume
  | [] => (.ok (), volume)
  | place :: rest =>
      if volume.isDirectory place then volume.makeStops rest
      else if volume.files.contains place then (.error .notADirectory, volume)
      else (volume.withDirectory place).makeStops rest

/-- Only the stops of a path matter when its directories are made. -/
theorem makeFrom_eq_makeStops (volume : Volume) (directory : Place) (parts : List String) :
    volume.makeFrom directory parts = volume.makeStops (stopsFrom directory parts) := by
  induction parts generalizing volume directory with
  | nil => rfl
  | cons part rest ih =>
      rw [makeFrom_cons, stopsFrom]
      by_cases stays : staysInPlace part = true
      · rw [if_pos stays, if_pos stays, ih]
      · by_cases up : part = ".."
        · rw [if_neg stays, if_neg stays, if_pos up, if_pos up, ih]
        · rw [if_neg stays, if_neg stays, if_neg up, if_neg up, makeStops, ih, ih]

/-- What holds of making directories, whether it comes to an end or not. -/
structure Made (volume : Volume) (stops : List Place) (made : Volume) : Prop where
  files : made.files = volume.files
  within : volume.Within made
  added : ∀ place, made.isDirectory place = true →
    volume.isDirectory place = true ∨ place ∈ stops

theorem made_makeStops (volume : Volume) (stops : List Place) :
    Made volume stops (volume.makeStops stops).2 := by
  induction stops generalizing volume with
  | nil => exact ⟨rfl, .refl _, fun _ old => Or.inl old⟩
  | cons stop rest ih =>
      rw [makeStops]
      split
      · have later := ih volume
        exact { later with
          added := fun place isDirectory =>
            (later.added place isDirectory).imp_right (List.mem_cons_of_mem _) }
      · split
        · exact ⟨rfl, .refl _, fun _ old => Or.inl old⟩
        · have later := ih (volume.withDirectory stop)
          refine ⟨later.files, (within_withDirectory _ _).trans later.within,
            fun place isDirectory => ?_⟩
          · rcases later.added place isDirectory with before | inRest
            · refine ((isDirectory_withDirectory _ _ _).mp before).imp_right ?_
              rintro rfl
              exact List.mem_cons_self
            · exact Or.inr (List.mem_cons_of_mem _ inRest)

/-- What holds of making the directories of a path. -/
theorem made_makeDirectories (volume : Volume) (path : String) :
    Made volume (stopsFrom (volume.start path) (splitPath path.toList))
      (volume.makeDirectories path).2 := by
  rw [makeDirectories, makeFrom_eq_makeStops]
  exact made_makeStops volume _

theorem within_of_makeDirectories {volume made : Volume} {path : String}
    {result : Except FileError Unit} (making : volume.makeDirectories path = (result, made)) :
    volume.Within made := by
  have within := (made_makeDirectories volume path).within
  rwa [making] at within

theorem isDirectory_makeStops {volume made : Volume} {stops : List Place}
    (succeeds : volume.makeStops stops = (.ok (), made)) {stop : Place} (member : stop ∈ stops) :
    made.isDirectory stop = true := by
  induction stops generalizing volume with
  | nil => cases member
  | cons first rest ih =>
      have isLast : volume.isDirectory first = true →
          volume.makeStops rest = (.ok (), made) → made.isDirectory stop = true := by
        intro isDirectory later
        rcases List.mem_cons.mp member with rfl | inRest
        · have kept := (made_makeStops volume rest).within.directories stop isDirectory
          rwa [later] at kept
        · exact ih later inRest
      rw [makeStops] at succeeds
      split at succeeds
      · rename_i isDirectory
        exact isLast isDirectory succeeds
      · split at succeeds
        · cases succeeds
        · rcases List.mem_cons.mp member with rfl | inRest
          · have kept := (made_makeStops (volume.withDirectory stop) rest).within.directories stop
              ((isDirectory_withDirectory _ _ _).mpr (Or.inr rfl))
            rwa [succeeds] at kept
          · exact ih succeeds inRest

/-- Directories can be made where no file stands in the way. -/
theorem exists_makeStops {volume : Volume} {stops : List Place}
    (clear : ∀ stop ∈ stops,
      volume.isDirectory stop = true ∨ volume.files.contains stop = false) :
    ∃ made, volume.makeStops stops = (.ok (), made) := by
  induction stops generalizing volume with
  | nil => exact ⟨volume, rfl⟩
  | cons stop rest ih =>
      obtain ⟨here, later⟩ := List.forall_mem_cons.mp clear
      rw [makeStops]
      split
      · exact ih later
      · rename_i missing
        rw [if_neg (by simp [here.resolve_left missing])]
        refine ih fun other inRest => (later other inRest).imp_left fun old => ?_
        exact (isDirectory_withDirectory _ _ _).mpr (Or.inl old)

/-- Nothing is made where every directory stands already. -/
theorem makeStops_of_isDirectory {volume : Volume} {stops : List Place}
    (standing : ∀ stop ∈ stops, volume.isDirectory stop = true) :
    volume.makeStops stops = (.ok (), volume) := by
  induction stops with
  | nil => rfl
  | cons stop rest ih =>
      obtain ⟨here, later⟩ := List.forall_mem_cons.mp standing
      rw [makeStops, if_pos here, ih later]

theorem makeStops_append_of_ok {volume made : Volume} {first : List Place}
    (succeeds : volume.makeStops first = (.ok (), made)) (second : List Place) :
    volume.makeStops (first ++ second) = made.makeStops second := by
  induction first generalizing volume with
  | nil =>
      cases succeeds
      rfl
  | cons stop rest ih =>
      rw [makeStops] at succeeds
      rw [List.cons_append, makeStops]
      split at succeeds
      · rename_i isDirectory
        rw [if_pos isDirectory, ih succeeds]
      · rename_i new
        split at succeeds
        · cases succeeds
        · rename_i noFile
          rw [if_neg new, if_neg noFile, ih succeeds]

theorem makeStops_append_of_error {volume made : Volume} {first : List Place} {error : FileError}
    (fails : volume.makeStops first = (.error error, made)) (second : List Place) :
    volume.makeStops (first ++ second) = (.error error, made) := by
  induction first generalizing volume with
  | nil => cases fails
  | cons stop rest ih =>
      rw [makeStops] at fails
      rw [List.cons_append, makeStops]
      split at fails
      · rename_i isDirectory
        rw [if_pos isDirectory, ih fails]
      · rename_i new
        split at fails
        · rename_i file
          rw [if_neg new, if_pos file, fails]
        · rename_i noFile
          rw [if_neg new, if_neg noFile, ih fails]

/-! ## Writing files -/

/-- A volume with a file at a place. -/
def withFile (volume : Volume) (place : Place) (contents : String) : Volume :=
  { volume with files := volume.files.insert place contents }

theorem write_of_locate {volume : Volume} {path : String} {place : Place}
    (located : volume.locate path = .ok place) (contents : String) :
    volume.write path contents =
      if volume.isDirectory place then (.error .isADirectory, volume)
      else (.ok (), volume.withFile place contents) := by
  rw [write, located]
  rfl

theorem within_withFile (volume : Volume) {place : Place}
    (new : volume.files.contains place = false) (contents : String) :
    volume.Within (volume.withFile place contents) where
  working := rfl
  directories := fun _ old => old
  files := by
    intro other held stored
    rw [withFile, OrderedMap.get?_insert, if_neg]
    · exact stored
    · rintro rfl
      rw [OrderedMap.contains, stored] at new
      cases new

/-- A new file is read back. -/
theorem read_withFile {volume : Volume} {path : String} {place : Place}
    (new : volume.files.contains place = false) (located : volume.locate path = .ok place)
    (contents : String) : (volume.withFile place contents).read path = .ok contents := by
  refine read_eq_ok_iff.mpr ⟨place, (within_withFile volume new contents).locate located, ?_⟩
  rw [withFile, OrderedMap.get?_insert, if_pos rfl]

/-! ## Following paths -/

/-- A path can be followed to a name in its last directory when all directories
on its way stand. -/
theorem follow_append_name {volume : Volume} {directory : Place} {parts : List String}
    (standing : ∀ stop ∈ stopsFrom directory parts, volume.isDirectory stop = true)
    {name : String} (isName : IsName name) :
    volume.follow directory (parts ++ [name]) = .ok (placeFrom directory parts ++ [name]) := by
  induction parts generalizing directory with
  | nil =>
      rw [List.nil_append, follow, if_neg (by simp [isName.stays]), if_neg isName.notUp]
      rfl
  | cons part rest ih =>
      rw [List.cons_append, follow, placeFrom]
      rw [stopsFrom] at standing
      by_cases stays : staysInPlace part = true
      · rw [if_pos stays] at standing ⊢
        rw [if_pos stays, ih standing]
      · rw [if_neg stays] at standing ⊢
        rw [if_neg stays]
        by_cases up : part = ".."
        · rw [if_pos up] at standing ⊢
          rw [if_pos up, ih standing]
        · rw [if_neg up] at standing ⊢
          rw [if_neg up]
          obtain ⟨here, later⟩ := List.forall_mem_cons.mp standing
          rw [if_neg (by simp), if_pos here, ih later]

end Bindery.Volume
