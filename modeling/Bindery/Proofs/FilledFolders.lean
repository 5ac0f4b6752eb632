import Bindery.Proofs.PackagePaths
import Bindery.Proofs.Volumes

/-!
# Folders that are filled

Files are written into a folder one after another, each after the directories
above it.  Where no file stands in the folder and no directory at the place of a
file, every one of them is written: the directories that are made belong to
files of the same package, and none of these lies in the way of another.
-/

namespace Bindery

open Volume (IsName Extensible placeFrom stopsFrom splitPath)
open PackageNames (Apart)

/-! ## Vacant folders -/

namespace Volume

/-- A folder that can be filled: no file stands at its place or below, and what
is above it stands. -/
structure Vacant (volume : Volume) (folder : String) : Prop where
  extensible : Extensible folder
  standing : ∀ stop ∈ stopsFrom (volume.start folder) (splitPath folder.toList),
    volume.isDirectory stop = true ∨ stop = volume.placeOf folder
  noFile : ∀ rest, volume.files.contains (volume.placeOf folder ++ rest) = false

/-- The way to something below a vacant folder. -/
theorem Vacant.cases_stop {volume : Volume} {folder : String} (vacant : volume.Vacant folder)
    {names : List String} (areNames : ∀ name ∈ names, IsName name) {stop : Place}
    (member : stop ∈ stopsFrom (volume.start folder) (splitPath folder.toList ++ names)) :
    volume.isDirectory stop = true ∨
      ∃ lead, lead <+: names ∧ stop = volume.placeOf folder ++ lead := by
  rw [stopsFrom_append, List.mem_append] at member
  rcases member with above | below
  · rcases vacant.standing stop above with old | rfl
    · exact Or.inl old
    · exact Or.inr ⟨[], List.nil_prefix, (List.append_nil _).symm⟩
  · obtain ⟨lead, _, front, same⟩ := mem_stopsFrom_names areNames below
    exact Or.inr ⟨lead, front, same⟩

theorem placeFrom_below {volume : Volume} {folder : String} {names : List String}
    (areNames : ∀ name ∈ names, IsName name) :
    placeFrom (volume.start folder) (splitPath folder.toList ++ names) =
      volume.placeOf folder ++ names := by
  rw [placeFrom_append, placeFrom_names _ areNames]
  rfl

end Volume

/-! ## Writing one file -/

namespace PackageFile.Named

variable {file : PackageFile}

theorem names_dropLast (named : file.Named) : ∀ part ∈ file.path.dropLast, IsName part :=
  fun part member => named.names part (List.dropLast_subset _ member)

theorem not_prefix_dropLast (named : file.Named) : ¬ file.path <+: file.path.dropLast := by
  intro front
  have short := front.length_le
  have long := List.length_pos_of_ne_nil named.nonempty
  rw [List.length_dropLast] at short
  omega

/-- The directory of a file is made stop by stop. -/
theorem makeDirectories (named : file.Named) {folder : String} (extensible : Extensible folder)
    (volume : Volume) :
    volume.makeDirectories (Package.fileDirectory folder file) =
      volume.makeStops
        (stopsFrom (volume.start folder) (splitPath folder.toList ++ file.path.dropLast)) := by
  rw [Volume.makeDirectories, Package.fileDirectory,
    extensible.start_foldl volume named.names_dropLast,
    extensible.splitPath_foldl named.names_dropLast, Volume.makeFrom_eq_makeStops]

/-- A file is found where the directories above it stand. -/
theorem locate (named : file.Named) {folder : String} (extensible : Extensible folder)
    {volume : Volume}
    (standing : ∀ stop ∈ stopsFrom (volume.start folder)
      (splitPath folder.toList ++ file.path.dropLast), volume.isDirectory stop = true) :
    volume.locate (joinPath folder file.pathText) = .ok (volume.placeOf folder ++ file.path) := by
  have nonempty : ¬ (joinPath folder file.pathText).isEmpty = true := by
    rw [extensible.joinPath_eq]
    simp
  obtain ⟨front, last, split⟩ := List.eq_nil_or_concat file.path |>.resolve_left named.nonempty
  rw [List.concat_eq_append] at split
  have isName : IsName last := named.names last (by simp [split])
  have whole : splitPath folder.toList ++ file.path =
      (splitPath folder.toList ++ file.path.dropLast) ++ [last] := by
    rw [split, List.dropLast_concat, List.append_assoc]
  rw [Volume.locate, if_neg nonempty, extensible.splitPath_joinPath, named.splitPath_pathText,
    extensible.start_joinPath, whole, Volume.follow_append_name standing isName,
    Volume.placeFrom_below named.names_dropLast, split, List.dropLast_concat, List.append_assoc]

/-- A file is found in its directory when that was made. -/
theorem locate_of_makeDirectories (named : file.Named) {folder : String}
    (extensible : Extensible folder) {volume made : Volume}
    (succeeds : volume.makeDirectories (Package.fileDirectory folder file) = (.ok (), made)) :
    made.locate (joinPath folder file.pathText) = .ok (made.placeOf folder ++ file.path) := by
  have within := Volume.within_of_makeDirectories succeeds
  rw [named.makeDirectories extensible] at succeeds
  apply named.locate extensible
  intro stop member
  rw [within.start] at member
  exact Volume.isDirectory_makeStops succeeds member

end PackageFile.Named

/-- What has become of a volume in which some files were written into a vacant
folder. -/
structure Volume.Holding (volume : Volume) (folder : String) (written : List PackageFile)
    (now : Volume) : Prop where
  files : now.files.entries = volume.files.entries ++
    written.map fun file => (volume.placeOf folder ++ file.path, file.contents)
  within : volume.Within now
  below : ∀ rest, now.isDirectory (volume.placeOf folder ++ rest) = true →
    volume.isDirectory (volume.placeOf folder ++ rest) = true ∨
      ∃ file ∈ written, rest <+: file.path.dropLast
  /-- Every file that was written is found again. -/
  found : ∀ file ∈ written, now.read (joinPath folder file.pathText) = .ok file.contents

namespace Volume

variable {volume now : Volume} {folder : String} {written : List PackageFile} {file : PackageFile}

theorem Holding.nil (volume : Volume) (folder : String) : volume.Holding folder [] volume where
  files := (List.append_nil _).symm
  within := .refl volume
  below := fun _ old => Or.inl old
  found := fun _ member => absurd member List.not_mem_nil

theorem Holding.exists_of_contains (vacant : volume.Vacant folder)
    (holding : volume.Holding folder written now) {rest : List String}
    (file : now.files.contains (volume.placeOf folder ++ rest) = true) :
    ∃ other ∈ written, other.path = rest := by
  rw [OrderedMap.contains_iff_mem_keys, OrderedMap.keys, holding.files, List.map_append,
    List.map_map, List.mem_append] at file
  rcases file with old | new
  · have stands := (OrderedMap.contains_iff_mem_keys _ _).mpr old
    rw [vacant.noFile rest] at stands
    cases stands
  · obtain ⟨other, member, same⟩ := List.mem_map.mp new
    exact ⟨other, member, List.append_cancel_left same⟩

/-- The directory of a further file can be made. -/
theorem Holding.exists_makeDirectories (vacant : volume.Vacant folder)
    (holding : volume.Holding folder written now) (named : file.Named)
    (apart : ∀ other ∈ written, Apart other file) :
    ∃ made, now.makeDirectories (Package.fileDirectory folder file) = (.ok (), made) := by
  rw [named.makeDirectories vacant.extensible, holding.within.start]
  apply exists_makeStops
  intro stop member
  rcases vacant.cases_stop named.names_dropLast member with old | ⟨lead, front, rfl⟩
  · exact Or.inl (holding.within.directories stop old)
  · right
    by_contra present
    rw [Bool.not_eq_false] at present
    obtain ⟨other, inWritten, rfl⟩ := holding.exists_of_contains vacant present
    exact (apart other inWritten).1 (front.trans (List.dropLast_prefix _))

/-- Below the folder only the directories of its files are made. -/
theorem Holding.cases_of_made (vacant : volume.Vacant folder)
    (holding : volume.Holding folder written now) (named : file.Named) {made : Volume}
    (making : now.Made
      (stopsFrom (now.start folder) (splitPath folder.toList ++ file.path.dropLast)) made)
    {rest : List String} (isDirectory : made.isDirectory (volume.placeOf folder ++ rest) = true) :
    volume.isDirectory (volume.placeOf folder ++ rest) = true ∨
      ∃ other ∈ written ++ [file], rest <+: other.path.dropLast := by
  rcases making.added _ isDirectory with before | new
  · refine (holding.below _ before).imp_right ?_
    rintro ⟨other, inWritten, front⟩
    exact ⟨other, List.mem_append_left _ inWritten, front⟩
  · rw [holding.within.start] at new
    refine (vacant.cases_stop named.names_dropLast new).imp_right ?_
    rintro ⟨lead, front, same⟩
    rw [← List.append_cancel_left same] at front
    exact ⟨file, List.mem_append_right _ List.mem_cons_self, front⟩

/-- In the directory that was made, nothing stands where a further file goes,
unless a directory stood there before. -/
theorem Holding.not_occupied (vacant : volume.Vacant folder)
    (holding : volume.Holding folder written now) (named : file.Named)
    (clear : volume.isDirectory (volume.placeOf folder ++ file.path) = false)
    (apart : ∀ other ∈ written, Apart other file) {made : Volume}
    (making : now.Made
      (stopsFrom (now.start folder) (splitPath folder.toList ++ file.path.dropLast)) made) :
    ¬ made.Occupied (volume.placeOf folder ++ file.path) := by
  rintro (present | isDirectory)
  · rw [making.files] at present
    obtain ⟨other, inWritten, same⟩ := holding.exists_of_contains vacant present
    exact (apart other inWritten).1 (same ▸ List.prefix_rfl)
  · rcases holding.cases_of_made vacant named making isDirectory with
      old | ⟨other, member, front⟩
    · rw [clear] at old
      cases old
    · rcases List.mem_append.mp member with inWritten | last
      · exact (apart other inWritten).2 (front.trans (List.dropLast_prefix _))
      · rw [List.mem_singleton.mp last] at front
        exact named.not_prefix_dropLast front

/-- In the directory that was made a further file can be written. -/
theorem Holding.write (vacant : volume.Vacant folder)
    (holding : volume.Holding folder written now) (named : file.Named)
    (clear : volume.isDirectory (volume.placeOf folder ++ file.path) = false)
    (apart : ∀ other ∈ written, Apart other file) {made : Volume}
    (succeeds : now.makeDirectories (Package.fileDirectory folder file) = (.ok (), made)) :
    ∃ after, made.write (joinPath folder file.pathText) file.contents = (.ok (), after) ∧
      volume.Holding folder (written ++ [file]) after := by
  have located := named.locate_of_makeDirectories vacant.extensible succeeds
  rw [named.makeDirectories vacant.extensible] at succeeds
  have making := made_makeStops now
    (stopsFrom (now.start folder) (splitPath folder.toList ++ file.path.dropLast))
  rw [succeeds] at making
  have within := holding.within.trans making.within
  rw [within.placeOf] at located
  have free := holding.not_occupied vacant named clear apart making
  rw [Occupied, not_or, Bool.not_eq_true] at free
  obtain ⟨absent, notDirectory⟩ := free
  have writing := made.within_withFile absent file.contents
  refine ⟨made.withFile (volume.placeOf folder ++ file.path) file.contents, ?_, ?_⟩
  · rw [write_of_locate located, if_neg notDirectory]
  · refine ⟨?_, within.trans writing,
      fun rest isDirectory => holding.cases_of_made vacant named making isDirectory,
      fun other member => ?_⟩
    · rw [withFile, OrderedMap.entries_insert_of_not_contains absent, making.files, holding.files,
        List.map_append, List.append_assoc]
      rfl
    · rcases List.mem_append.mp member with inWritten | last
      · exact (making.within.trans writing).read (holding.found other inWritten)
      · rw [List.mem_singleton.mp last]
        exact read_withFile absent located file.contents

end Volume

/-! ## Runs on a volume -/

namespace Volume

theorem run_bind {α β : Type} (first : StateM Volume α) (next : α → StateM Volume β)
    (volume : Volume) :
    (first >>= next).run volume = (next (first.run volume).1).run (first.run volume).2 :=
  rfl

theorem run_makeDirectories (volume : Volume) (path : String) :
    (fileSystem.makeDirectories path).run volume = volume.makeDirectories path :=
  rfl

theorem run_write (volume : Volume) (path contents : String) :
    (fileSystem.write path contents).run volume = volume.write path contents :=
  rfl

end Volume

namespace Package

theorem run_writeFiles_cons (folder : String) (file : PackageFile) (rest : List PackageFile)
    (volume : Volume) :
    (writeFiles Volume.fileSystem folder (file :: rest)).run volume =
      match volume.makeDirectories (fileDirectory folder file) with
      | (.error _, made) => (.error (.unwritable (fileDirectory folder file)), made)
      | (.ok (), made) =>
          match made.write (joinPath folder file.pathText) file.contents with
          | (.error _, after) => (.error (.unwritable (joinPath folder file.pathText)), after)
          | (.ok (), after) => (writeFiles Volume.fileSystem folder rest).run after := by
  simp only [writeFiles, Volume.run_bind, Volume.run_makeDirectories]
  rcases volume.makeDirectories (fileDirectory folder file) with ⟨_ | _, made⟩
  · rfl
  · simp only [Volume.run_bind, Volume.run_write]
    rcases made.write (joinPath folder file.pathText) file.contents with ⟨_ | _, after⟩
    · rfl
    · rfl

/-- Into a vacant folder all files are written for which no directory stands in
the way. -/
theorem exists_run_writeFiles {volume now : Volume} {folder : String}
    (vacant : volume.Vacant folder) {written files : List PackageFile}
    (holding : volume.Holding folder written now) (named : ∀ file ∈ files, file.Named)
    (clear : ∀ file ∈ files, volume.isDirectory (volume.placeOf folder ++ file.path) = false)
    (apart : (written ++ files).Pairwise Apart) :
    ∃ after, (writeFiles Volume.fileSystem folder files).run now = (.ok (), after) ∧
      volume.Holding folder (written ++ files) after := by
  induction files generalizing written now with
  | nil => exact ⟨now, rfl, by rwa [List.append_nil]⟩
  | cons file rest ih =>
      obtain ⟨isNamed, others⟩ := List.forall_mem_cons.mp named
      obtain ⟨isClear, othersClear⟩ := List.forall_mem_cons.mp clear
      have fromWritten : ∀ other ∈ written, Apart other file := fun other member =>
        (List.pairwise_append.mp apart).2.2 other member file List.mem_cons_self
      obtain ⟨made, directories⟩ := holding.exists_makeDirectories vacant isNamed fromWritten
      obtain ⟨next, writes, holdsNext⟩ :=
        holding.write vacant isNamed isClear fromWritten directories
      rw [run_writeFiles_cons, directories]
      simp only [writes]
      have split : written ++ file :: rest = (written ++ [file]) ++ rest := by simp
      rw [split] at apart ⊢
      exact ih holdsNext others othersClear apart

/-- What keeps files from being written is a directory or a file in the way. -/
theorem exists_unwritable_of_run_writeFiles {folder : String} {files : List PackageFile}
    {volume after : Volume} {error : RunError}
    (fails : (writeFiles Volume.fileSystem folder files).run volume = (.error error, after)) :
    ∃ path, error = .unwritable path := by
  induction files generalizing volume with
  | nil => cases fails
  | cons file rest ih =>
      rw [run_writeFiles_cons] at fails
      split at fails
      · cases fails
        exact ⟨_, rfl⟩
      · split at fails
        · cases fails
          exact ⟨_, rfl⟩
        · exact ih fails

/-- Where all files are written, no directory stood in the place of one. -/
theorem isDirectory_of_run_writeFiles {folder : String} (extensible : Extensible folder)
    {files : List PackageFile} (named : ∀ file ∈ files, file.Named) {volume after : Volume}
    (succeeds : (writeFiles Volume.fileSystem folder files).run volume = (.ok (), after))
    {file : PackageFile} (member : file ∈ files) :
    volume.isDirectory (volume.placeOf folder ++ file.path) = false := by
  induction files generalizing volume with
  | nil => cases member
  | cons first rest ih =>
      obtain ⟨isNamed, others⟩ := List.forall_mem_cons.mp named
      rw [run_writeFiles_cons] at succeeds
      rcases directories : volume.makeDirectories (fileDirectory folder first) with ⟨_ | _, made⟩
      · rw [directories] at succeeds
        cases succeeds
      · have within := Volume.within_of_makeDirectories directories
        have located := isNamed.locate_of_makeDirectories extensible directories
        simp only [directories, Volume.write_of_locate located] at succeeds
        by_cases stands : made.isDirectory (made.placeOf folder ++ first.path) = true
        · rw [if_pos stands] at succeeds
          cases succeeds
        · rw [if_neg stands] at succeeds
          have clear : made.isDirectory (made.placeOf folder ++ file.path) = false := by
            rcases List.mem_cons.mp member with rfl | inRest
            · exact Bool.eq_false_iff.mpr stands
            · have later := ih others succeeds inRest
              exact later
          rw [within.placeOf] at clear
          exact Bool.eq_false_iff.mpr fun old =>
            Bool.eq_false_iff.mp clear (within.directories _ old)

end Package

end Bindery
