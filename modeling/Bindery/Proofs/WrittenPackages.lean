import Bindery.Proofs.FilledFolders

/-!
# Written packages

Only the first directory of a package can be refused: where it can be made,
nothing stands in the way of the files below it.  So the files of a volume change
only when the whole package is written.

There is one way round this.  The output path may go down through the new folder
and up again, and a directory that it makes there can take the place of a file.
Nothing is taken back then: the files written before that one stay.
-/

namespace Bindery

open Volume (IsName placeFrom stopsFrom splitPath)
open PackageNames (Apart)

/-! ## Output directories -/

namespace Volume

variable {volume made : Volume} {directory name : String}

/-- What is above a folder is what the path of its directory goes through. -/
theorem exists_lead (directory : String) (isName : IsName name) :
    ∃ lead, splitPath (joinPath directory name).toList = lead ++ [name] ∧
      (∀ place, stopsFrom place (splitPath directory.toList) = stopsFrom place lead) ∧
      ∀ place, placeFrom place (splitPath directory.toList) = placeFrom place lead := by
  obtain ⟨lead, parts, same | trailing⟩ := exists_splitPath_joinPath directory isName
  · exact ⟨lead, parts, fun _ => by rw [same], fun _ => by rw [same]⟩
  · have nothing : ∀ place, stopsFrom place [""] = [] := fun _ => rfl
    refine ⟨lead, parts, fun place => ?_, fun place => ?_⟩
    · rw [trailing, stopsFrom_append, nothing, List.append_nil]
    · rw [trailing, placeFrom_append]
      rfl

/-- The path of a directory goes through a place. -/
def LeadsThrough (volume : Volume) (directory : String) (place : Place) : Prop :=
  place ∈ stopsFrom (volume.start directory) (splitPath directory.toList)

instance (volume : Volume) (directory : String) (place : Place) :
    Decidable (volume.LeadsThrough directory place) :=
  inferInstanceAs (Decidable (_ ∈ _))

variable (wellFormed : volume.WellFormed)
  (new : ¬ volume.Occupied (volume.placeOf (joinPath directory name)))

include wellFormed new

/-- When the directory of a new folder is made, the folder is vacant. -/
theorem vacant_of_makeDirectories (isName : IsName name)
    (succeeds : volume.makeDirectories directory = (.ok (), made)) :
    made.Vacant (joinPath directory name) := by
  obtain ⟨lead, parts, stops, -⟩ := exists_lead directory isName
  have making := volume.made_makeDirectories directory
  rw [succeeds] at making
  refine ⟨extensible_joinPath directory isName, fun stop member => ?_, fun rest => ?_⟩
  · rw [placeOf, parts, placeFrom_append]
    rw [parts, stopsFrom_append, List.mem_append] at member
    rcases member with above | last
    · rw [making.within.start, start_joinPath volume directory isName, ← stops] at above
      rw [makeDirectories, makeFrom_eq_makeStops] at succeeds
      exact Or.inl (isDirectory_makeStops succeeds above)
    · rw [stopsFrom_name _ isName] at last
      exact Or.inr (List.mem_singleton.mp last)
  · have nothing := wellFormed.not_occupied_append new rest
    rw [Occupied, not_or, Bool.not_eq_true] at nothing
    rw [making.files, making.within.placeOf]
    exact nothing.1

/-- Where nothing stands, a directory is made only on the way of the path. -/
theorem isDirectory_makeDirectories_below {rest : Place}
    (round : ¬ volume.LeadsThrough directory (volume.placeOf (joinPath directory name) ++ rest)) :
    (volume.makeDirectories directory).2.isDirectory
      (volume.placeOf (joinPath directory name) ++ rest) = false := by
  rw [← Bool.not_eq_true]
  intro stands
  rcases (volume.made_makeDirectories directory).added _ stands with old | through
  · exact wellFormed.not_occupied_append new rest (Or.inr old)
  · exact round through

omit wellFormed new

/-- The directories of a folder are made before those below it. -/
theorem makeDirectories_fileDirectory (volume : Volume) (directory : String)
    (isName : IsName name) {file : PackageFile} (named : file.Named) :
    volume.makeDirectories (Package.fileDirectory (joinPath directory name) file) =
      match volume.makeDirectories directory with
      | (.error error, made) => (.error error, made)
      | (.ok (), made) =>
          made.makeDirectories (Package.fileDirectory (joinPath directory name) file) := by
  obtain ⟨lead, parts, stops, -⟩ := exists_lead directory isName
  have making : volume.makeDirectories directory =
      volume.makeStops (stopsFrom (volume.start directory) lead) := by
    rw [makeDirectories, makeFrom_eq_makeStops, stops]
  have extensible := extensible_joinPath directory isName
  have split := stopsFrom_append (volume.start directory) lead ([name] ++ file.path.dropLast)
  rw [← List.append_assoc] at split
  rw [named.makeDirectories extensible, parts, start_joinPath volume directory isName, split,
    making]
  rcases result : volume.makeStops (stopsFrom (volume.start directory) lead) with ⟨_ | _, made⟩
  · exact makeStops_append_of_error result _
  · have within := within_of_makeDirectories (making.trans result)
    have again : made.makeStops (stopsFrom (volume.start directory) lead) = (.ok (), made) :=
      makeStops_of_isDirectory fun stop member => isDirectory_makeStops result member
    simp only
    rw [makeStops_append_of_ok result, named.makeDirectories extensible, parts,
      start_joinPath made directory isName, within.start, split, makeStops_append_of_ok again]

end Volume

/-! ## Whole runs -/

/-- What has become of a volume that received files in a folder: they are there,
and nothing else was added to the files or taken from them. -/
structure Volume.Receives (volume : Volume) (folder : String) (files : List PackageFile)
    (after : Volume) : Prop where
  entries : after.files.entries = volume.files.entries ++
    files.map fun file => (volume.placeOf folder ++ file.path, file.contents)
  new : ∀ file ∈ files, volume.files.contains (volume.placeOf folder ++ file.path) = false
  kept : volume.Within after
  found : ∀ file ∈ files, after.read (joinPath folder file.pathText) = .ok file.contents

/-- A package is written as a whole, or one of its files or directories is
refused.  Where the path of the output directory goes through the place of no file,
only the first directory can be. -/
theorem Package.run_write {volume : Volume} (wellFormed : volume.WellFormed) {package : Package}
    {output : String} (isName : IsName package.folder)
    (new : ¬ volume.Occupied (volume.placeOf (package.folderIn output)))
    (filled : package.files ≠ [])
    (named : ∀ file ∈ package.files, file.Named) (apart : package.files.Pairwise Apart) :
    match (package.write Volume.fileSystem output).run volume with
    | (.error error, after) =>
        (∃ path, error = .unwritable path) ∧
          ((∀ file ∈ package.files, ¬ volume.LeadsThrough output
            (volume.placeOf (package.folderIn output) ++ file.path)) → after.files = volume.files)
    | (.ok (), after) => volume.Receives (package.folderIn output) package.files after := by
  obtain ⟨first, rest, split⟩ := List.exists_cons_of_ne_nil filled
  have firstNamed : first.Named := named first (by simp [split])
  have making := volume.made_makeDirectories output
  have first_directory := volume.makeDirectories_fileDirectory output isName firstNamed
  rcases result : volume.makeDirectories output with ⟨error | _, made⟩
  · rw [result] at making first_directory
    rw [Package.write, split, Package.run_writeFiles_cons, Package.folderIn, first_directory]
    exact ⟨⟨_, rfl⟩, fun _ => making.files⟩
  · rw [result] at making first_directory
    have vacant := Volume.vacant_of_makeDirectories wellFormed new isName result
    have place := making.within.placeOf (joinPath output package.folder)
    have same : (package.write Volume.fileSystem output).run volume =
        (package.write Volume.fileSystem output).run made := by
      rw [Package.write, split, Package.run_writeFiles_cons, Package.run_writeFiles_cons,
        Package.folderIn, first_directory]
    have whole : (∀ file ∈ package.files,
        made.isDirectory (made.placeOf (joinPath output package.folder) ++ file.path) = false) →
          ∃ after, (package.write Volume.fileSystem output).run made = (.ok (), after) ∧
            volume.Receives (package.folderIn output) package.files after := by
      intro clear
      obtain ⟨after, writes, holding⟩ :=
        Package.exists_run_writeFiles vacant (.nil _ _) named clear (by simpa using apart)
      refine ⟨after, writes, ?_⟩
      exact {
        entries := by
          rw [← making.files, Package.folderIn, ← place]
          exact holding.files
        new := by
          intro file _
          rw [← making.files, Package.folderIn, ← place]
          exact vacant.noFile file.path
        kept := making.within.trans holding.within
        found := holding.found }
    rw [same]
    rcases ran : (package.write Volume.fileSystem output).run made with ⟨error | _, last⟩
    · refine ⟨Package.exists_unwritable_of_run_writeFiles ran, fun round => ?_⟩
      obtain ⟨after, writes, _⟩ := whole fun file member => by
        have nowhere := Volume.isDirectory_makeDirectories_below wellFormed new (round file member)
        rw [result] at nowhere
        rw [place]
        exact nowhere
      rw [ran] at writes
      cases writes
    · obtain ⟨after, writes, receives⟩ := whole fun file member =>
        Package.isDirectory_of_run_writeFiles vacant.extensible named ran member
      rw [ran] at writes
      cases writes
      exact receives

namespace Options

end Options

end Bindery
