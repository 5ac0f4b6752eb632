import Bindery.Proofs.PackagePaths

/-!
# Paths that stay in the package

A package is written below its folder.  Whatever the library and the class are
called, the folder is one directory below the place that receives it, the files
lie in that folder or in a directory of it, and no file takes the place of
another one.  So a package overwrites nothing outside of its folder.
-/

namespace Bindery

open Volume (IsName splitPath)

/-! ## Names inside of a directory -/

/-- A text that leads from a directory to something right in it, on systems that
separate the parts of a path by slashes and on those that take backslashes. -/
structure StaysInside (part : String) : Prop where
  nonempty : part ≠ ""
  notHere : part ≠ "."
  notUp : part ≠ ".."
  noSlash : '/' ∉ part.toList
  noBackslash : '\\' ∉ part.toList

theorem StaysInside.of_isName {part : String} (isName : IsName part) (free : SlashFree part) :
    StaysInside part where
  nonempty := isName.ne_empty
  notHere := by
    rintro rfl
    exact absurd isName.stays (by decide)
  notUp := isName.notUp
  noSlash := isName.noSlash
  noBackslash := fun member => (free _ member).2 rfl

theorem staysInside_packageFolder {library : String}
    (libraryName : Options.isLibraryName library = true) (millis : Nat) :
    StaysInside (packageFolder library millis) := by
  have lead : SlashFree "jerryscript-mbed-" := by decide
  have hyphen : SlashFree "-" := by decide
  exact .of_isName (isName_packageFolder libraryName millis)
    (((lead.append (slashFree_of_isLibraryName libraryName)).append hyphen).append
      (slashFree_toString millis))

namespace PackageNames

variable {names : PackageNames}

theorem Valid.slashFree_package (valid : names.Valid) : SlashFree names.package :=
  .append (by decide) (slashFree_of_isLibraryName valid.libraryName)

theorem Valid.slashFree_classHeader (valid : names.Valid) : SlashFree names.classHeader :=
  .append (.append (by decide) (slashFree_lowercase valid.identifier)) (by decide)

theorem Valid.slashFree_libraryHeader (valid : names.Valid) : SlashFree names.libraryHeader :=
  .append (.append (by decide) (slashFree_of_isLibraryName valid.libraryName)) (by decide)

theorem Valid.slashFree_sourceFile (valid : names.Valid) : SlashFree names.sourceFile :=
  .append (.append (by decide) (slashFree_lowercase valid.identifier)) (by decide)

/-- A file lies in the folder or in a directory of it, and nowhere else. -/
theorem Valid.path_of_mem_files (valid : names.Valid) {bindings : ClassBindings}
    {file : PackageFile} (member : file ∈ names.files bindings) :
    (file.path.length = 1 ∨ file.path.length = 2) ∧ ∀ part ∈ file.path, StaysInside part := by
  have named := valid.named_of_mem_files member
  have source : SlashFree "source" := by decide
  have buildName : SlashFree "mbedjs.json" := by decide
  have packageName : SlashFree "package.json" := by decide
  have parts : (file.path.length = 1 ∨ file.path.length = 2) ∧
      ∀ part ∈ file.path, SlashFree part := by
    simp only [files, List.mem_cons, List.not_mem_nil, or_false] at member
    rcases member with rfl | rfl | rfl | rfl | rfl <;>
      simp [valid.slashFree_package, valid.slashFree_classHeader, valid.slashFree_libraryHeader,
        valid.slashFree_sourceFile, source, buildName, packageName]
  exact ⟨parts.1, fun part inPath => .of_isName (named.names part inPath) (parts.2 part inPath)⟩

end PackageNames

/-! ## Whole packages -/

/-- A path that leads to a file in a folder or in a directory of it. -/
structure LeadsInside (path : String) : Prop where
  relative : path.toList.head? ≠ some '/' ∧ path.toList.head? ≠ some '\\'
  count : (splitPath path.toList).length = 1 ∨ (splitPath path.toList).length = 2
  parts : ∀ part ∈ splitPath path.toList, StaysInside part

/-- A path of parts that stay inside begins with none of the slashes. -/
theorem relative_of_staysInside {path : String}
    (parts : ∀ part ∈ splitPath path.toList, StaysInside part) :
    path.toList.head? ≠ some '/' ∧ path.toList.head? ≠ some '\\' := by
  cases chars : path.toList with
  | nil => simp
  | cons first rest =>
      rw [chars] at parts
      constructor
      · rintro ⟨rfl⟩
        have empty : "" ∈ splitPath ('/' :: rest) := by
          rw [splitPath]
          exact List.mem_cons_self
        exact (parts "" empty).nonempty rfl
      · rintro ⟨rfl⟩
        obtain ⟨part, others, _, split⟩ := Volume.splitPath_cons_of_ne (c := '\\') (by decide) rest
        rw [split] at parts
        apply (parts _ List.mem_cons_self).noBackslash
        simp [String.toList_append]

/-- A package that writes nothing outside of its folder, and no file twice. -/
structure Package.Contained (package : Package) : Prop where
  folder : StaysInside package.folder
  count : package.files.length = 5
  distinct : (package.files.map PackageFile.pathText).Nodup
  inside : ∀ file ∈ package.files, LeadsInside file.pathText

/-- The paths of files that are told apart by their parts are told apart as
texts. -/
theorem nodup_pathTexts {files : List PackageFile} (named : ∀ file ∈ files, file.Named)
    (distinct : (files.map PackageFile.path).Nodup) :
    (files.map PackageFile.pathText).Nodup := by
  have split : (files.map PackageFile.pathText).map (fun text => splitPath text.toList) =
      files.map PackageFile.path := by
    rw [List.map_map]
    exact List.map_congr_left fun file member => (named file member).splitPath_pathText
  rw [← split] at distinct
  exact List.Pairwise.of_map _ (fun _ _ apart same => apart (by rw [same])) distinct

/-- Every package is contained, whatever its library and its class are called. -/
theorem Options.package_contained {options : Options} {dump : String} {millis : Nat}
    {package : Package} (made : options.package dump millis = .ok package) :
    package.Contained := by
  obtain ⟨folder, names, valid, files, rfl⟩ := exists_names made
  have named : ∀ file ∈ package.files, file.Named := fun file member =>
    valid.named_of_mem_files (files ▸ member)
  constructor
  case folder =>
    rw [folder]
    exact staysInside_packageFolder valid.libraryName millis
  case count =>
    rw [files]
    rfl
  case distinct =>
    apply nodup_pathTexts named
    rw [files]
    exact PackageNames.nodup_paths (valid.pairwise_apart package.bindings)
  case inside =>
    intro file member
    have split := (named file member).splitPath_pathText
    obtain ⟨count, parts⟩ := valid.path_of_mem_files (files ▸ member)
    rw [← split] at count parts
    exact ⟨relative_of_staysInside parts, count, parts⟩

/-- A library that is called like the directory above is no way out. -/
theorem Options.package_contained_dots :
    let options : Options := {
      symbols := "symbols.txt", className := "Lamp", library? := some ".." }
    let dump := "<0><b>:Abbrev Number:1 (DW_TAG_class_type)\n  <10>DW_AT_name:Lamp\n"
    ∃ package, options.package dump 7 = .ok package ∧
      package.folder = "jerryscript-mbed-..-7" ∧
      package.files.map PackageFile.pathText =
        ["mbed-js-../mbed-js-lamp.h", "mbed-js-../mbed-js-..-lib.h",
          "source/mbed-js-lamp.cpp", "mbedjs.json", "package.json"] ∧
      package.Contained := by
  intro options dump
  have succeeds : (options.package dump 7).toOption.map (fun package =>
      (package.folder, package.files.map PackageFile.pathText)) = some (
        "jerryscript-mbed-..-7",
        ["mbed-js-../mbed-js-lamp.h", "mbed-js-../mbed-js-..-lib.h",
          "source/mbed-js-lamp.cpp", "mbedjs.json", "package.json"]) := by
    decide +kernel
  cases made : options.package dump 7 with
  | error reason =>
      rw [made] at succeeds
      cases succeeds
  | ok package =>
      rw [made] at succeeds
      obtain ⟨folder, paths⟩ := Prod.mk.inj (Option.some.inj succeeds)
      exact ⟨package, rfl, folder, paths, package_contained made⟩

end Bindery
