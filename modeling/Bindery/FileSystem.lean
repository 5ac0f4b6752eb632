import Bindery.OrderedMap
import Bindery.RunError

/-!
# Files

A run reaches files through a small set of operations, so that the same run can
be done on real files or on a *volume*: a store of files and directories held as
a value.

A path is text.  Its parts stand between slashes; an empty part and `.` stay in
place, and `..` goes up.  Everything before the last part must be a directory
that exists.
-/

namespace Bindery

/-- The operations on files that a run uses, in some monad. -/
structure FileSystem (m : Type → Type) where
  /-- The contents of a file. -/
  read : (path : String) → m (Except FileError String)
  /-- Whether a path names a file. -/
  isFile : (path : String) → m Bool
  /-- Make a directory and all directories above it that are missing. -/
  makeDirectories : (path : String) → m (Except FileError Unit)
  /-- Give a file contents, whether it exists or not. -/
  write : (path contents : String) → m (Except FileError Unit)

/-! ## Volumes -/

/-- The parts of a place, from the top of a volume downwards. -/
abbrev Place := List String

/-- Files and directories held as a value. -/
structure Volume where
  files : OrderedMap Place String := {}
  directories : List Place := []
  /-- The directory at which relative paths begin. -/
  working : Place := []
  deriving DecidableEq, Repr

namespace Volume

/-- Whether a place is a directory.  The top always is one. -/
def isDirectory (volume : Volume) (place : Place) : Bool :=
  place.isEmpty || volume.directories.contains place

/-- Split characters at slashes. -/
def splitPath (chars : List Char) : List String :=
  match chars with
  | [] => [""]
  | '/' :: rest => "" :: splitPath rest
  | c :: rest =>
      match splitPath rest with
      | [] => [String.singleton c]
      | part :: parts => (String.singleton c ++ part) :: parts

/-- The place at which a path begins. -/
def start (volume : Volume) (path : String) : Place :=
  if path.toList.head? = some '/' then [] else volume.working

/-- Whether a part of a path stays where it is. -/
def staysInPlace (part : String) : Bool :=
  part.isEmpty || part = "."

/-- Follow the parts of a path from a directory.  The last part may name
nothing. -/
def follow (volume : Volume) (directory : Place) : (parts : List String) → Except FileError Place
  | [] => .ok directory
  | part :: rest =>
      if staysInPlace part then volume.follow directory rest
      else if part = ".." then volume.follow directory.dropLast rest
      else
        let next := directory ++ [part]
        if rest.isEmpty then .ok next
        else if volume.isDirectory next then volume.follow next rest
        else if volume.files.contains next then .error .notADirectory
        else .error .notFound

/-- The place that a path names. -/
def locate (volume : Volume) (path : String) : Except FileError Place :=
  if path.isEmpty then .error .notFound
  else volume.follow (volume.start path) (splitPath path.toList)

/-- The contents of the file at a path. -/
def read (volume : Volume) (path : String) : Except FileError String := do
  let place ← volume.locate path
  match volume.files.get? place with
  | some contents => .ok contents
  | none => .error (if volume.isDirectory place then .isADirectory else .notFound)

/-- Whether a path names a file. -/
def isFile (volume : Volume) (path : String) : Bool :=
  match volume.locate path with
  | .ok place => volume.files.contains place
  | .error _ => false

/-- Follow the parts of a path from a directory and make what is missing.
Directories made before a failure stay. -/
def makeFrom (volume : Volume) (directory : Place) :
    (parts : List String) → Except FileError Unit × Volume
  | [] => (.ok (), volume)
  | part :: rest =>
      if staysInPlace part then volume.makeFrom directory rest
      else if part = ".." then volume.makeFrom directory.dropLast rest
      else
        let next := directory ++ [part]
        if volume.isDirectory next then volume.makeFrom next rest
        else if volume.files.contains next then (.error .notADirectory, volume)
        else
          let made := { volume with directories := volume.directories ++ [next] }
          made.makeFrom next rest

/-- Make the directory at a path with all directories above it. -/
def makeDirectories (volume : Volume) (path : String) : Except FileError Unit × Volume :=
  volume.makeFrom (volume.start path) (splitPath path.toList)

/-- Give the file at a path contents. -/
def write (volume : Volume) (path contents : String) : Except FileError Unit × Volume :=
  match volume.locate path with
  | .error error => (.error error, volume)
  | .ok place =>
      if volume.isDirectory place then (.error .isADirectory, volume)
      else (.ok (), { volume with files := volume.files.insert place contents })

/-- The operations on a volume that is carried along. -/
def fileSystem : FileSystem (StateM Volume) where
  read path := do return (← get).read path
  isFile path := do return (← get).isFile path
  makeDirectories path := modifyGet fun volume => volume.makeDirectories path
  write path contents := modifyGet fun volume => volume.write path contents

end Volume

end Bindery
