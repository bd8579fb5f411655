/-
  StakeRelay.Checkpoint.FileSystem — directories and files, and what can be done to them.

  A location is the list of names from the root. The root is a directory; every other
  location is free, a directory or a file. A path is followed from the root, name by
  name, each in a directory.

  A name has at most 255 bytes, which is looked at when it is its turn to be followed. A
  path has fewer than 4096 bytes and holds no character zero, which is looked at first.
-/

import StakeRelay.Checkpoint.Path
import StakeRelay.Failure

namespace StakeRelay

/-- What stands at a location. -/
inductive FileNode
  | directory
  | file (content : Bytes)
  deriving Repr, DecidableEq

/-- The names from the root to a place. -/
abbrev Location := List String

/-- The places that are not free. -/
structure FileSystem where
  entries : List (Location × FileNode)
  deriving Repr, DecidableEq

namespace FileSystem

/-- A file system with nothing but its root. -/
def empty : FileSystem := ⟨[]⟩

/-! ## §1. Places -/

/-- What stands at a location. -/
def node? (fs : FileSystem) (l : Location) : Option FileNode :=
  if l = [] then some .directory else fs.entries.lookup l

/-- The file system without what stood at a location. -/
def erase (fs : FileSystem) (l : Location) : FileSystem :=
  ⟨fs.entries.filter fun e => e.1 ≠ l⟩

/-- The file system with something else at a location. -/
def put (fs : FileSystem) (l : Location) (node : FileNode) : FileSystem :=
  ⟨(fs.erase l).entries ++ [(l, node)]⟩

/-- How many bytes a name may have. -/
def nameLimit : Nat := 255

/-- How many bytes a path may not reach. -/
def pathLimit : Nat := 4096

/-- Why a path is not followed at all. -/
def pathFault? (path : String) : Option FileFault :=
  if path.toList.any (·.toNat = 0) then some .zeroInPath
  else if pathLimit ≤ path.utf8ByteSize then some .nameTooLong
  else none

/-- Follows names from a location. The last name may lead to a free place. -/
def follow (fs : FileSystem) (l : Location) : List String → Except FileFault Location
  | [] => .ok l
  | name :: rest =>
    match fs.node? l with
    | none => .error .missing
    | some (.file _) => .error .notDirectory
    | some .directory =>
      if nameLimit < name.utf8ByteSize then .error .nameTooLong
      else if name = "." then follow fs l rest
      else if name = ".." then follow fs l.dropLast rest
      else follow fs (l ++ [name]) rest

/-- The location of a path. The empty path leads nowhere. -/
def locate (fs : FileSystem) (path : String) : Except FileFault Location :=
  match pathFault? path with
  | some fault => .error fault
  | none => if path = "" then .error .missing else fs.follow [] (Path.steps path)

/-! ## §2. Operations -/

/-- The content of a file. -/
def read (fs : FileSystem) (path : String) : Except FileFault Bytes :=
  match fs.locate path with
  | .error fault => .error fault
  | .ok l =>
    match fs.node? l with
    | none => .error .missing
    | some .directory => .error .isDirectory
    | some (.file content) => .ok content

/-- Makes the directories that a list of names leads to from a location, as far as it gets. -/
def makeFrom (fs : FileSystem) (l : Location) : List String → Except FileFault Unit × FileSystem
  | [] => (.ok (), fs)
  | name :: rest =>
    if nameLimit < name.utf8ByteSize then (.error .nameTooLong, fs)
    else if name = "." then makeFrom fs l rest
    else if name = ".." then makeFrom fs l.dropLast rest
    else
      match fs.node? (l ++ [name]) with
      | some .directory => makeFrom fs (l ++ [name]) rest
      | some (.file _) => (.error (if rest = [] then .exists else .notDirectory), fs)
      | none => makeFrom (fs.put (l ++ [name]) .directory) (l ++ [name]) rest

/-- Makes a directory and those above it. -/
def makeDirectories (fs : FileSystem) (path : String) : Except FileFault Unit × FileSystem :=
  match pathFault? path with
  | some fault => (.error fault, fs)
  | none => fs.makeFrom [] (Path.steps path)

/-- Gives a file this content, and makes it if its place is free. -/
def write (fs : FileSystem) (path : String) (content : Bytes) : Except FileFault Unit × FileSystem :=
  match fs.locate path with
  | .error fault => (.error fault, fs)
  | .ok l =>
    match fs.node? l with
    | some .directory => (.error .isDirectory, fs)
    | some (.file _) => (.ok (), fs.put l (.file content))
    | none =>
      match fs.node? l.dropLast with
      | some .directory => (.ok (), fs.put l (.file content))
      | some (.file _) => (.error .notDirectory, fs)
      | none => (.error .missing, fs)

/-- Moves a file to a place that is free or held by a file. -/
def rename (fs : FileSystem) (source target : String) : Except FileFault Unit × FileSystem :=
  match fs.locate source with
  | .error fault => (.error fault, fs)
  | .ok a =>
    match fs.locate target with
    | .error fault => (.error fault, fs)
    | .ok b =>
      match fs.node? a with
      | none => (.error .missing, fs)
      | some .directory => (.error .isDirectory, fs)
      | some (.file content) =>
        match fs.node? b with
        | some .directory => (.error .isDirectory, fs)
        | _ => (.ok (), (fs.erase a).put b (.file content))

/-- Removes a file. -/
def removeFile (fs : FileSystem) (path : String) : Except FileFault Unit × FileSystem :=
  match fs.locate path with
  | .error fault => (.error fault, fs)
  | .ok l =>
    match fs.node? l with
    | none => (.error .missing, fs)
    | some .directory => (.error .isDirectory, fs)
    | some (.file _) => (.ok (), fs.erase l)

end FileSystem

end StakeRelay
