import ShaderDowngrade.Path
import ShaderDowngrade.Text.Quoted

/-!
# Files and directories

A disk has a root, and below it directories and files, each at its place: the list of the names that
lead there from the root. One of the directories is the current one, where paths without a root
begin. `..` leads to the directory above, and from the root to the root. The operations fail the way
a file system does: a name may have at most 255 bytes and a path fewer than 4096, and no NUL may
stand in a path.

## Permissions

The disk is that of one user, who may be refused to read a file or to write it, to list a directory,
to make something in it or to go through it. Everything that the user makes has all permissions. A
file that is written over keeps those that it had.

There are no links here and no devices, and nobody else changes the disk.
-/

namespace ShaderDowngrade

/-- What is wrong with a path. -/
inductive FileCause where
  /-- Nothing is there. -/
  | notFound
  /-- Something is there already. -/
  | alreadyExists
  /-- What should be a directory is a file. -/
  | notDirectory
  /-- What should be a file is a directory. -/
  | isDirectory
  /-- A name in the path, or the whole path, is too long. -/
  | nameTooLong
  /-- A NUL stands in the path. -/
  | embeddedNul
deriving DecidableEq, Repr

/-- What keeps an operation on files from being carried out. -/
inductive Obstacle where
  /-- Something is wrong with the path. -/
  | path (cause : FileCause)
  /-- The user lacks a permission. -/
  | permission
deriving DecidableEq, Repr

/-- A failed operation on files. -/
structure FileFault where
  /-- Why it failed. -/
  obstacle : Obstacle
  /-- The path that it was given. -/
  path : Path
deriving DecidableEq, Repr

/-- What is wrong with the path. What the user lacks the permission for might as well not be
there. -/
def FileFault.cause (f : FileFault) : FileCause :=
  match f.obstacle with
  | .path cause => cause
  | .permission => .notFound

/-- The obstacle in words, with its number if it has one. -/
def Obstacle.message : Obstacle → String
  | .path .notFound => "[Errno 2] No such file or directory"
  | .path .alreadyExists => "[Errno 17] File exists"
  | .path .notDirectory => "[Errno 20] Not a directory"
  | .path .isDirectory => "[Errno 21] Is a directory"
  | .path .nameTooLong => "[Errno 36] File name too long"
  | .path .embeddedNul => "embedded null byte"
  | .permission => "[Errno 13] Permission denied"

/-- The fault in words. A path with a NUL is not shown. -/
def FileFault.message (f : FileFault) : String :=
  match f.cause with
  | .embeddedNul => f.obstacle.message
  | _ => f.obstacle.message ++ ": " ++ quoted f.path.toString

/-- The names that lead to a file or directory, outermost first. -/
abbrev Place := List (List Char)

/-- What is at a place. -/
inductive Node where
  | directory
  | file (bytes : List UInt8)
deriving DecidableEq, Repr

/-- What the user may do with a file or a directory. -/
structure Permissions where
  /-- Read the file, or list what is in the directory. -/
  read : Bool := true
  /-- Write the file, or make something in the directory. -/
  write : Bool := true
  /-- Go through the directory. -/
  search : Bool := true
deriving DecidableEq, Repr

/-- A file or directory with the permissions of the user. -/
structure Item where
  node : Node
  permissions : Permissions := {}
deriving DecidableEq, Repr

/-- The place that a disk has as its current directory unless another one is named. -/
def Place.work : Place := ["work".toList]

/-- Directories and files by their places, and which of the directories is the current one. Without
more being said it is the only one, and empty. The root is always there. -/
structure Disk where
  items : List (Place × Item) := [(Place.work, { node := .directory })]
  /-- The place of the current directory. -/
  here : Place := Place.work
  /-- What the user may do with the root. -/
  root : Permissions := {}
deriving DecidableEq, Repr

namespace Disk

/-- What is at a place, with the permissions of the user. -/
def item? (d : Disk) (place : Place) : Option Item :=
  if place = [] then some ⟨.directory, d.root⟩ else d.items.lookup place

/-- What is at a place that is counted from the current directory. -/
def at? (d : Disk) (place : Place) : Option Node := (d.item? (d.here ++ place)).map Item.node

/-- All that is in the current directory, with places that are counted from there. -/
def nodes (d : Disk) : List (Place × Node) :=
  d.items.filterMap fun (place, item) ↦
    if d.here.isPrefixOf place && place != d.here then
      some (place.drop d.here.length, item.node)
    else none

/-- The disk with something put at a place. -/
def put (d : Disk) (place : Place) (item : Item) : Disk :=
  { d with items := (place, item) :: d.items.filter (·.1 ≠ place) }

/-- The most bytes that a name may have. -/
def maxNameBytes : Nat := 255

/-- The most bytes that a path may have. -/
def maxPathBytes : Nat := 4095

/-- The place that names lead to from another place. All of them but the last must be those of
directories that the user may go through, and none of them may be too long. -/
def walk (d : Disk) (from_ : Place) : List (List Char) → Except Obstacle Place
  | [] => .ok from_
  | w :: ws =>
    match d.item? from_ with
    | none => .error (.path .notFound)
    | some ⟨.file _, _⟩ => .error (.path .notDirectory)
    | some ⟨.directory, permissions⟩ =>
      if !permissions.search then .error .permission
      else if maxNameBytes < (String.ofList w).utf8ByteSize then .error (.path .nameTooLong)
      else walk d (if w = ['.', '.'] then from_.dropLast else from_ ++ [w]) ws

/-- The place where a path begins. -/
def start (d : Disk) (p : Path) : Place := if p.root.isEmpty then d.here else []

/-- The place of a path. -/
def place (d : Disk) (p : Path) : Except Obstacle Place :=
  if p.hasNul then .error (.path .embeddedNul)
  else if maxPathBytes < p.byteSize then .error (.path .nameTooLong)
  else d.walk (d.start p) p.components

/-- Whether a path leads to a directory. -/
def isDirectory (d : Disk) (p : Path) : Bool :=
  match d.place p with
  | .error _ => false
  | .ok place =>
    match d.item? place with
    | some ⟨.directory, _⟩ => true
    | some ⟨.file _, _⟩ | none => false

/-- Whether the user may make something new at a place. -/
def mayMake (d : Disk) (place : Place) : Bool :=
  (d.item? place.dropLast).any (·.permissions.write)

/-- The permissions of a file that is written at a place, which are those of the old file if there
is one. -/
def permissionsOfFile (d : Disk) (place : Place) : Except Obstacle Permissions :=
  match d.item? place with
  | some ⟨.directory, _⟩ => .error (.path .isDirectory)
  | some ⟨.file _, permissions⟩ =>
    if permissions.write then .ok permissions else .error .permission
  | none => if d.mayMake place then .ok {} else .error .permission

/-- The bytes of a file. -/
def read (d : Disk) (p : Path) : Except FileFault (List UInt8) :=
  match d.place p with
  | .error obstacle => .error ⟨obstacle, p⟩
  | .ok place =>
    match d.item? place with
    | none => .error ⟨.path .notFound, p⟩
    | some ⟨node, permissions⟩ =>
      if !permissions.read then .error ⟨.permission, p⟩
      else
        match node with
        | .directory => .error ⟨.path .isDirectory, p⟩
        | .file bytes => .ok bytes

/-- Writes a file, over an old one if there is one. -/
def write (d : Disk) (p : Path) (bytes : List UInt8) : Except FileFault Disk :=
  match d.place p with
  | .error obstacle => .error ⟨obstacle, p⟩
  | .ok place =>
    match d.permissionsOfFile place with
    | .error obstacle => .error ⟨obstacle, p⟩
    | .ok permissions => .ok (d.put place ⟨.file bytes, permissions⟩)

/-- Makes a directory, in a directory that is already there. -/
def makeDirectory (d : Disk) (p : Path) : Except FileFault Disk :=
  match d.place p with
  | .error obstacle => .error ⟨obstacle, p⟩
  | .ok place =>
    match d.item? place with
    | some _ => .error ⟨.path .alreadyExists, p⟩
    | none =>
      if d.mayMake place then .ok (d.put place { node := .directory })
      else .error ⟨.permission, p⟩

/-- Sees to it that a directory is there, in a directory that is already there. -/
def ensureDirectory (d : Disk) (p : Path) : Disk × Option FileFault :=
  match d.makeDirectory p with
  | .ok d => (d, none)
  | .error fault => if d.isDirectory p then (d, none) else (d, some fault)

/-- Sees to it that a directory is there, and makes those that it lies in if they are missing. The
number bounds how many levels of them may be missing. -/
def ensureDirectoriesWithin (d : Disk) (p : Path) : Nat → Disk × Option FileFault
  | 0 => d.ensureDirectory p
  | depth + 1 =>
    match d.makeDirectory p with
    | .error ⟨.path .notFound, _⟩ =>
      if p.components.isEmpty then (d, some ⟨.path .notFound, p⟩)
      else
        match ensureDirectoriesWithin d p.parent depth with
        | (d, none) => d.ensureDirectory p
        | failed => failed
    | _ => d.ensureDirectory p

/-- Sees to it that a directory is there, and makes those that it lies in if they are missing. -/
def ensureDirectories (d : Disk) (p : Path) : Disk × Option FileFault :=
  d.ensureDirectoriesWithin p p.components.length

/-- Writes a file after making the directories that it lies in. What has been made of them stays
even if the rest fails. -/
def save (d : Disk) (p : Path) (bytes : List UInt8) : Disk × Option FileFault :=
  match d.ensureDirectories p.parent with
  | (d, none) =>
    match d.write p bytes with
    | .ok d => (d, none)
    | .error fault => (d, some fault)
  | failed => failed

/-- What is at a path the way it is written. Nothing is at the empty path, and a path that ends in a
slash, or in a dot behind one, leads to directories only. -/
def itemWritten? (d : Disk) (written : String) : Option Item :=
  if written.isEmpty || maxPathBytes < written.utf8ByteSize then none
  else
    match d.place (.ofString written) with
    | .error _ => none
    | .ok place =>
      match d.item? place with
      | some ⟨.file bytes, permissions⟩ =>
        if Path.asksForDirectory written then none else some ⟨.file bytes, permissions⟩
      | found => found

/-- Whether a path, the way it is written, leads to something that may not be read. -/
def isUnreadable (d : Disk) (written : String) : Bool :=
  (d.itemWritten? written).any (!·.permissions.read)

end Disk

end ShaderDowngrade
