import Parlor.Json.Reader
import Parlor.Path.Basic

/-!
# Files

What a program may do with files, and files that are held in memory.
-/

namespace Parlor.Path

open Json (Bytes)

/-- The operations on files.  Those that change something tell whether they succeeded. -/
structure FileAccess (m : Type → Type) where
  isDirectory : String → m Bool
  exists? : String → m Bool
  /-- The content of a regular file. -/
  read? : String → m (Option Bytes)
  /-- Makes a directory and those on the way to it. -/
  makeDirectories : String → m Bool
  write : String → Bytes → m Bool

/-- A place in the tree of directories, by the names on the way to it from the root. -/
abbrev Place := List String

/-- Directories and files with their contents.  The root is always there. -/
structure Disk where
  directories : List Place
  files : List (Place × Bytes)
  /-- The directory where relative paths start. -/
  work : Place

namespace Disk

/-- Tests for a directory. -/
def hasDirectory (d : Disk) (place : Place) : Bool := place.isEmpty || d.directories.contains place

/-- The content of a file. -/
def content? (d : Disk) (place : Place) : Option Bytes := List.lookup place d.files

/-- Tests for a component that may name a file or a directory. -/
def isName (part : List Char) : Bool := (String.ofList part).utf8ByteSize ≤ 255

/-- Follows components from a place.  All but the place at the end have to be directories. -/
def follow? (d : Disk) : (start : Place) → (parts : List (List Char)) → Option Place
  | place, [] => some place
  | place, part :: parts =>
    if d.hasDirectory place then
      if isIdle part then d.follow? place parts
      else if part = ['.', '.'] then d.follow? place.dropLast parts
      else if isName part then d.follow? (place ++ [String.ofList part]) parts
      else none
    else none

/-- Where a path starts. -/
def start (d : Disk) (path : String) : Place := if isAbsolute path then [] else d.work

/-- The place that a path leads to. -/
def locate? (d : Disk) (path : String) : Option Place :=
  if path.isEmpty then none else d.follow? (d.start path) (Text.split '/' path.toList)

/-- Follows components from a place, and makes the directories that are missing. -/
def makeFrom? (d : Disk) : (start : Place) → (parts : List (List Char)) → Option Disk
  | place, [] => if d.hasDirectory place then some d else none
  | place, part :: parts =>
    if isIdle part then d.makeFrom? place parts
    else if part = ['.', '.'] then d.makeFrom? place.dropLast parts
    else
      let place := place ++ [String.ofList part]
      if d.hasDirectory place then d.makeFrom? place parts
      else if (d.content? place).isSome || !isName part then none
      else makeFrom? { d with directories := place :: d.directories } place parts

/-- Makes the directories on a path; the empty path has none. -/
def makeDirectories? (d : Disk) (path : String) : Option Disk :=
  if path.isEmpty then some d else d.makeFrom? (d.start path) (Text.split '/' path.toList)

/-- Writes a file.  Its name has to be the last component of its path. -/
def write? (d : Disk) (path : String) (content : Bytes) : Option Disk := do
  let place ← d.locate? path
  let last ← (Text.split '/' path.toList).getLast?
  if d.hasDirectory place || isIdle last then none
  else some { d with files := (place, content) :: d.files.filter (·.1 ≠ place) }

/-- Replaces the files by what an operation leaves of them, and tells whether it succeeded. -/
def attempt (operation : Disk → Option Disk) : StateM Disk Bool := fun d =>
  match operation d with
  | some changed => (true, changed)
  | none => (false, d)

/-- The operations on files in memory. -/
def access : FileAccess (StateM Disk) where
  isDirectory path := fun d => ((d.locate? path).any d.hasDirectory, d)
  exists? path := fun d =>
    ((d.locate? path).any fun place => d.hasDirectory place || (d.content? place).isSome, d)
  read? path := fun d => ((d.locate? path).bind d.content?, d)
  makeDirectories path := attempt fun d => d.makeDirectories? path
  write path content := attempt fun d => d.write? path content

end Disk

end Parlor.Path
