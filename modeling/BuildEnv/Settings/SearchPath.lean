import BuildEnv.Path.Normal

/-!
# Search paths

A search path lists the directories in which included files are looked for.
Directories are kept in normal form, so that two spellings of one directory
are one entry; the first occurrence decides the place.
-/

namespace BuildEnv

/-- The directories of an include search, in order. -/
structure SearchPath where
  directories : List Path
  deriving DecidableEq, Repr

namespace SearchPath

/-- The search path without directories. -/
def empty : SearchPath := ⟨[]⟩

/-- Whether a directory is on the path, in whatever spelling. -/
def contains (s : SearchPath) (directory : Path) : Bool :=
  s.directories.contains directory.normalize

/-- Appends a directory unless it is on the path. -/
def add (s : SearchPath) (directory : Path) : SearchPath :=
  if s.contains directory then s else ⟨s.directories ++ [directory.normalize]⟩

/-- Appends a directory unless it is on the path, and tells whether it was
appended. -/
def push (s : SearchPath) (directory : Path) : Bool × SearchPath :=
  if s.contains directory then (false, s) else (true, ⟨s.directories ++ [directory.normalize]⟩)

/-- Appends directories from first to last. -/
def addAll (s : SearchPath) (directories : List Path) : SearchPath :=
  directories.foldl add s

/-- The search path of a list of directories. -/
def ofList (directories : List Path) : SearchPath :=
  empty.addAll directories

/-- How many directories there are. -/
def size (s : SearchPath) : Nat :=
  s.directories.length

end SearchPath

end BuildEnv
