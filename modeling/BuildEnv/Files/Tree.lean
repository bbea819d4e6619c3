import BuildEnv.Charset.Utf8
import BuildEnv.Path.Basic

/-!
# File trees

Files and directories as data, so that a whole run is a function of them.  A
path is walked name by name, as the system does it: every name but the last
one has to be a directory, also where `..` takes it back at once.  This is why
a path that is not in normal form can be missing although its normal form is
there.

A directory is there if a file is below it, or the working directory.
-/

namespace BuildEnv

/-- What a path leads to. -/
inductive FileNode where
  | file (bytes : Bytes)
  | directory
  | missing
  deriving DecidableEq, Repr

/-- Files by their names from the root on, and the directory at which relative
paths start. -/
structure FileTree where
  workingDirectory : List Text
  files : List (List Text × Bytes)
  deriving DecidableEq, Repr

namespace FileTree

/-- The names of a path that is free of `..`. -/
def namesOf (t : Text) : List Text :=
  (Text.splitOn '/' t).filter fun name => !name.isEmpty && name != ['.']

/-- The tree of some files, whose names are relative to a directory. -/
def ofFiles (workingDirectory : Path) (files : List (Text × Bytes)) : FileTree :=
  let start := namesOf workingDirectory.text
  ⟨start, files.map fun (name, bytes) => (start ++ namesOf name, bytes)⟩

/-- Whether a directory has these names. -/
def isDirectory (t : FileTree) (names : List Text) : Bool :=
  let isBelow (file : List Text) := file.length > names.length && file.take names.length == names
  names.isEmpty || t.workingDirectory.take names.length == names || t.files.any (isBelow ·.1)

/-- What has these names. -/
def node (t : FileTree) (names : List Text) : FileNode :=
  if t.isDirectory names then .directory
  else match t.files.find? fun file => file.1 == names with
    | some file => .file file.2
    | none => .missing

/-- The most bytes that a name can have. -/
def maxNameLength : Nat := 255

/-- Whether a file can have the name. -/
def isName (name : Text) : Bool :=
  !name.contains '\x00' && Text.byteLength name ≤ maxNameLength

/-- Walks from a directory along the parts of a path.  The names at the end
may lead to nothing, all others are directories. -/
def walk (t : FileTree) : (names parts : List Text) → Option (List Text)
  | names, [] => some names
  | names, part :: parts =>
    if !t.isDirectory names then none
    else if part.isEmpty || part == ['.'] then walk t names parts
    else if part == ['.', '.'] then walk t names.dropLast parts
    else if isName part then walk t (names ++ [part]) parts
    else none

/-- The names to which a path leads. -/
def locate (t : FileTree) (p : Path) : Option (List Text) :=
  if p.text.isEmpty then none
  else t.walk (if p.hasRoot then [] else t.workingDirectory) (Text.splitOn '/' p.text)

/-- What a path leads to. -/
def find (t : FileTree) (p : Path) : FileNode :=
  match t.locate p with
  | none => .missing
  | some names => t.node names

/-- The content of the file at a path. -/
def read? (t : FileTree) (p : Path) : Option Bytes :=
  match t.find p with
  | .file bytes => some bytes
  | _ => none

/-- Writes a file at a path, in place of an earlier one.  A directory cannot
be written. -/
def write? (t : FileTree) (p : Path) (bytes : Bytes) : Option FileTree :=
  match t.locate p with
  | none => none
  | some names =>
    if t.isDirectory names then none
    else some { t with files := (names, bytes) :: t.files.filter fun file => file.1 != names }

end FileTree

end BuildEnv
