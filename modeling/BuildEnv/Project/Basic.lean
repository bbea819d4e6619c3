import BuildEnv.Project.UnitTable

/-!
# Projects

The preprocessor settings of a whole project.  A project has defaults, which
its caller sets and which hold for every file without a record, and one
record for each file that a log, a database or the caller described.  A new
record of a file replaces the old one as a whole and counts as the latest.

The merged view is made of the defaults and of all records in the order in
which they were written last.
-/

namespace BuildEnv

/-- The preprocessor settings of a project. -/
structure Project where
  /-- Relative paths of build logs start here. -/
  baseDirectory : Path
  /-- The default search path. -/
  searchPath : SearchPath
  /-- The default macros. -/
  macros : MacroTable
  /-- The settings of the files with a record, by names in normal form. -/
  units : UnitTable
  /-- The names of the files with a record, in the order in which they were
  written last. -/
  writeOrder : List Path
  deriving DecidableEq, Repr

namespace Project

/-- A project about which nothing is known. -/
def empty : Project := ⟨⟨['.']⟩, .empty, .empty, .empty, []⟩

/-- Sets the directory at which relative paths of logs start. -/
def setBaseDirectory (p : Project) (directory : Path) : Project :=
  { p with baseDirectory := directory.normalize }

/-- Sets the default search path. -/
def setSearchPath (p : Project) (directories : List Path) : Project :=
  { p with searchPath := .ofList directories }

/-- Appends a directory to the default search path. -/
def addDirectory (p : Project) (directory : Path) : Project :=
  { p with searchPath := p.searchPath.add directory }

/-- Sets the default macros. -/
def setMacros (p : Project) (macros : List Macro) : Project :=
  { p with macros := .ofList macros }

/-- Adds a default macro. -/
def addMacro (p : Project) (m : Macro) : Project :=
  { p with macros := p.macros.insert m }

/-- Adds the record of a file, in place of an earlier one of the same file.
The file becomes the one that was written last. -/
def addRecord (p : Project) (u : UnitRecord) : Project :=
  let file := u.file.normalize
  { p with
    units := p.units.insert file u.settings
    writeOrder :=
      (if p.units.contains file then p.writeOrder.filter (!·.sameAs file) else p.writeOrder)
        ++ [file] }

/-- Adds records from first to last. -/
def addRecords (p : Project) (records : List UnitRecord) : Project :=
  records.foldl addRecord p

/-- The records in the order in which they were written last. -/
def records (p : Project) : List UnitRecord :=
  p.writeOrder.filterMap fun file => (p.units.get? file).map (UnitRecord.mk file)

/-- The names of the files with a record, in the order of paths. -/
def files (p : Project) : List Path :=
  p.units.files

/-- The settings in the record of a file. -/
def settings? (p : Project) (file : Path) : Option UnitSettings :=
  p.units.get? file.normalize

/-- The settings of a file without a record. -/
def defaults (p : Project) : UnitSettings :=
  ⟨p.searchPath, p.macros⟩

/-- The settings of a file: those of its record, or the defaults. -/
def settingsFor (p : Project) (file : Path) : UnitSettings :=
  (p.settings? file).getD p.defaults

/-- The default search path and those of all records. -/
def mergedSearchPath (p : Project) : SearchPath :=
  p.records.foldl (fun s r => s.addAll r.settings.searchPath.directories) p.searchPath

/-- The default macros and those of all records.  The latest value of a name
wins. -/
def mergedMacros (p : Project) : MacroTable :=
  p.records.foldl (fun t r => t.insertAll r.settings.macros.entries) p.macros

end Project

end BuildEnv
