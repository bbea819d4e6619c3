import BuildEnv.Path.Basic

/-!
# Configurations

What a run is told by its configuration file: which toolset wrote the logs and
in which charset, where relative paths start, which inputs are read, and the
settings that hold for the whole project.
-/

namespace BuildEnv

/-- The configuration of a run, as it was written. -/
structure Config where
  /-- The version of the format. -/
  schema : Text
  /-- The key of the toolset. -/
  toolset : Text
  /-- The label of the charset. -/
  charset : Text
  baseDirectory : Option Path
  buildLogs : List Path
  databases : List Path
  searchPath : List Path
  /-- Macros as they are written on a command line. -/
  macros : List Text
  deriving DecidableEq, Repr

namespace Config

/-- The version of the format that is read. -/
def supportedSchema : Text := "1.0".toList

/-- The key of the toolset that is meant where none is given. -/
def defaultToolset : Text := "Visual C++".toList

/-- The label of the charset that is meant where none is given. -/
def defaultCharset : Text := "UTF8".toList

/-- The configuration of a run without a file. -/
def default : Config :=
  ⟨supportedSchema, defaultToolset, defaultCharset, none, [], [], [], []⟩

/-- The lists of paths of a configuration. -/
inductive PathList where
  | buildLogs
  | databases
  | searchPath
  deriving DecidableEq, Repr

/-- The name under which a list stands in the file. -/
def PathList.name : PathList → Text
  | buildLogs => "build_logs".toList
  | databases => "compilation_databases".toList
  | searchPath => "include_directories".toList

/-- The lists in the order of the file. -/
def PathList.all : List PathList := [.buildLogs, .databases, .searchPath]

/-- The paths of a list. -/
def paths (c : Config) : PathList → List Path
  | .buildLogs => c.buildLogs
  | .databases => c.databases
  | .searchPath => c.searchPath

end Config

end BuildEnv
