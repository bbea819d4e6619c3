import BuildEnv.Config.Basic
import BuildEnv.Project.Ingest
import BuildEnv.Session.Options

/-!
# Jobs

A job is what a run has to do, put together from the command line and the
configuration.  Single values of the command line win over those of the
configuration.  Directories, macros and databases of both are used, those of
the command line last; logs on the command line replace those of the
configuration.

Everything that a user can get wrong is checked here, so that a job that was
set up can only fail in writing its report.
-/

namespace BuildEnv

/-- What a run has to do. -/
structure Job where
  /-- The project as it is before any input is read. -/
  project : Project
  /-- The key of the toolset. -/
  toolset : Text
  /-- The label of the charset. -/
  charset : Text
  logs : List Path
  databases : List Path
  /-- The file that the report is written to. -/
  output : Option Path
  deriving DecidableEq, Repr

namespace Job

/-- Why no job is set up. -/
inductive SetupError where
  | unsupportedToolset (key : Text)
  | unsupportedCharset (label : Text)
  | badMacro (raw : Text) (reason : Macro.ParseError)
  deriving DecidableEq, Repr

/-- The wording of the error. -/
def SetupError.message : SetupError → Text
  | unsupportedToolset key => Toolset.unsupportedMessage key
  | unsupportedCharset label => Charset.unsupportedMessage label
  | badMacro raw reason =>
    "Invalid define '".toList ++ raw ++ "': ".toList ++ reason.message

/-- Reads macros, up to the first one that is refused. -/
def parseMacros : List Text → Except SetupError (List Macro)
  | [] => .ok []
  | raw :: rest =>
    match Macro.parse raw with
    | .error reason => .error (.badMacro raw reason)
    | .ok m => (parseMacros rest).map (m :: ·)

/-- The directory at which relative paths of logs start. -/
def baseDirectory (current : Path) (o : Options) (c : Config) : Path :=
  match o.baseDirectory.map Path.mk <|> c.baseDirectory with
  | none => current
  | some directory => current.absoluteTo directory

/-- The default search path. -/
def searchPath (base : Path) (o : Options) (c : Config) : List Path :=
  (c.searchPath ++ o.searchPath.map Path.mk).map base.absoluteTo

/-- The logs that are read. -/
def logPaths (current : Path) (o : Options) (c : Config) : List Path :=
  (if o.logs.isEmpty then c.buildLogs else o.logs.map Path.mk).map current.absoluteTo

/-- The databases that are read. -/
def databasePaths (current : Path) (o : Options) (c : Config) : List Path :=
  (c.databases ++ o.databases.map Path.mk).map current.absoluteTo

/-- The project before any input is read. -/
def initialProject (current : Path) (o : Options) (c : Config) (macros : List Macro) : Project :=
  let base := baseDirectory current o c
  ((Project.empty.setBaseDirectory base).setSearchPath (searchPath base o c)).setMacros macros

/-- Sets a job up in a directory. -/
def setUp (current : Path) (o : Options) (c : Config) : Except SetupError Job :=
  let toolset := o.toolset.getD c.toolset
  let charset := o.charset.getD c.charset
  if (Toolset.ofKey? toolset).isNone then .error (.unsupportedToolset toolset)
  else if (Charset.ofLabel? charset).isNone then .error (.unsupportedCharset charset)
  else match parseMacros (c.macros ++ o.macros) with
    | .error e => .error e
    | .ok macros => .ok {
        project := initialProject current o c macros
        toolset, charset
        logs := logPaths current o c
        databases := databasePaths current o c
        output := o.output.map Path.mk }

/-- Reads the inputs of a job: the logs, then the databases. -/
def ingest (j : Job) (read : FileReader) : Except Project.IngestError Project :=
  let (result, p) := j.project.addLogs read j.logs j.toolset j.charset
  result.map fun _ => p.addDatabases read j.databases

end Job

end BuildEnv
