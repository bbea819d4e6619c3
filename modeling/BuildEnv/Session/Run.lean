import BuildEnv.Config.Reader
import BuildEnv.Files.Tree
import BuildEnv.Project.Report
import BuildEnv.Session.Job

/-!
# Runs

One run of the program: it reads its command line, finds and loads its
configuration, sets its job up, reads the inputs and writes the report.

The configuration is the file of the command line, or the first one of a few
places that is there, or else the default one.  The places are named after
the program.

What the system makes of a report that is written to it is not for a run to
say: a file may not be there to be written, and a disk may be full.  A run is
therefore a function of its `Outlets` as well.
-/

namespace BuildEnv

namespace Session

/-- What becomes of bytes that are written. -/
structure Delivery where
  /-- How many of them arrive, from the first on. -/
  arrived : Nat
  /-- Whether the writer is told that they did not.  Bytes that are held back
  until a file is closed can be lost without a word. -/
  failed : Bool
  deriving DecidableEq, Repr

/-- How the system takes what is written. -/
structure Outlets where
  /-- Whether a file may be created at a path, or emptied. -/
  permits : Path → Bool
  /-- What becomes of bytes that are written into a file. -/
  file : Path → Bytes → Delivery
  /-- What becomes of bytes that are printed. -/
  standardOutput : Bytes → Delivery

/-- Nothing that is written is lost. -/
def Outlets.lossless : Outlets :=
  ⟨fun _ => true, fun _ bytes => ⟨bytes.length, false⟩, fun bytes => ⟨bytes.length, false⟩⟩

/-- What a run finds around it. -/
structure Surroundings where
  /-- The name of the program. -/
  program : Text
  currentDirectory : Path
  /-- The directory of the user's configuration files. -/
  configDirectory : Option Path
  /-- How texts in East Asian charsets are read. -/
  eastAsian : Charset.EastAsian.Decoder

/-- What paths lead to. -/
abbrev FileView := Path → FileNode

/-- The view of some files that have been looked at. -/
def FileView.ofList (nodes : List (Path × FileNode)) : FileView :=
  fun p => ((nodes.find? (·.1 == p)).map (·.2)).getD .missing

/-- The reader of the files in view. -/
def FileView.reader (view : FileView) (eastAsian : Charset.EastAsian.Decoder) : FileReader where
  bytes? p := match view p with
    | .file bytes => some bytes
    | _ => none
  eastAsian := eastAsian

/-- The places of configuration files, the first one first. -/
def configPlaces (s : Surroundings) : List Path :=
  let userDirectories := match s.configDirectory with
    | none => []
    | some directory => [directory, directory.join ⟨s.program⟩]
  (s.currentDirectory :: userDirectories).map fun directory =>
    directory.join ⟨s.program ++ ".yml".toList⟩

/-- The configuration of a file.  A directory can be opened, but not read. -/
def loadFile (view : FileView) (p : Path) : Except Config.LoadError Config :=
  match view p with
  | .missing => .error .unreadable
  | .directory => .error (.unparsable .malformed)
  | .file bytes => Config.ofBytes bytes

/-- The configuration of a run. -/
def loadConfig (view : FileView) (s : Surroundings) (o : Options) :
    Except Config.LoadError Config :=
  match o.config with
  | some path => loadFile view ⟨path⟩
  | none =>
    match (configPlaces s).find? fun p => view p != .missing with
    | some p => loadFile view p
    | none => .ok .default

/-- The files that can become the configuration of a command line. -/
def configFiles (s : Surroundings) (words : List Text) : List Path :=
  match Options.parse words with
  | .error _ => []
  | .ok o =>
    match o.config with
    | some path => [⟨path⟩]
    | none => configPlaces s

/-- Why a run does not come to its inputs. -/
inductive Failure where
  | refused (reason : Options.Refusal)
  | notLoaded (reason : Config.LoadError)
  | notSetUp (reason : Job.SetupError)
  deriving DecidableEq, Repr

/-- The wording of the failure, where there is one. -/
def Failure.message? : Failure → Option Text
  | refused _ => none
  | notLoaded (.unparsable reason) => reason.message?
  | notLoaded (.invalid rejection) => some rejection.message
  | notLoaded .unreadable => none
  | notSetUp reason => some reason.message

/-- The job of a command line. -/
def plan (view : FileView) (s : Surroundings) (words : List Text) : Except Failure Job :=
  match Options.parse words with
  | .error reason => .error (.refused reason)
  | .ok o =>
    match loadConfig view s o with
    | .error reason => .error (.notLoaded reason)
    | .ok c =>
      match Job.setUp s.currentDirectory o c with
      | .error reason => .error (.notSetUp reason)
      | .ok j => .ok j

/-- Why a run with a job fails. -/
inductive RunError where
  | notIngested (reason : Project.IngestError)
  /-- The file of the report could not be created. -/
  | notCreated (file : Path)
  /-- The report could not be written into its file. -/
  | notWritten (file : Path)
  /-- The report could not be printed. -/
  | notPrinted
  deriving DecidableEq, Repr

/-- The wording of the error. -/
def RunError.message : RunError → Text
  | notIngested reason => reason.message
  | notCreated file => "Failed to create output file: ".toList ++ file.text
  | notWritten file => "Failed to write output file: ".toList ++ file.text
  | notPrinted => "Failed to write to standard output".toList

/-- What a run with a job leaves behind. -/
structure Outcome where
  /-- Why the run failed, if it did. -/
  failure? : Option RunError
  /-- What was printed. -/
  printed : Bytes
  files : FileTree

/-- Whether the run did what it had to do. -/
def Outcome.success (o : Outcome) : Bool :=
  o.failure?.isNone

/-- Writes a report into a file, which is created before. -/
def saveReport (t : FileTree) (outlets : Outlets) (file : Path) (document : Bytes) : Outcome :=
  let delivery := outlets.file file document
  let refused : Outcome := ⟨some (.notCreated file), [], t⟩
  if !outlets.permits file then refused
  else match t.write? file (document.take delivery.arrived) with
    | none => refused
    | some written => ⟨if delivery.failed then some (.notWritten file) else none, [], written⟩

/-- Prints a report. -/
def printReport (t : FileTree) (outlets : Outlets) (document : Bytes) : Outcome :=
  let delivery := outlets.standardOutput document
  ⟨if delivery.failed then some .notPrinted else none, document.take delivery.arrived, t⟩

/-- Writes the report of a job. -/
def writeReport (t : FileTree) (outlets : Outlets) (output : Option Path) (p : Project) :
    Outcome :=
  let document := Utf8.encode p.document
  match output with
  | none => printReport t outlets document
  | some file => saveReport t outlets file document

/-- A run on a file tree. -/
def run (t : FileTree) (outlets : Outlets) (s : Surroundings) (words : List Text) :
    Except Failure Outcome :=
  match plan t.find s words with
  | .error failure => .error failure
  | .ok j =>
    match j.ingest ⟨t.read?, s.eastAsian⟩ with
    | .error reason => .ok ⟨some (.notIngested reason), [], t⟩
    | .ok p => .ok (writeReport t outlets j.output p)

end Session

end BuildEnv
