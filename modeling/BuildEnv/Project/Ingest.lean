import BuildEnv.Charset.Decode
import BuildEnv.Database.Reader
import BuildEnv.Log.Entry
import BuildEnv.Project.Basic
import BuildEnv.Toolset.Key

/-!
# Taking build logs and databases into a project

The files are read through a `FileReader`, so that the result is a function of
what the files hold.  A file that cannot be read adds nothing, and the others
of the same call are taken in all the same; an unknown charset or toolset is
refused before any file is read.

A call that can be refused returns its result and the project as it is
afterwards.
-/

namespace BuildEnv

/-- How files are read. -/
structure FileReader where
  /-- The contents of the files that can be read. -/
  bytes? : Path → Option Bytes
  /-- How texts in East Asian charsets are read. -/
  eastAsian : Charset.EastAsian.Decoder

namespace Project

/-- Why build logs are refused. -/
inductive IngestError where
  | unsupportedCharset (label : Text)
  | unsupportedToolset (key : Text)
  deriving DecidableEq, Repr

/-- The wording of the error. -/
def IngestError.message : IngestError → Text
  | unsupportedCharset label => Charset.unsupportedMessage label
  | unsupportedToolset key => Toolset.unsupportedMessage key

/-- Adds the records of a log. -/
def addLogText (p : Project) (log : Text) : Project :=
  p.addRecords (BuildLog.records (Text.lines log) p.baseDirectory)

/-- Adds the records of a log file, if it can be read. -/
def addLogFile (read : FileReader) (c : Charset) (p : Project) (file : Path) : Project :=
  match read.bytes? file with
  | none => p
  | some bytes => p.addLogText (c.decode read.eastAsian bytes).text

/-- Adds the records of log files.  The charset is looked at first. -/
def addLogs (p : Project) (read : FileReader) (files : List Path) (toolset charset : Text) :
    Except IngestError Unit × Project :=
  match Charset.ofLabel? charset with
  | none => (.error (.unsupportedCharset charset), p)
  | some c => match Toolset.ofKey? toolset with
    | none => (.error (.unsupportedToolset toolset), p)
    | some .visualCpp => (.ok (), files.foldl (addLogFile read c) p)

/-- Adds the records of a database, if it can be read. -/
def addDatabase (read : FileReader) (p : Project) (file : Path) : Project :=
  match (read.bytes? file).bind Database.ofBytes? with
  | none => p
  | some entries => p.addRecords (Database.records entries)

/-- Adds the records of databases. -/
def addDatabases (p : Project) (read : FileReader) (files : List Path) : Project :=
  files.foldl (addDatabase read) p

end Project

end BuildEnv
