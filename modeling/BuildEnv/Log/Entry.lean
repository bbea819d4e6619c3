import BuildEnv.CommandLine.Windows
import BuildEnv.Log.Line
import BuildEnv.Log.Marker
import BuildEnv.Settings.Unit
import BuildEnv.Switch.Invocation
import BuildEnv.Toolset.Key
import BuildEnv.Toolset.Predefined

/-!
# What a build log tells

A log of a parallel build mixes the output of several projects, and prefixes
each line with the number of its project.  Toolset, architecture and project
directory are therefore kept apart for every number (`BuildContext`).  A
number starts from what the lines without a number have told so far, at the
first marker that is routed to it.

`BuildState.readLine` is the step of the reading: the markers of one line act
on the state one after the other, and each invocation gives one record for
every source file that it names.
-/

namespace BuildEnv

/-- What is known about a project of the build. -/
structure BuildContext where
  /-- The directory of the project file. -/
  directory : Option Path
  version : Option ToolsetVersion
  fullVersion : Option Text
  architecture : Architecture
  deriving DecidableEq, Repr

namespace BuildContext

/-- Before the first marker. -/
def start : BuildContext := ⟨none, none, none, .unspecified⟩

/-- The effect of a marker other than a project on the context that it is
routed to. -/
def update (c : BuildContext) : Marker → BuildContext
  | .toolset version => { c with version := some version }
  | .compiler full version architecture =>
    { c with
      version := version.or c.version
      architecture := architecture.getD c.architecture
      fullVersion := some full }
  | .architecture architecture => { c with architecture }
  | .project _ _ => c
  | .invocation _ _ => c

/-- The profile of an invocation in a context. -/
def profile (c : BuildContext) (i : Invocation) : Profile :=
  ⟨c.version, c.fullVersion, c.architecture, i.features⟩

/-- The settings of an invocation whose relative paths start at a
directory. -/
def settings (c : BuildContext) (directory : Path) (i : Invocation) : UnitSettings where
  searchPath := .ofList (i.includeDirectories.map fun d => directory.absoluteTo (.ofLog d))
  macros := i.applyMacros (c.profile i).predefined

/-- The directory at which relative paths start: the one of the project, or
the given one if no project is known. -/
def workingDirectory (c : BuildContext) (base : Path) : Path :=
  c.directory.getD base

/-- The records of an invocation, one for every source file. -/
def records (c : BuildContext) (base : Path) (i : Invocation) : List UnitRecord :=
  let directory := c.workingDirectory base
  let settings := c.settings directory i
  i.sources.map fun source => ⟨directory.absoluteTo (.ofLog source), settings⟩

/-- What an invocation gives to say. -/
def messages (c : BuildContext) (arguments : Text) (i : Invocation) : List Message :=
  if i.sources.isEmpty then
    [⟨.debug, "Compiler invocation without source files: ".toList ++ arguments⟩]
  else
    [⟨.debug, "Compiler invocation recognized as ".toList ++ (c.profile i).text ++ ": ".toList
      ++ arguments⟩]

/-- The reading of an invocation with its arguments. -/
def readInvocation (c : BuildContext) (base : Path) (arguments : Text) :
    Logged (List UnitRecord) :=
  let words := CommandLine.Windows.split arguments
  let i := Invocation.ofWords .msvc words
  ⟨c.records base i, Invocation.messages .msvc words ++ c.messages arguments i⟩

end BuildContext

/-- What is known about all the projects of the build. -/
structure BuildState where
  /-- What the lines without a number have told. -/
  shared : BuildContext
  /-- The contexts of the numbers that a marker was routed to. -/
  numbered : List (Nat × BuildContext)
  deriving Repr

namespace BuildState

/-- Before the first line. -/
def start : BuildState := ⟨.start, []⟩

/-- The context of a number, or of the lines without one.  A new number
starts from the shared context. -/
def context (s : BuildState) : Option Nat → BuildContext
  | none => s.shared
  | some n => (s.numbered.lookup n).getD s.shared

/-- Replaces the entry of a number, or appends one. -/
def setEntry (n : Nat) (c : BuildContext) : List (Nat × BuildContext) → List (Nat × BuildContext)
  | [] => [(n, c)]
  | e :: rest => if e.1 = n then (n, c) :: rest else e :: setEntry n c rest

/-- The state with another context for a number, or for the lines without
one. -/
def setContext (s : BuildState) (c : BuildContext) : Option Nat → BuildState
  | none => { s with shared := c }
  | some n => { s with numbered := setEntry n c s.numbered }

/-- The number that a marker on a line is routed to.  A project goes to its
own number first. -/
def route (line : Option Nat) : Marker → Option Nat
  | .project _ own => own.or line
  | _ => line

/-- The directory of a project file. -/
def projectDirectory (base : Path) (path : Text) : Option Path :=
  (base.absoluteTo (.ofLog path)).parent?

/-- The context after a marker. -/
def updated (base : Path) (c : BuildContext) : Marker → BuildContext
  | .project path _ => { c with directory := projectDirectory base path }
  | m => c.update m

/-- The effect of a marker on a line of a number. -/
def readMarker (base : Path) (line : Option Nat) (s : BuildState) (m : Marker) : BuildState :=
  s.setContext (updated base (s.context (route line m)) m) (route line m)

/-- What a marker gives: records for an invocation, nothing else. -/
def outcome (base : Path) (line : Option Nat) (s : BuildState) : Marker → Logged (List UnitRecord)
  | .invocation _ arguments => (s.context line).readInvocation base arguments
  | _ => ⟨[], []⟩

/-- The markers of a line, in order: the state after them and what they
give. -/
def readMarkers (base : Path) (line : Option Nat) :
    BuildState → List Marker → BuildState × List (Logged (List UnitRecord))
  | s, [] => (s, [])
  | s, m :: rest =>
    let (last, outcomes) := readMarkers base line (s.readMarker base line m) rest
    (last, s.outcome base line m :: outcomes)

/-- One line. -/
def readLine (base : Path) (s : BuildState) (line : Text) :
    BuildState × List (Logged (List UnitRecord)) :=
  let split := LogLine.split line
  readMarkers base split.context s (Marker.ofText split.text)

/-- What every line gives, from a state on. -/
def readLines (base : Path) : BuildState → List Text → List (List (Logged (List UnitRecord)))
  | _, [] => []
  | s, line :: rest =>
    let (next, outcomes) := s.readLine base line
    outcomes :: readLines base next rest

end BuildState

namespace BuildLog

/-- The records that each line of a log gives, in the order of the lines. -/
def recordsByLine (lines : List Text) (base : Path) : List (List UnitRecord) :=
  (BuildState.readLines base .start lines).map fun outcomes => outcomes.flatMap (·.value)

/-- The records of a log.  A file that was compiled more than once has more
than one; the last tells the latest settings. -/
def records (lines : List Text) (base : Path) : List UnitRecord :=
  (recordsByLine lines base).flatten

/-- The records of a log of the toolset that a key names; none for a key that
names no toolset. -/
def parse? (lines : List Text) (toolset : Text) (base : Path) : Option (List UnitRecord) :=
  (Toolset.ofKey? toolset).map fun
    | .visualCpp => records lines base

/-- The summary at the end of a log. -/
def summary (count : Nat) : Message :=
  ⟨.debug, "Build log gave ".toList ++ Text.ofNat count ++ " compilation unit entries".toList⟩

/-- The records of a log together with what the reading has to say. -/
def read (lines : List Text) (base : Path) : Logged (List UnitRecord) :=
  let outcomes := (BuildState.readLines base .start lines).flatten
  let found := outcomes.flatMap (·.value)
  ⟨found, outcomes.flatMap (·.messages) ++ [summary found.length]⟩

end BuildLog

end BuildEnv
