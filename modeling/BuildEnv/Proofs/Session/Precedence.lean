import BuildEnv.Proofs.Path.Absolute
import BuildEnv.Proofs.Session.SetUp

/-!
# The command line over the configuration

What a job is made of can come from the command line and from the configuration.  The
rules of precedence are said here without a run of the set-up (`Job.Merged`): which of
two values wins, which of two lists comes first, and the directory that relative paths
start at.  The rules can also be applied to the configuration beforehand
(`Config.foldedWith`), and no command line is needed then.

* `Job.parseMacros_eq_ok_iff`: macros are read one by one.
* `Job.setUp_eq_ok_iff`: what is set up where nothing is refused.
* `Job.merged_of_setUp`: a job that was set up follows the rules.
* `Job.setUp_foldedWith`: command lines can be folded into the configuration.
* `Job.setUp_precedence`: both of these.
-/

namespace BuildEnv

namespace Macro

/-- The macros that some texts define, in order. -/
def defined (raws : List Text) : List Macro :=
  raws.filterMap fun raw => (parse raw).toOption

/-- The macro that the last of the texts that define a name defines. -/
def lastDefined? (raws : List Text) (name : Text) : Option Macro :=
  (defined raws).reverse.find? fun m => m.name == name

/-- A later definition of the name counts more. -/
theorem lastDefined?_append (raws more : List Text) (name : Text) :
    lastDefined? (raws ++ more) name =
      (lastDefined? more name).or (lastDefined? raws name) := by
  rw [lastDefined?, defined, List.filterMap_append, List.reverse_append, List.find?_append]
  rfl

/-- Definitions that can all be read are what they are read as. -/
theorem defined_of_map_parse {raws : List Text} {macros : List Macro}
    (h : raws.map parse = macros.map .ok) : defined raws = macros := by
  have hoptions : (raws.map parse).filterMap Except.toOption = macros := by
    rw [h, List.filterMap_map]
    exact List.filterMap_some
  rwa [List.filterMap_map] at hoptions

end Macro

namespace Config

/-- The configuration into which a command line was folded.  What is given once is
replaced, and lists are appended to.  Logs are replaced where there are others. -/
def foldedWith (c : Config) (o : Options) : Config :=
  { c with
    toolset := o.toolset.getD c.toolset
    charset := o.charset.getD c.charset
    baseDirectory := (o.baseDirectory.map Path.mk).or c.baseDirectory
    buildLogs := if o.logs.isEmpty then c.buildLogs else o.logs.map Path.mk
    databases := c.databases ++ o.databases.map Path.mk
    searchPath := c.searchPath ++ o.searchPath.map Path.mk
    macros := c.macros ++ o.macros }

end Config

namespace Job

/-- The directory at which the paths of a project start. -/
inductive Base (current : Path) (o : Options) (c : Config) : Path → Prop
  | commandLine {d : Text} (ho : o.baseDirectory = some d) :
      Base current o c (current.absoluteTo ⟨d⟩)
  | configuration {d : Path} (ho : o.baseDirectory = none) (hc : c.baseDirectory = some d) :
      Base current o c (current.absoluteTo d)
  | current (ho : o.baseDirectory = none) (hc : c.baseDirectory = none) : Base current o c current

/-- The logs that are read: those of the command line, where it has any. -/
inductive Logs (o : Options) (c : Config) : List Path → Prop
  | commandLine (ho : o.logs ≠ []) : Logs o c (o.logs.map Path.mk)
  | configuration (ho : o.logs = []) : Logs o c c.buildLogs

/-- **The rules of precedence** between a command line and a configuration.  A project
keeps its directories in normal form.  Those that were resolved are in it already, and the
current directory is kept as it is where it is in it too. -/
structure Merged (current : Path) (o : Options) (c : Config) (j : Job) : Prop where
  toolset : j.toolset = o.toolset.getD c.toolset
  charset : j.charset = o.charset.getD c.charset
  directories : ∃ base, Base current o c base ∧
    j.project.baseDirectory = base.normalize ∧
    (current.normalize = current → j.project.baseDirectory = base) ∧
    j.project.searchPath.directories =
      ((c.searchPath ++ o.searchPath.map Path.mk).map base.absoluteTo).eraseDups
  macros_read : ∀ raw ∈ c.macros ++ o.macros, ∃ m, Macro.parse raw = .ok m
  macro_of_name : ∀ name, j.project.macros.get? name =
    (Macro.lastDefined? o.macros name).or (Macro.lastDefined? c.macros name)
  names : j.project.macros.names =
    ((Macro.defined (c.macros ++ o.macros)).map Macro.name).eraseDups
  databases : j.databases = (c.databases ++ o.databases.map Path.mk).map current.absoluteTo
  logs : ∃ logs, Logs o c logs ∧ j.logs = logs.map current.absoluteTo
  output : j.output = o.output.map Path.mk

variable {current : Path} {o : Options} {c : Config} {j : Job}

/-- A base directory that was resolved is kept as it is, and so is the current one if it
is in normal form. -/
theorem Base.normalize_eq {base : Path} (h : Base current o c base)
    (hcurrent : current.normalize = current) : base.normalize = base := by
  cases h with
  | commandLine _ => exact Path.normalize_absoluteTo _ _
  | configuration _ _ => exact Path.normalize_absoluteTo _ _
  | current _ _ => exact hcurrent

/-- **Macros are read one by one**, and none is left out. -/
theorem parseMacros_eq_ok_iff {raws : List Text} {macros : List Macro} :
    parseMacros raws = .ok macros ↔ raws.map Macro.parse = macros.map .ok := by
  induction raws generalizing macros with
  | nil =>
      cases macros with
      | nil => exact iff_of_true rfl rfl
      | cons m macros => simp [parseMacros]
  | cons raw rest ih =>
      rw [parseMacros, List.map_cons]
      cases hraw : Macro.parse raw with
      | error reason => cases macros <;> simp
      | ok m =>
          cases macros with
          | nil => cases parseMacros rest <;> simp [Except.map]
          | cons first more =>
              simp only [List.map_cons, List.cons.injEq, Except.ok.injEq, ← ih]
              cases parseMacros rest <;> simp [Except.map]

/-- The base directory is taken from where the precedence says. -/
theorem base_baseDirectory : Base current o c (baseDirectory current o c) := by
  unfold baseDirectory
  cases ho : o.baseDirectory with
  | some d => exact .commandLine ho
  | none =>
      cases hc : c.baseDirectory with
      | some d => exact .configuration ho hc
      | none => exact .current ho hc

/-- The logs are taken from where the precedence says, and resolved. -/
theorem exists_logs_logPaths :
    ∃ logs, Logs o c logs ∧ logPaths current o c = logs.map current.absoluteTo := by
  unfold logPaths
  by_cases ho : o.logs = []
  · exact ⟨c.buildLogs, .configuration ho, by simp [ho]⟩
  · exact ⟨o.logs.map Path.mk, .commandLine ho, by simp [ho]⟩

/-- Resolved directories are in normal form before they are put on the search path. -/
theorem directories_initialProject (macros : List Macro) :
    (initialProject current o c macros).searchPath.directories =
      (searchPath (baseDirectory current o c) o c).eraseDups := by
  have hnormal : (searchPath (baseDirectory current o c) o c).map Path.normalize =
      searchPath (baseDirectory current o c) o c := by
    rw [searchPath, List.map_map]
    exact List.map_congr_left fun d _ => Path.normalize_absoluteTo _ d
  have hadded := SearchPath.directories_addAll (s := .empty) List.nodup_nil
    (searchPath (baseDirectory current o c) o c)
  rwa [hnormal] at hadded

/-- **What is set up** where nothing is refused. -/
theorem setUp_eq_ok_iff :
    setUp current o c = .ok j ↔
      (Toolset.ofKey? (o.toolset.getD c.toolset)).isSome ∧
        (Charset.ofLabel? (o.charset.getD c.charset)).isSome ∧
        ∃ macros, parseMacros (c.macros ++ o.macros) = .ok macros ∧
          j = {
            project := initialProject current o c macros
            toolset := o.toolset.getD c.toolset
            charset := o.charset.getD c.charset
            logs := logPaths current o c
            databases := databasePaths current o c
            output := o.output.map Path.mk } := by
  unfold setUp
  simp only [Option.isNone_iff_eq_none]
  by_cases hkey : Toolset.ofKey? (o.toolset.getD c.toolset) = none
  · rw [if_pos hkey]
    simp [hkey]
  rw [if_neg hkey]
  by_cases hlabel : Charset.ofLabel? (o.charset.getD c.charset) = none
  · rw [if_pos hlabel]
    simp [hlabel]
  rw [if_neg hlabel]
  have hknown : (Toolset.ofKey? (o.toolset.getD c.toolset)).isSome ∧
      (Charset.ofLabel? (o.charset.getD c.charset)).isSome :=
    ⟨Option.isSome_iff_ne_none.mpr hkey, Option.isSome_iff_ne_none.mpr hlabel⟩
  rw [← and_assoc, and_iff_right hknown]
  cases parseMacros (c.macros ++ o.macros) with
  | error e => simp
  | ok macros =>
      constructor
      · rintro ⟨⟩
        exact ⟨macros, rfl, rfl⟩
      · rintro ⟨_, ⟨⟩, rfl⟩
        rfl

/-- **A job follows the rules of precedence.** -/
theorem merged_of_setUp (h : setUp current o c = .ok j) : Merged current o c j := by
  obtain ⟨-, -, macros, hmacros, rfl⟩ := setUp_eq_ok_iff.mp h
  have hparsed := parseMacros_eq_ok_iff.mp hmacros
  have hdefined := Macro.defined_of_map_parse hparsed
  exact
    { toolset := rfl
      charset := rfl
      directories := ⟨_, base_baseDirectory, rfl, base_baseDirectory.normalize_eq,
        directories_initialProject macros⟩
      macros_read := by
        intro raw hraw
        have hmem : Macro.parse raw ∈ macros.map Except.ok := hparsed ▸ List.mem_map_of_mem hraw
        obtain ⟨m, -, hm⟩ := List.mem_map.mp hmem
        exact ⟨m, hm.symm⟩
      macro_of_name := by
        intro name
        rw [← Macro.lastDefined?_append, Macro.lastDefined?, hdefined]
        exact (MacroTable.get?_insertAll .empty macros name).trans (Option.or_none)
      names := by
        rw [hdefined]
        exact MacroTable.names_insertAll (t := .empty) List.nodup_nil macros
      databases := rfl
      logs := exists_logs_logPaths
      output := rfl }

section Folded

variable (current : Path) (o : Options) (c : Config)

/-- The folded configuration has the same base directory. -/
theorem baseDirectory_foldedWith :
    baseDirectory current .empty (c.foldedWith o) = baseDirectory current o c := by
  unfold baseDirectory Config.foldedWith
  cases o.baseDirectory <;> rfl

/-- The folded configuration begins with the same project. -/
theorem initialProject_foldedWith (macros : List Macro) :
    initialProject current .empty (c.foldedWith o) macros = initialProject current o c macros := by
  unfold initialProject
  rw [baseDirectory_foldedWith]
  simp [searchPath, Config.foldedWith, Options.empty]

/-- **A command line can be folded into the configuration.**  The outcome is the same, but
for the file of the report, which no configuration names. -/
theorem setUp_foldedWith :
    setUp current .empty (c.foldedWith o) =
      (setUp current o c).map fun j => { j with output := none } := by
  have hmacros : (c.foldedWith o).macros ++ Options.empty.macros = c.macros ++ o.macros :=
    List.append_nil _
  have hlogs : logPaths current .empty (c.foldedWith o) = logPaths current o c := rfl
  have hdatabases : databasePaths current .empty (c.foldedWith o) = databasePaths current o c := by
    simp [databasePaths, Config.foldedWith, Options.empty]
  have htoolset : Options.empty.toolset.getD (c.foldedWith o).toolset = o.toolset.getD c.toolset :=
    rfl
  have hcharset : Options.empty.charset.getD (c.foldedWith o).charset = o.charset.getD c.charset :=
    rfl
  unfold setUp
  simp only [htoolset, hcharset, hmacros, hlogs, hdatabases, initialProject_foldedWith]
  split
  · rfl
  · split
    · rfl
    · cases parseMacros (c.macros ++ o.macros) <;> rfl

end Folded

/-- **Precedence.**  Where a job is set up, single values of the command line win, the
macros, the directories and the databases of both are used, those of the command line
last, and logs on the command line are read in place of others.  A command line can be
folded into the configuration. -/
theorem setUp_precedence (current : Path) (o : Options) (c : Config) :
    (∀ j, setUp current o c = .ok j → Merged current o c j) ∧
      setUp current .empty (c.foldedWith o) =
        (setUp current o c).map fun j => { j with output := none } :=
  ⟨fun _ h => merged_of_setUp h, setUp_foldedWith current o c⟩

/-- A macro of the configuration gets another value on the command line, and a directory
is given twice. -/
theorem setUp_precedence_project :
    let current : Path := ⟨"/work".toList⟩
    let o : Options := { Options.empty with
      searchPath := ["cli".toList, "./file".toList]
      macros := ["CLI=2".toList]
      logs := ["cli.log".toList] }
    let c : Config := { Config.default with
      baseDirectory := some ⟨"project".toList⟩
      buildLogs := [⟨"file.log".toList⟩]
      searchPath := [⟨"file".toList⟩]
      macros := ["CLI=1".toList, "FILE".toList] }
    ∃ j, setUp current o c = .ok j ∧ Merged current o c j ∧
      j.project.baseDirectory = ⟨"/work/project".toList⟩ ∧
      j.project.searchPath.directories =
        [⟨"/work/project/file".toList⟩, ⟨"/work/project/cli".toList⟩] ∧
      j.project.macros.texts = ["CLI 2".toList, "FILE".toList] ∧
      j.logs = [⟨"/work/cli.log".toList⟩] := by
  intro current o c
  have hread : parseMacros (c.macros ++ o.macros) = .ok [⟨"CLI".toList, some "1".toList⟩,
      ⟨"FILE".toList, none⟩, ⟨"CLI".toList, some "2".toList⟩] := by
    decide
  have hsetUp := (@setUp_eq_ok_iff current o c _).mpr
    ⟨by decide +kernel, by decide +kernel, _, hread, rfl⟩
  refine ⟨_, hsetUp, (setUp_precedence current o c).1 _ hsetUp, ?_⟩
  decide +kernel

end Job

end BuildEnv
