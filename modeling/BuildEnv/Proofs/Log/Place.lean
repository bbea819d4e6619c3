import BuildEnv.Proofs.Log.Resolution
import BuildEnv.Proofs.Path.Absolute
import BuildEnv.Proofs.Settings.Containers
import BuildEnv.Proofs.Switch.Walk

/-!
# Where the paths of a log lead

Relative paths of a log start at the directory of the project that was
announced last, or at the base directory.  The directory of a project is
itself read from the log, as the parent of its file.  If the base directory is
absolute, so is the parent of every path that is resolved against it, with one
exception: the parent of a bare drive is the empty path.

* `BuildContext.allPaths_records`: in an absolute working directory, all paths
  of the records are absolute.
* `BuildLog.records_absolute`: in an absolute base directory, all paths of a
  record are in normal form, and absolute unless the last project was a bare
  drive.
* `BuildLog.records_relative`: after such a project they can be relative.
-/

namespace BuildEnv

/-- A property of the file and of all directories of a record. -/
structure UnitRecord.AllPaths (u : UnitRecord) (property : Path → Prop) : Prop where
  file : property u.file
  directories : ∀ d ∈ u.settings.searchPath.directories, property d

/-- A directory of a search path is one of the given ones, normalized. -/
theorem SearchPath.mem_directories_ofList {ds : List Path} {d : Path}
    (hd : d ∈ (ofList ds).directories) : ∃ e ∈ ds, e.normalize = d := by
  have hdirectories : (ofList ds).directories = ([] ++ ds.map Path.normalize).eraseDups :=
    directories_addAll List.nodup_nil ds
  rw [hdirectories, List.mem_eraseDups, List.nil_append] at hd
  exact List.mem_map.mp hd

namespace BuildContext

variable {c : BuildContext} {base : Path} {i : Invocation} {u : UnitRecord}

/-- Whatever is resolved against the working directory has a property, and then
all paths of the records have it. -/
theorem allPaths_records {property : Path → Prop} (hu : u ∈ c.records base i)
    (h : ∀ p, property ((c.workingDirectory base).absoluteTo p)) : u.AllPaths property := by
  obtain ⟨source, -, rfl⟩ := List.mem_map.mp hu
  refine ⟨h (.ofLog source), fun d hd => ?_⟩
  obtain ⟨e, he, rfl⟩ := SearchPath.mem_directories_ofList hd
  obtain ⟨raw, -, rfl⟩ := List.mem_map.mp he
  rw [Path.normalize_absoluteTo]
  exact h (.ofLog raw)

end BuildContext

namespace Sighting

/-- The project that was announced last for the line is a bare drive. -/
def OnBareDrive (base : Path) (past : List Sighting) (e : Sighting) : Prop :=
  ∃ path, known Marker.projectFile? past e.line = some path ∧
    (base.absoluteTo (.ofLog path)).isBareDrive

variable {base : Path} {past : List Sighting} {e : Sighting}

/-- The directory at which relative paths of the line start. -/
def directoryAfter (base : Path) (past : List Sighting) (e : Sighting) : Path :=
  (contextAfter base past e.line).workingDirectory base

/-- **The working directory** is absolute, unless the last project was a bare
drive, which leaves the empty path. -/
theorem isAbsolute_directoryAfter (hbase : base.isAbsolute) (past : List Sighting)
    (e : Sighting) :
    (e.directoryAfter base past).isAbsolute ∨
      e.OnBareDrive base past ∧ e.directoryAfter base past = ⟨[]⟩ := by
  have hdirectory : e.directoryAfter base past =
      ((known Marker.projectFile? past e.line).bind
        (BuildState.projectDirectory base)).getD base := rfl
  cases hknown : known Marker.projectFile? past e.line with
  | none =>
      rw [hdirectory, hknown]
      exact .inl hbase
  | some path =>
      have hproject : (base.absoluteTo (.ofLog path)).isAbsolute :=
        Path.isAbsolute_absoluteTo hbase _
      have hparent : e.directoryAfter base past =
          ((base.absoluteTo (.ofLog path)).parent?).getD base := by
        rw [hdirectory, hknown]
        rfl
      by_cases hdrive : (base.absoluteTo (.ofLog path)).isBareDrive
      · refine .inr ⟨⟨path, hknown, hdrive⟩, ?_⟩
        rw [hparent, Path.parent?_of_isBareDrive hdrive]
        rfl
      · rw [hparent]
        cases hq : (base.absoluteTo (.ofLog path)).parent? with
        | none => exact .inl hbase
        | some q => exact .inl ((Path.isAbsolute_of_parent? hproject hq).resolve_right hdrive)

/-- A sighting that gives records is a call, read in the context of its
line. -/
theorem exists_mem_records {u : UnitRecord} (hu : u ∈ e.recordsAfter base past) :
    ∃ i, u ∈ (contextAfter base past e.line).records base i := by
  obtain ⟨line, m⟩ := e
  cases m with
  | invocation compiler arguments => exact ⟨_, hu⟩
  | _ => cases hu

end Sighting

namespace BuildLog

/-- A record comes from one sighting and from those before it. -/
theorem mem_records {lines : List Text} {base : Path} {u : UnitRecord} :
    u ∈ records lines base ↔ ∃ past e,
      (past, e) ∈ (Sighting.ofLines lines).inits.zip (Sighting.ofLines lines) ∧
        u ∈ e.recordsAfter base past := by
  rw [records_eq_outcomes, List.mem_flatMap, Prod.exists]
  simp only [Sighting.given_foldl_see]

/-- A log that announces a project and then calls the compiler. -/
theorem records_project_call {lines : List Text} {path compiler arguments : Text}
    (hlines : Sighting.ofLines lines =
      [⟨none, .project path none⟩, ⟨none, .invocation compiler arguments⟩]) (base : Path) :
    records lines base =
      (Sighting.contextAfter base [⟨none, .project path none⟩] none).records base
        (Invocation.ofWords .msvc (CommandLine.Windows.split arguments)) := by
  rw [records_eq_outcomes, hlines]
  simp only [Sighting.given_foldl_see]
  exact List.append_nil _

/-- **Paths of a log.**  All paths of a record are in normal form.  If the base
directory is absolute, they are absolute too, unless the project that was
announced last is a bare drive; relative paths then start at the empty path. -/
theorem records_absolute (lines : List Text) {base : Path} (hbase : base.isAbsolute) :
    ∀ u ∈ records lines base, u.AllPaths (fun p => p.normalize = p) ∧
      (u.AllPaths (fun p => p.isAbsolute) ∨ ∃ past e,
        (past, e) ∈ (Sighting.ofLines lines).inits.zip (Sighting.ofLines lines) ∧
          u ∈ e.recordsAfter base past ∧ e.OnBareDrive base past ∧
            e.directoryAfter base past = ⟨[]⟩) := by
  intro u hu
  obtain ⟨past, e, hplace, hgiven⟩ := mem_records.mp hu
  obtain ⟨i, hrecord⟩ := Sighting.exists_mem_records hgiven
  refine ⟨BuildContext.allPaths_records hrecord fun p => Path.normalize_absoluteTo _ p, ?_⟩
  rcases Sighting.isAbsolute_directoryAfter hbase past e with hdirectory | ⟨hdrive, hempty⟩
  · exact .inl (BuildContext.allPaths_records hrecord fun p =>
      Path.isAbsolute_absoluteTo hdirectory p)
  · exact .inr ⟨past, e, hplace, hgiven, hdrive, hempty⟩

/-- A project at the top of a drive is no bare drive, and its directory is
one. -/
theorem records_absolute_drive :
    (⟨"/build".toList⟩ : Path).isAbsolute ∧
      ∃ u ∈ records ["Project \"C:\\src\\..\\app.vcxproj\" on node 1 (default targets).".toList,
          "cl /c ..\\..\\main.cpp".toList] ⟨"/build".toList⟩,
        u.file = ⟨"C:/main.cpp".toList⟩ ∧ u.AllPaths (fun p => p.normalize = p) ∧
          u.AllPaths (fun p => p.isAbsolute) := by
  have hlines : Sighting.ofLines
      ["Project \"C:\\src\\..\\app.vcxproj\" on node 1 (default targets).".toList,
        "cl /c ..\\..\\main.cpp".toList] =
      [⟨none, .project "C:\\src\\..\\app.vcxproj".toList none⟩,
        ⟨none, .invocation "cl".toList "/c ..\\..\\main.cpp".toList⟩] := by
    decide +kernel
  have hsplit : CommandLine.Windows.split "/c ..\\..\\main.cpp".toList =
      ["/c".toList, "..\\..\\main.cpp".toList] := by
    decide +kernel
  have hsources : (Invocation.ofWords .msvc (CommandLine.Windows.split
      "/c ..\\..\\main.cpp".toList)).sources = ["..\\..\\main.cpp".toList] := by
    rw [hsplit]
    exact Invocation.sources_compileOnly (by decide) rfl (by decide)
  have hbase : (⟨"/build".toList⟩ : Path).isAbsolute := by decide
  have hrecords := records_project_call hlines ⟨"/build".toList⟩
  rw [BuildContext.records, hsources] at hrecords
  refine ⟨hbase, _, by rw [hrecords]; exact List.mem_singleton_self _, by decide +kernel, ?_⟩
  obtain ⟨hnormal, habsolute | ⟨past, e, hplace, hgiven, hdrive, -⟩⟩ :=
    records_absolute _ hbase _ (by rw [hrecords]; exact List.mem_singleton_self _)
  · exact ⟨hnormal, habsolute⟩
  · obtain ⟨path, hknown, hbare⟩ := hdrive
    rw [hlines] at hplace
    simp only [List.inits, List.zip_cons_cons, List.map_cons, List.map_nil, List.zip_nil_right,
      List.mem_cons, List.not_mem_nil, or_false, Prod.mk.injEq] at hplace
    rcases hplace with ⟨rfl, rfl⟩ | ⟨rfl, rfl⟩
    · cases hknown
    · obtain rfl : "C:\\src\\..\\app.vcxproj".toList = path := Option.some.inj hknown
      have hfile : ((⟨"/build".toList⟩ : Path).absoluteTo
          (.ofLog "C:\\src\\..\\app.vcxproj".toList)).isBareDrive = false := by
        decide +kernel
      rw [hfile] at hbare
      cases hbare

/-- A bare drive is announced, and the records of the log are relative though
the base directory is not. -/
theorem records_relative :
    (⟨"/build".toList⟩ : Path).isAbsolute ∧
      ∃ u ∈ records ["Project \"C:\\\" on node 1 (default targets).".toList,
          "cl /c main.cpp".toList] ⟨"/build".toList⟩,
        u.file = ⟨"main.cpp".toList⟩ ∧ ¬ u.file.isAbsolute := by
  have hlines : Sighting.ofLines
      ["Project \"C:\\\" on node 1 (default targets).".toList, "cl /c main.cpp".toList] =
      [⟨none, .project "C:\\".toList none⟩,
        ⟨none, .invocation "cl".toList "/c main.cpp".toList⟩] := by
    decide +kernel
  have hsplit : CommandLine.Windows.split "/c main.cpp".toList =
      ["/c".toList, "main.cpp".toList] := by
    decide +kernel
  have hsources : (Invocation.ofWords .msvc (CommandLine.Windows.split
      "/c main.cpp".toList)).sources = ["main.cpp".toList] := by
    rw [hsplit]
    exact Invocation.sources_compileOnly (by decide) rfl (by decide)
  have hrecords := records_project_call hlines ⟨"/build".toList⟩
  rw [BuildContext.records, hsources] at hrecords
  refine ⟨by decide, _, by rw [hrecords]; exact List.mem_singleton_self _, ?_, ?_⟩
  · decide +kernel
  · decide +kernel

end BuildLog

end BuildEnv
