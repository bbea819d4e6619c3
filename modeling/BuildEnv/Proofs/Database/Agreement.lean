import BuildEnv.Proofs.Log.Call
import BuildEnv.Proofs.Path.Resolution
import BuildEnv.Proofs.Project.Repetition
import BuildEnv.Proofs.Switch.Walk
import BuildEnv.Proofs.Text.Scanner

/-!
# One call in a log and in a database

The same call of the compiler can stand in a build log, on a line of its own,
and in a compilation database.  The log splits the text after the name of the
compiler and resolves paths against the base directory as it is; the database
splits the whole command, chooses the switches by its first word and
normalizes the directory first.

* `Entry.unit_ofCommand_callText`: the database arrives at the settings that
  the call has in a log that tells nothing else.
* `Entry.settings_agree`: so both give the same settings.
* `Entry.file_agree`: a source keeps one record over both inputs if the file
  of the database is spelled as on the host.  The log takes a backslash for a
  separator and the field of the database does not (`Entry.file_backslash`).
-/

namespace BuildEnv

namespace Path

/-- A name that is spelled as on the host: no backslash is in it, and no blank
or quote around it. -/
structure HostSpelling (name : Text) : Prop where
  no_backslash : '\\' ∉ name
  first : ∀ c, name.head? = some c → ¬ Text.isBlank c ∧ c ≠ '"'
  last : ∀ c, name.getLast? = some c → ¬ Text.isBlank c ∧ c ≠ '"'

/-- A name in the spelling of this system is read from a log as it stands. -/
theorem HostSpelling.ofLog_eq {name : Text} (h : HostSpelling name) : ofLog name = ⟨name⟩ := by
  have htrim : Text.trim name = name :=
    Text.trimBy_eq_self (fun c hc => (h.first c hc).1) fun c hc => (h.last c hc).1
  have hquotes : Text.trimBy (· == '"') name = name :=
    Text.trimBy_eq_self (fun c hc => by simpa using (h.first c hc).2)
      fun c hc => by simpa using (h.last c hc).2
  have hslashes : (name.map fun c => if c == '\\' then '/' else c) = name := by
    have hkeep : ∀ c ∈ name, (if c == '\\' then '/' else c) = c := by
      intro c hc
      have hne : c ≠ '\\' := fun heq => h.no_backslash (heq ▸ hc)
      exact if_neg (by simpa using hne)
    rw [List.map_congr_left hkeep, List.map_id']
  rw [ofLog, htrim, hquotes, hslashes]

end Path

namespace Database

namespace Entry

variable {file directory : Path} {command arguments : Text}

/-- A complete entry gives the words of its command. -/
theorem words_ofCommand (hfile : file.text ≠ []) (hdirectory : directory.text ≠ [])
    (hcommand : command ≠ []) :
    (ofCommand file command directory).words = splitCommand command := by
  have hvalid : (ofCommand file command directory).validate = .ok () := by
    simp [validate, ofCommand, hfile, hdirectory, hcommand]
  rw [words, hvalid]
  rfl

/-- The call of the compiler by its bare name is one of the Microsoft compiler. -/
theorem isMicrosoftCommand_cons (words : List Text) :
    isMicrosoftCommand ("cl".toList :: words) = true := by
  have hname : isMicrosoftCompiler "cl".toList = true := by decide
  exact hname

/-- The command of a call is split by the Windows rules. -/
theorem splitCommand_callText (arguments : Text) :
    splitCommand (callText arguments) =
      .ok ("cl".toList :: CommandLine.Windows.split arguments) := by
  rw [splitCommand, words_callText]
  exact if_pos (isMicrosoftCommand_cons _)

/-- The words of a call have the settings of a call of which nothing is
known. -/
theorem settings_call (words : List Text) (directory : Path) :
    settings ("cl".toList :: words) directory.normalize =
      BuildContext.start.settings directory (Invocation.ofWords .msvc words) := by
  have hdialect : dialect ("cl".toList :: words) = .msvc := if_pos (isMicrosoftCommand_cons words)
  unfold settings
  rw [hdialect]
  simp only [Path.absoluteTo_normalize]
  rfl

/-- **The database's side.** -/
theorem unit_ofCommand_callText (hfile : file.text ≠ []) (hdirectory : directory.text ≠ [])
    (arguments : Text) :
    (ofCommand file (callText arguments) directory).unit =
      .ok ⟨directory.absoluteTo file, BuildContext.start.settings directory
        (Invocation.ofWords .msvc (CommandLine.Windows.split arguments))⟩ := by
  have hcommand : callText arguments ≠ [] := List.cons_ne_nil _ _
  have hwords := words_ofCommand hfile hdirectory hcommand
  rw [splitCommand_callText] at hwords
  rw [unit_of_words hwords]
  show Except.ok (UnitRecord.mk (directory.normalize.absoluteTo file)
    (settings _ directory.normalize)) = _
  rw [Path.absoluteTo_normalize, settings_call]

/-- Under the name of Visual C++ a single call is read as a build log. -/
theorem parse?_callText (directory : Path) :
    BuildLog.parse? [callText arguments] "Visual C++".toList directory =
      some (BuildLog.records [callText arguments] directory) := by
  have hkey : Toolset.ofKey? "Visual C++".toList = some .visualCpp := by decide
  rw [BuildLog.parse?, hkey]
  rfl

/-- **One call, the same settings.**  A call that tells nothing else and names
a source gives the same settings to its sources in a log as to the file of a
database entry. -/
theorem settings_agree {compiler : Text}
    (hcall : Marker.ofText (callText arguments) = [.invocation compiler arguments])
    (hsources : (Invocation.ofWords .msvc (CommandLine.Windows.split arguments)).sources ≠ [])
    (hdirectory : directory.text ≠ []) (hfile : file.text ≠ []) :
    ∃ records u,
      BuildLog.parse? [callText arguments] "Visual C++".toList directory = some records ∧
      (ofCommand file (callText arguments) directory).unit = .ok u ∧
      records ≠ [] ∧ ∀ r ∈ records, r.settings = u.settings := by
  have hmem : .invocation compiler arguments ∈ Marker.ofText (callText arguments) := by
    rw [hcall]
    exact List.mem_singleton_self _
  obtain ⟨facts, hfacts, hrecords⟩ := BuildLog.records_callText hmem directory
  have hnone : facts = [] := by
    rw [hcall] at hfacts
    simpa using hfacts
  subst hnone
  refine ⟨_, _, parse?_callText directory, unit_ofCommand_callText hfile hdirectory arguments,
    ?_, fun r hr => ?_⟩
  · rw [hrecords]
    exact mt List.map_eq_nil_iff.mp hsources
  · rw [hrecords] at hr
    obtain ⟨source, _, rfl⟩ := List.mem_map.mp hr
    rfl

/-- A call with quotes and backslashes, in a directory that is not in normal
form. -/
theorem settings_agree_quoted :
    ∃ records u,
      BuildLog.parse? [callText "/c \"..\\my files\\a.cpp\"".toList]
        "Visual C++".toList ⟨"/build/./x".toList⟩ = some records ∧
      (ofCommand ⟨"other.cpp".toList⟩ (callText "/c \"..\\my files\\a.cpp\"".toList)
        ⟨"/build/./x".toList⟩).unit = .ok u ∧
      records ≠ [] ∧ ∀ r ∈ records, r.settings = u.settings := by
  have hcall : Marker.ofText (callText "/c \"..\\my files\\a.cpp\"".toList) =
      [.invocation "cl".toList "/c \"..\\my files\\a.cpp\"".toList] := by
    decide +kernel
  have hsplit : CommandLine.Windows.split "/c \"..\\my files\\a.cpp\"".toList =
      ["/c".toList, "..\\my files\\a.cpp".toList] := by
    decide +kernel
  have hsources : (Invocation.ofWords .msvc (CommandLine.Windows.split
      "/c \"..\\my files\\a.cpp\"".toList)).sources = ["..\\my files\\a.cpp".toList] := by
    rw [hsplit]
    exact Invocation.sources_compileOnly (by decide) rfl (by decide)
  exact settings_agree hcall (hsources ▸ List.cons_ne_nil _ _) (by decide) (by decide)

/-- Where no project is announced, relative paths start at the base
directory. -/
theorem directory_contextAfter {facts : List Marker} (h : ∀ m ∈ facts, m.projectFile? = none)
    (base : Path) :
    (Sighting.contextAfter base (facts.map (Sighting.mk none)) none).directory = none := by
  have hnone : Sighting.known Marker.projectFile? (facts.map (Sighting.mk none)) none = none := by
    have htold : ((facts.map (Sighting.mk none)).filter fun e => e.target = none).filterMap
        (fun e => e.marker.projectFile?) = [] := by
      refine List.filterMap_eq_nil_iff.mpr fun e he => ?_
      obtain ⟨m, hm, rfl⟩ := List.mem_map.mp (List.mem_of_mem_filter he)
      exact h m hm
    rw [Sighting.known, Sighting.latest, htold]
    rfl
  rw [Sighting.contextAfter, hnone]
  rfl

/-- The record of the call's only source in both inputs.  The name of the
source is read as one of the log, and the file of the entry as it is. -/
theorem unique_callText {compiler name : Text}
    (hcall : .invocation compiler arguments ∈ Marker.ofText (callText arguments))
    (hproject : ∀ m ∈ Marker.ofText (callText arguments), m.projectFile? = none)
    (hsource :
      (Invocation.ofWords .msvc (CommandLine.Windows.split arguments)).sources = [name])
    (hdirectory : directory.text ≠ []) (hname : name ≠ []) :
    ∃ r u,
      BuildLog.parse? [callText arguments] "Visual C++".toList directory = some [r] ∧
      (ofCommand ⟨name⟩ (callText arguments) directory).unit = .ok u ∧
      r.file = directory.absoluteTo (.ofLog name) ∧ u.file = directory.absoluteTo ⟨name⟩ := by
  obtain ⟨facts, hfacts, hrecords⟩ := BuildLog.records_callText hcall directory
  have hunknown := directory_contextAfter
    (fun m hm => hproject m (hfacts ▸ List.mem_append_left _ hm)) directory
  have hworking : (Sighting.contextAfter directory (facts.map (Sighting.mk none))
      none).workingDirectory directory = directory := by
    rw [BuildContext.workingDirectory, hunknown]
    rfl
  rw [BuildContext.records, hsource, hworking] at hrecords
  exact ⟨_, _, (parse?_callText directory).trans (congrArg some hrecords),
    unit_ofCommand_callText hname hdirectory arguments, rfl, rfl⟩

/-- **One call, the same file.**  The log reads the name of the source as one
of the log, and the database takes the file of the entry as it is.  A name that
is spelled as on the host gives the same file in both inputs, and the later one
of them takes the record of the earlier one over. -/
theorem file_agree {compiler name : Text}
    (hcall : .invocation compiler arguments ∈ Marker.ofText (callText arguments))
    (hproject : ∀ m ∈ Marker.ofText (callText arguments), m.projectFile? = none)
    (hsource :
      (Invocation.ofWords .msvc (CommandLine.Windows.split arguments)).sources = [name])
    (hdirectory : directory.text ≠ []) (hname : name ≠ []) :
    ∃ r u,
      BuildLog.parse? [callText arguments] "Visual C++".toList directory = some [r] ∧
      (ofCommand ⟨name⟩ (callText arguments) directory).unit = .ok u ∧
      r.file = directory.absoluteTo (.ofLog name) ∧ u.file = directory.absoluteTo ⟨name⟩ ∧
      (Path.HostSpelling name → r.file = u.file ∧ ∀ ops,
        ((Project.run .empty ops).addRecord r).addRecord u = (Project.run .empty ops).addRecord u ∧
        ((Project.run .empty ops).addRecord u).addRecord r =
          (Project.run .empty ops).addRecord r) := by
  obtain ⟨r, u, hlog, hentry, hr, hu⟩ :=
    unique_callText hcall hproject hsource hdirectory hname
  refine ⟨r, u, hlog, hentry, hr, hu, fun hhost => ?_⟩
  have hfile : r.file = u.file := by
    rw [hr, hu, hhost.ofLog_eq]
  refine ⟨hfile, fun ops => ?_⟩
  have hstep := (Project.recalls_run ops).inStep
  exact ⟨hstep.addRecord_addRecord (congrArg Path.normalize hfile),
    hstep.addRecord_addRecord (congrArg Path.normalize hfile.symm)⟩

/-- A relative source, spelled as on the host, of a directory that is not in
normal form. -/
theorem file_agree_relative :
    ∃ r u,
      BuildLog.parse? [callText "/c ../sub/a.cpp".toList] "Visual C++".toList
        ⟨"C:/build/./x".toList⟩ = some [r] ∧
      (ofCommand ⟨"../sub/a.cpp".toList⟩ (callText "/c ../sub/a.cpp".toList)
        ⟨"C:/build/./x".toList⟩).unit = .ok u ∧
      r.file = u.file ∧ ∀ ops,
        ((Project.run .empty ops).addRecord r).addRecord u = (Project.run .empty ops).addRecord u ∧
        ((Project.run .empty ops).addRecord u).addRecord r =
          (Project.run .empty ops).addRecord r := by
  have hcall : Marker.ofText (callText "/c ../sub/a.cpp".toList) =
      [.invocation "cl".toList "/c ../sub/a.cpp".toList] := by
    decide +kernel
  have hmem : .invocation "cl".toList "/c ../sub/a.cpp".toList ∈
      Marker.ofText (callText "/c ../sub/a.cpp".toList) :=
    hcall ▸ List.mem_singleton_self _
  have hproject : ∀ m ∈ Marker.ofText (callText "/c ../sub/a.cpp".toList),
      m.projectFile? = none := by
    rw [hcall]
    decide
  have hsplit : CommandLine.Windows.split "/c ../sub/a.cpp".toList =
      ["/c".toList, "../sub/a.cpp".toList] := by
    decide +kernel
  have hsource : (Invocation.ofWords .msvc (CommandLine.Windows.split
      "/c ../sub/a.cpp".toList)).sources = ["../sub/a.cpp".toList] := by
    rw [hsplit]
    exact Invocation.sources_compileOnly (by decide) rfl (by decide)
  have hhost : Path.HostSpelling "../sub/a.cpp".toList := by
    refine ⟨by decide, fun c hc => ?_, fun c hc => ?_⟩
    · obtain rfl : '.' = c := Option.some.inj hc
      decide
    · obtain rfl : 'p' = c := Option.some.inj hc
      decide
  have hdirectory : (⟨"C:/build/./x".toList⟩ : Path).text ≠ [] := by decide
  obtain ⟨r, u, hlog, hentry, -, -, hsame⟩ :=
    file_agree hmem hproject hsource hdirectory (by decide)
  exact ⟨r, u, hlog, hentry, hsame hhost⟩

/-- The file of an entry is not read as a name of the log: with a backslash in
it the same source has two records. -/
theorem file_backslash :
    Marker.ofText (callText "/c src\\main.cpp".toList) =
        [.invocation "cl".toList "/c src\\main.cpp".toList] ∧
      (Invocation.ofWords .msvc (CommandLine.Windows.split
        "/c src\\main.cpp".toList)).sources = ["src\\main.cpp".toList] ∧
      ∃ r u,
        BuildLog.parse? [callText "/c src\\main.cpp".toList] "Visual C++".toList
          ⟨"/build".toList⟩ = some [r] ∧
        (ofCommand ⟨"src\\main.cpp".toList⟩ (callText "/c src\\main.cpp".toList)
          ⟨"/build".toList⟩).unit = .ok u ∧
        r.file.normalize ≠ u.file.normalize := by
  have hcall : Marker.ofText (callText "/c src\\main.cpp".toList) =
      [.invocation "cl".toList "/c src\\main.cpp".toList] := by
    decide +kernel
  have hsplit : CommandLine.Windows.split "/c src\\main.cpp".toList =
      ["/c".toList, "src\\main.cpp".toList] := by
    decide +kernel
  have hsource : (Invocation.ofWords .msvc (CommandLine.Windows.split
      "/c src\\main.cpp".toList)).sources = ["src\\main.cpp".toList] := by
    rw [hsplit]
    exact Invocation.sources_compileOnly (by decide) rfl (by decide)
  have hmem : .invocation "cl".toList "/c src\\main.cpp".toList ∈
      Marker.ofText (callText "/c src\\main.cpp".toList) :=
    hcall ▸ List.mem_singleton_self _
  have hproject : ∀ m ∈ Marker.ofText (callText "/c src\\main.cpp".toList),
      m.projectFile? = none := by
    rw [hcall]
    decide
  have hdirectory : (⟨"/build".toList⟩ : Path).text ≠ [] := by decide
  obtain ⟨r, u, hlog, hentry, hr, hu⟩ :=
    unique_callText hmem hproject hsource hdirectory (by decide)
  refine ⟨hcall, hsource, r, u, hlog, hentry, ?_⟩
  rw [hr, hu]
  decide +kernel

end Entry

end Database

end BuildEnv
