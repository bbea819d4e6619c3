import BuildEnv.Proofs.Project.Batch
import BuildEnv.Session.Run

/-!
# What can still fail after a job was set up

The texts that a user writes are judged at three places: when a configuration
is checked, when a job is set up, and when logs are taken in.  All three judge
alike, so that a job that was set up takes its inputs in whatever they hold.

* `Job.setUp_eq_error_iff`: a job is refused for the first fault in the order
  toolset, charset, macros (`Job.Fault`), and for nothing else.
* `Job.setUp_of_validate`: a configuration that was found to be sound is no
  reason to refuse a job.
* `Job.ingest_of_setUp`: the inputs of a job are always taken in.
* `Session.fails_only_in_writing`: what remains is the writing of the report, and
  what can go wrong there (`Session.WriteFault`).
-/

namespace BuildEnv

namespace Job

/-- A text that defines no macro stands in a list, and it is the first one. -/
structure FirstBadMacro (raws : List Text) (raw : Text) (reason : Macro.ParseError) : Prop where
  parse_eq : Macro.parse raw = .error reason
  first : ∃ before after, raws = before ++ raw :: after ∧
    ∀ t ∈ before, ∃ m, Macro.parse t = .ok m

/-- What is wrong with a command line and a configuration: the error that is
reported of all those that could be. -/
inductive Fault (o : Options) (c : Config) : SetupError → Prop
  | toolset (hkey : Toolset.ofKey? (o.toolset.getD c.toolset) = none) :
      Fault o c (.unsupportedToolset (o.toolset.getD c.toolset))
  | charset (hkey : Toolset.ofKey? (o.toolset.getD c.toolset) ≠ none)
      (hlabel : Charset.ofLabel? (o.charset.getD c.charset) = none) :
      Fault o c (.unsupportedCharset (o.charset.getD c.charset))
  | definition {raw : Text} {reason : Macro.ParseError}
      (hkey : Toolset.ofKey? (o.toolset.getD c.toolset) ≠ none)
      (hlabel : Charset.ofLabel? (o.charset.getD c.charset) ≠ none)
      (hfirst : FirstBadMacro (c.macros ++ o.macros) raw reason) :
      Fault o c (.badMacro raw reason)

section Macros

variable {raw : Text} {reason : Macro.ParseError} {raws : List Text}

theorem not_firstBadMacro_nil : ¬ FirstBadMacro [] raw reason := by
  rintro ⟨-, before, after, hsplit, -⟩
  cases before <;> cases hsplit

/-- Behind a text that defines a macro, the first fault is that of the
rest. -/
theorem firstBadMacro_cons_iff {t : Text} {m : Macro} (ht : Macro.parse t = .ok m) :
    FirstBadMacro (t :: raws) raw reason ↔ FirstBadMacro raws raw reason := by
  constructor
  · rintro ⟨hraw, before, after, hsplit, hbefore⟩
    cases before with
    | nil =>
        obtain ⟨rfl, -⟩ := List.cons.inj hsplit
        rw [ht] at hraw
        cases hraw
    | cons u before =>
        obtain ⟨-, hrest⟩ := List.cons.inj hsplit
        exact ⟨hraw, before, after, hrest, fun v hv => hbefore v (List.mem_cons_of_mem _ hv)⟩
  · rintro ⟨hraw, before, after, rfl, hbefore⟩
    refine ⟨hraw, t :: before, after, rfl, fun v hv => ?_⟩
    rcases List.mem_cons.mp hv with rfl | hv
    · exact ⟨m, ht⟩
    · exact hbefore v hv

/-- A text that defines no macro is the first fault wherever it is the first
text. -/
theorem firstBadMacro_cons_iff_of_error {t : Text} {fault : Macro.ParseError}
    (ht : Macro.parse t = .error fault) :
    FirstBadMacro (t :: raws) raw reason ↔ t = raw ∧ fault = reason := by
  constructor
  · rintro ⟨hraw, before, after, hsplit, hbefore⟩
    cases before with
    | nil =>
        obtain ⟨rfl, -⟩ := List.cons.inj hsplit
        rw [ht] at hraw
        exact ⟨rfl, Except.error.inj hraw⟩
    | cons u before =>
        obtain ⟨rfl, -⟩ := List.cons.inj hsplit
        obtain ⟨m, hm⟩ := hbefore t List.mem_cons_self
        rw [ht] at hm
        cases hm
  · rintro ⟨rfl, rfl⟩
    exact ⟨ht, [], raws, rfl, fun v hv => absurd hv List.not_mem_nil⟩

/-- **The first macro that is refused** is the one that is reported. -/
theorem parseMacros_eq_error_iff {e : SetupError} :
    parseMacros raws = .error e ↔
      ∃ raw reason, e = .badMacro raw reason ∧ FirstBadMacro raws raw reason := by
  induction raws with
  | nil =>
      constructor
      · intro h
        cases h
      · rintro ⟨raw, reason, -, hfirst⟩
        exact absurd hfirst not_firstBadMacro_nil
  | cons t rest ih =>
      rw [parseMacros]
      cases ht : Macro.parse t with
      | error fault =>
          simp only [firstBadMacro_cons_iff_of_error ht, Except.error.injEq]
          constructor
          · rintro rfl
            exact ⟨t, fault, rfl, rfl, rfl⟩
          · rintro ⟨raw, reason, rfl, rfl, rfl⟩
            rfl
      | ok m =>
          simp only [firstBadMacro_cons_iff ht, ← ih]
          cases parseMacros rest with
          | error fault => exact Iff.rfl
          | ok macros => constructor <;> intro h <;> cases h

end Macros

variable {current : Path} {o : Options} {c : Config}

/-- **Refusals.**  A job is refused for the fault that its command line and its
configuration have. -/
theorem setUp_eq_error_iff {e : SetupError} : setUp current o c = .error e ↔ Fault o c e := by
  unfold setUp
  simp only [Option.isNone_iff_eq_none]
  by_cases hkey : Toolset.ofKey? (o.toolset.getD c.toolset) = none
  · rw [if_pos hkey, Except.error.injEq]
    constructor
    · rintro rfl
      exact .toolset hkey
    · rintro (h | ⟨h, -⟩ | ⟨h, -, -⟩)
      · rfl
      · exact absurd hkey h
      · exact absurd hkey h
  rw [if_neg hkey]
  by_cases hlabel : Charset.ofLabel? (o.charset.getD c.charset) = none
  · rw [if_pos hlabel, Except.error.injEq]
    constructor
    · rintro rfl
      exact .charset hkey hlabel
    · rintro (h | ⟨-, h⟩ | ⟨-, h, -⟩)
      · exact absurd h hkey
      · rfl
      · exact absurd hlabel h
  rw [if_neg hlabel]
  have hmacros : Fault o c e ↔
      ∃ raw reason, e = .badMacro raw reason ∧ FirstBadMacro (c.macros ++ o.macros) raw reason := by
    constructor
    · rintro (h | ⟨-, h⟩ | ⟨-, -, hfirst⟩)
      · exact absurd h hkey
      · exact absurd h hlabel
      · exact ⟨_, _, rfl, hfirst⟩
    · rintro ⟨raw, reason, rfl, hfirst⟩
      exact .definition hkey hlabel hfirst
  rw [hmacros, ← parseMacros_eq_error_iff]
  cases parseMacros (c.macros ++ o.macros) with
  | error fault => simp only [Except.error.injEq]
  | ok macros => constructor <;> intro h <;> cases h

/-- Without a fault there is a job. -/
theorem exists_setUp_of_not_fault (h : ∀ e, ¬ Fault o c e) : ∃ j, setUp current o c = .ok j := by
  cases hsetUp : setUp current o c with
  | ok j => exact ⟨j, rfl⟩
  | error e => exact absurd (setUp_eq_error_iff.mp hsetUp) (h e)

end Job

namespace Config

variable {c : Config}

/-- A valid configuration has no problems. -/
theorem problems_eq_nil_of_validate (h : c.validate = .ok ()) : c.problems = [] := by
  unfold validate at h
  cases hproblems : c.problems with
  | nil => rfl
  | cons problem more =>
      rw [hproblems] at h
      cases more <;> cases h

/-- Definitions without problems can be read. -/
theorem exists_parse_of_macroProblems {index : Nat} {raws : List Text}
    (h : macroProblems index raws = []) : ∀ raw ∈ raws, ∃ m, Macro.parse raw = .ok m := by
  induction raws generalizing index with
  | nil =>
      intro raw hraw
      cases hraw
  | cons t rest ih =>
      obtain ⟨hfirst, hrest⟩ := List.append_eq_nil_iff.mp h
      intro raw hraw
      rcases List.mem_cons.mp hraw with rfl | hraw
      · unfold macroProblem at hfirst
        cases hparse : Macro.parse raw with
        | ok m => exact ⟨m, rfl⟩
        | error reason =>
            rw [hparse] at hfirst
            cases hfirst
      · exact ih hrest raw hraw

/-- What a sound configuration names is known, and its macros can be read. -/
structure Sound (c : Config) : Prop where
  toolset : Toolset.ofKey? c.toolset ≠ none
  charset : Charset.ofLabel? c.charset ≠ none
  macros : ∀ raw ∈ c.macros, ∃ m, Macro.parse raw = .ok m

/-- **A valid configuration is sound.** -/
theorem sound_of_validate (h : c.validate = .ok ()) : c.Sound := by
  have hproblems := problems_eq_nil_of_validate h
  unfold problems at hproblems
  simp only [List.append_eq_nil_iff] at hproblems
  obtain ⟨⟨⟨htoolset, hcharset⟩, -⟩, hmacros⟩ := hproblems
  refine ⟨fun hnone => ?_, fun hnone => ?_, exists_parse_of_macroProblems hmacros⟩
  · rw [hnone] at htoolset
    cases htoolset
  · rw [hnone] at hcharset
    cases hcharset

end Config

namespace Job

variable {current : Path} {o : Options} {c : Config} {j : Job}

/-- **A sound configuration** is no reason to refuse a job. -/
theorem setUp_of_validate (htoolset : o.toolset = none) (hcharset : o.charset = none)
    (hmacros : o.macros = []) (hvalid : c.validate = .ok ()) :
    ∃ j, setUp current o c = .ok j := by
  have hsound := Config.sound_of_validate hvalid
  refine exists_setUp_of_not_fault fun e he => ?_
  cases he with
  | toolset hkey =>
      rw [htoolset] at hkey
      exact hsound.toolset hkey
  | charset hkey hlabel =>
      rw [hcharset] at hlabel
      exact hsound.charset hlabel
  | definition hkey hlabel hfirst =>
      rw [hmacros, List.append_nil] at hfirst
      obtain ⟨hraw, before, after, hsplit, -⟩ := hfirst
      obtain ⟨m, hm⟩ := hsound.macros _ (hsplit ▸ List.mem_append_right _ List.mem_cons_self)
      rw [hraw] at hm
      cases hm

/-- The key and the label of a job that was set up are known. -/
theorem exists_known_of_setUp (h : setUp current o c = .ok j) :
    (∃ t, Toolset.ofKey? j.toolset = some t) ∧ ∃ cs, Charset.ofLabel? j.charset = some cs := by
  unfold setUp at h
  simp only [Option.isNone_iff_eq_none] at h
  split at h
  · cases h
  · next hkey =>
    split at h
    · cases h
    · next hlabel =>
      split at h
      · cases h
      · cases h
        exact ⟨Option.ne_none_iff_exists'.mp hkey, Option.ne_none_iff_exists'.mp hlabel⟩

/-- The project after the inputs of a job were taken in: first the logs, then
the databases. -/
def finished (j : Job) (read : FileReader) : Project :=
  Project.run j.project
    [.addLogs read j.logs j.toolset j.charset, .addDatabases read j.databases]

/-- **Inputs are always taken in**, whatever can be read of them. -/
theorem ingest_of_setUp (h : setUp current o c = .ok j) (read : FileReader) :
    j.ingest read = .ok (j.finished read) := by
  obtain ⟨⟨t, htoolset⟩, cs, hcharset⟩ := exists_known_of_setUp h
  have hlogs := Project.addLogs_eq hcharset htoolset read j.project j.logs
  have hfinished : j.finished read =
      (j.project.addLogs read j.logs j.toolset j.charset).2.addDatabases read j.databases := rfl
  rw [hfinished, ingest, hlogs]
  rfl

end Job

namespace Session

/-- A job of a run was set up from some options and some configuration. -/
theorem exists_setUp_of_plan {view : FileView} {s : Surroundings} {words : List Text} {j : Job}
    (h : plan view s words = .ok j) :
    ∃ o c, Job.setUp s.currentDirectory o c = .ok j := by
  unfold plan at h
  split at h
  · cases h
  · split at h
    · cases h
    · split at h
      · cases h
      · next hsetUp =>
        cases h
        exact ⟨_, _, hsetUp⟩

/-- What goes wrong where a report is written. -/
inductive WriteFault (t : FileTree) (outlets : Outlets) (document : Bytes) :
    Option Path → RunError → Prop
  | notPrinted (hlost : (outlets.standardOutput document).failed) :
      WriteFault t outlets document none .notPrinted
  | notCreated {file : Path} (hrefused : outlets.permits file = false ∨ t.write? file [] = none) :
      WriteFault t outlets document (some file) (.notCreated file)
  | notWritten {file : Path} (hpermits : outlets.permits file) (hplace : t.write? file [] ≠ none)
      (hlost : (outlets.file file document).failed) :
      WriteFault t outlets document (some file) (.notWritten file)

/-- What a run leaves behind that has written a report. -/
structure Leaves (t : FileTree) (outlets : Outlets) (document : Bytes) (output : Option Path)
    (outcome : Outcome) : Prop where
  failure : ∀ e, outcome.failure? = some e ↔ WriteFault t outlets document output e
  /-- What was printed has arrived as far as it could. -/
  printed : outcome.printed =
    if output = none then document.take (outlets.standardOutput document).arrived else []
  /-- No file is touched but the one of the report, and that one has what arrived. -/
  files : match output with
    | none => outcome.files = t
    | some file =>
        outcome.failure? = some (.notCreated file) ∧ outcome.files = t ∨
          t.write? file (document.take (outlets.file file document).arrived) = some outcome.files

variable {t : FileTree} {outlets : Outlets} {document : Bytes} {file : Path}

/-- Printing leaves what the standard output takes, and fails if that loses anything. -/
theorem leaves_printReport : Leaves t outlets document none (printReport t outlets document) where
  failure e := by
    show (if (outlets.standardOutput document).failed then some .notPrinted else none) = some e ↔ _
    rw [Option.ite_none_right_eq_some, Option.some.injEq]
    constructor
    · rintro ⟨hlost, rfl⟩
      exact .notPrinted hlost
    · rintro ⟨hlost⟩
      exact ⟨hlost, rfl⟩
  printed := rfl
  files := rfl

/-- Whether a file can be written is a matter of its place, not of what is
written. -/
theorem write?_eq_none_iff (bytes : Bytes) :
    t.write? file bytes = none ↔ t.write? file [] = none := by
  unfold FileTree.write?
  cases t.locate file with
  | none => rfl
  | some names => by_cases h : t.isDirectory names <;> simp [h]

/-- A file that cannot be created has no report, and all files stay. -/
theorem saveReport_of_refused (h : outlets.permits file = false ∨ t.write? file [] = none) :
    saveReport t outlets file document = ⟨some (.notCreated file), [], t⟩ := by
  rw [← write?_eq_none_iff (document.take (outlets.file file document).arrived)] at h
  rcases h with h | h <;> simp [saveReport, h]

/-- A file that was created has what arrived of the report. -/
theorem exists_saveReport_of_created (document : Bytes) (hpermits : outlets.permits file)
    (hplace : t.write? file [] ≠ none) :
    ∃ written, t.write? file (document.take (outlets.file file document).arrived) = some written ∧
      saveReport t outlets file document =
        ⟨if (outlets.file file document).failed then some (.notWritten file) else none, [],
          written⟩ := by
  obtain ⟨written, hwritten⟩ := Option.ne_none_iff_exists'.mp
    (mt (write?_eq_none_iff (document.take (outlets.file file document).arrived)).mp hplace)
  exact ⟨written, hwritten, by simp [saveReport, hpermits, hwritten]⟩

/-- Saving leaves what the file takes, and fails if that loses anything or if there can be
no such file. -/
theorem leaves_saveReport :
    Leaves t outlets document (some file) (saveReport t outlets file document) := by
  by_cases hrefused : outlets.permits file = false ∨ t.write? file [] = none
  · rw [saveReport_of_refused hrefused]
    refine ⟨fun e => ?_, rfl, .inl ⟨rfl, rfl⟩⟩
    rw [Option.some.injEq]
    constructor
    · rintro rfl
      exact .notCreated hrefused
    · rintro (_ | _ | ⟨hpermits, hplace, -⟩)
      · rfl
      · rcases hrefused with h | h
        · rw [h] at hpermits
          cases hpermits
        · exact absurd h hplace
  · obtain ⟨hpermits, hplace⟩ := not_or.mp hrefused
    rw [Bool.not_eq_false] at hpermits
    obtain ⟨written, hwritten, hreport⟩ :=
      exists_saveReport_of_created document hpermits hplace
    rw [hreport]
    refine ⟨fun e => ?_, rfl, .inr hwritten⟩
    rw [Option.ite_none_right_eq_some, Option.some.injEq]
    constructor
    · rintro ⟨hlost, rfl⟩
      exact .notWritten hpermits hplace hlost
    · rintro (_ | h | ⟨-, -, hlost⟩)
      · exact absurd h hrefused
      · exact ⟨hlost, rfl⟩

/-- **The writing of a report** is the last thing that can fail. -/
theorem leaves_writeReport (output : Option Path) (p : Project) :
    Leaves t outlets (Utf8.encode p.document) output (writeReport t outlets output p) := by
  cases output with
  | none => exact leaves_printReport
  | some file => exact leaves_saveReport

/-- **After the set-up only writing fails.**  A job is refused exactly for the
first fault of its texts, and never for those of a sound configuration alone.
A job that was set up takes its inputs in, and a run with such a job fails
exactly where its report cannot be printed, or its file cannot be created or
written. -/
theorem fails_only_in_writing :
    (∀ current o c e, Job.setUp current o c = .error e ↔ Job.Fault o c e) ∧
      (∀ current o c, o.toolset = none → o.charset = none → o.macros = [] →
        c.validate = .ok () → ∃ j, Job.setUp current o c = .ok j) ∧
      (∀ current o c j, Job.setUp current o c = .ok j →
        ∀ read, j.ingest read = .ok (j.finished read)) ∧
      ∀ (t : FileTree) (outlets : Outlets) (s : Surroundings) (words : List Text) (j : Job),
        plan t.find s words = .ok j →
          ∃ outcome, run t outlets s words = .ok outcome ∧
            Leaves t outlets (Utf8.encode (j.finished ⟨t.read?, s.eastAsian⟩).document) j.output
              outcome := by
  refine ⟨fun _ _ _ _ => Job.setUp_eq_error_iff,
    fun _ _ _ htoolset hcharset hmacros hvalid =>
      Job.setUp_of_validate htoolset hcharset hmacros hvalid,
    fun _ _ _ _ hsetUp read => Job.ingest_of_setUp hsetUp read, ?_⟩
  intro t outlets s words j hplan
  obtain ⟨o, c, hsetUp⟩ := exists_setUp_of_plan hplan
  have hingest := Job.ingest_of_setUp hsetUp ⟨t.read?, s.eastAsian⟩
  refine ⟨writeReport t outlets j.output (j.finished ⟨t.read?, s.eastAsian⟩), ?_,
    leaves_writeReport _ _⟩
  simp only [run, hplan, hingest]

/-- A configuration of two logs. -/
def workConfig : Config :=
  { Config.default with buildLogs := [⟨"a.log".toList⟩, ⟨"b.log".toList⟩] }

/-- A directory with this configuration, in which one of the logs is missing. -/
def workTree : FileTree :=
  .ofFiles ⟨"/work".toList⟩
    [("env.yml".toList, Utf8.encode "schema: '1.0'\nbuild_logs: [a.log, b.log]\n".toList),
      ("a.log".toList, Utf8.encode "cl /c main.cpp".toList)]

/-- A run in this directory. -/
def workSurroundings : Surroundings :=
  ⟨"env".toList, ⟨"/work".toList⟩, none, Charset.EastAsian.asciiOnly⟩

/-- A disk on which files can be created, but there is room for ten bytes only. -/
def fullDisk : Outlets :=
  { Outlets.lossless with file := fun _ _ => ⟨10, true⟩ }

/-- On a full disk a run comes to its report and fails in writing it. -/
theorem fails_only_in_writing_full_disk :
    workConfig.validate = .ok () ∧
      ∃ j, Job.setUp ⟨"/work".toList⟩ .empty workConfig = .ok j ∧
        plan workTree.find workSurroundings ["-o".toList, "out.json".toList] =
          .ok { j with output := some ⟨"out.json".toList⟩ } ∧
        (∀ read, j.ingest read = .ok (j.finished read)) ∧
        ∃ outcome,
          run workTree fullDisk workSurroundings ["-o".toList, "out.json".toList] = .ok outcome ∧
          outcome.failure? = some (.notWritten ⟨"out.json".toList⟩) := by
  have hvalid : workConfig.validate = .ok () := by decide +kernel
  obtain ⟨-, hsound, hingest, hrun⟩ := fails_only_in_writing
  obtain ⟨j, hj⟩ := hsound ⟨"/work".toList⟩ .empty workConfig rfl rfl rfl hvalid
  have hplan : plan workTree.find workSurroundings ["-o".toList, "out.json".toList] =
      .ok { j with output := some ⟨"out.json".toList⟩ } := by
    obtain rfl := Except.ok.inj hj
    rfl
  obtain ⟨outcome, houtcome, hleaves⟩ := hrun workTree fullDisk _ _ _ hplan
  refine ⟨hvalid, j, hj, hplan, hingest _ _ _ j hj, outcome, houtcome, ?_⟩
  exact (hleaves.failure _).mpr (.notWritten rfl (by decide +kernel) rfl)

end Session

end BuildEnv
