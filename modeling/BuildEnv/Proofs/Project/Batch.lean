import BuildEnv.Proofs.Database.Written
import BuildEnv.Proofs.Log.Resolution
import BuildEnv.Proofs.Project.Repetition

/-!
# Several files in one call

Build logs and databases are handed over in lists, and any of their files can
be damaged.  A call takes its files in turn (`InTurn`): it adds what the files
that can be read tell, each for itself, so that a call can be cut anywhere and
a damaged file costs nothing but what it would have told.

Of a log that is its whole text, under the base directory that the project has
before the call; nothing that one file says about its toolset or its project
is heard in the next.  Of a database it is each element for itself.

What is told is found in the project afterwards (`Project.Installed`): a file has
the settings of its last record, and stands where the last record of it puts it.

A charset or a toolset that is not known stops the call before the first file
is read, and the project stays as it is (`ingests_inTurn`).
-/

namespace BuildEnv

/-- What a log file tells. -/
def BuildLog.recordsOfBytes (eastAsian : Charset.EastAsian.Decoder) (c : Charset) (base : Path)
    (bytes : Bytes) : List UnitRecord :=
  records (Text.lines (c.decode eastAsian bytes).text) base

namespace Database

/-- The elements of a database.  A file that is no array has none. -/
def elements (bytes : Bytes) : List Json :=
  match (Utf8.strict? bytes).bind Json.ofText? with
  | some (.array items) => items
  | _ => []

/-- The record of an element, unless it is no entry or its entry has a
fault. -/
def recordOfElement? (element : Json) : Option UnitRecord :=
  (Entry.ofJson? element).bind fun e => e.unit.toOption

/-- What a database tells. -/
def recordsOfBytes (bytes : Bytes) : List UnitRecord :=
  (elements bytes).filterMap recordOfElement?

/-- A database gives records if it can be read, and none otherwise. -/
theorem recordsOfBytes_eq (bytes : Bytes) :
    recordsOfBytes bytes = ((ofBytes? bytes).map records).getD [] := by
  unfold recordsOfBytes elements ofBytes? ofText?
  rw [← Option.bind_assoc]
  cases (Utf8.strict? bytes).bind Json.ofText? with
  | none => rfl
  | some value =>
      cases value with
      | array items =>
          show items.filterMap recordOfElement? = records (items.filterMap Entry.ofJson?)
          rw [records, List.filterMap_filterMap]
          rfl
      | _ => rfl

end Database

namespace Project

open UnitRecord (key)

/-- The records were taken in, from first to last, and nothing else was changed. -/
structure Installed (before : Project) (records : List UnitRecord) (after : Project) : Prop where
  baseDirectory : after.baseDirectory = before.baseDirectory
  defaults : after.defaults = before.defaults
  /-- A file has the settings of its last record. -/
  settings : ∀ file, after.settings? file =
    ((latestOf file records).map UnitRecord.settings).or (before.settings? file)
  /-- The files with a new record are the last ones, by their last records. -/
  writeOrder : (∃ ops, before = run .empty ops) → after.writeOrder =
    before.writeOrder.filter (fun file => file ∉ records.map key) ++ (records.map key).dedup

/-- What was added one after the other is installed. -/
theorem installed_addRecords (p : Project) (us : List UnitRecord) :
    Installed p us (p.addRecords us) where
  baseDirectory := baseDirectory_addRecords p us
  defaults := defaults_addRecords p us
  settings := settings?_addRecords p us
  writeOrder := by
    rintro ⟨ops, rfl⟩
    rw [(recalls_run ops).inStep.writeOrder_addRecords, map_key_latest]

/-- Files are taken in one after the other. -/
structure InTurn (read : FileReader) (told : Path → Bytes → List UnitRecord)
    (add : Project → List Path → Project) : Prop where
  /-- The files that can be read add what each of them tells under the base
  directory, in order. -/
  installed : ∀ p files,
    Installed p ((files.filterMap read.bytes?).flatMap (told p.baseDirectory)) (add p files)
  /-- A list of files can be cut anywhere. -/
  append : ∀ p files more, add p (files ++ more) = add (add p files) more
  /-- A file that cannot be read changes nothing. -/
  unreadable : ∀ p file, read.bytes? file = none → add p [file] = p
  /-- A file that tells nothing changes nothing. -/
  silent : ∀ p file bytes, read.bytes? file = some bytes → told p.baseDirectory bytes = [] →
    add p [file] = p

/-- It is enough that the files add what each of them tells: this changes
neither the base directory nor what the next file tells. -/
theorem InTurn.of_eq_addRecords {read : FileReader} {told : Path → Bytes → List UnitRecord}
    {add : Project → List Path → Project}
    (h : ∀ p files,
      add p files = p.addRecords ((files.filterMap read.bytes?).flatMap (told p.baseDirectory))) :
    InTurn read told add where
  installed p files := by
    rw [h]
    exact installed_addRecords p _
  append p files more := by
    have hbase : (add p files).baseDirectory = p.baseDirectory := by
      rw [h, baseDirectory_addRecords]
    calc add p (files ++ more)
        = p.addRecords ((files.filterMap read.bytes?).flatMap (told p.baseDirectory) ++
            (more.filterMap read.bytes?).flatMap (told p.baseDirectory)) := by
          rw [h, List.filterMap_append, List.flatMap_append]
      _ = (add p files).addRecords
            ((more.filterMap read.bytes?).flatMap (told p.baseDirectory)) := by
          rw [addRecords_append, ← h]
      _ = add (add p files) more := by
          rw [h (add p files) more, hbase]
  unreadable p file hread := by
    have hnone : [file].filterMap read.bytes? = [] := List.filterMap_cons_none hread
    rw [h, hnone]
    rfl
  silent p file bytes hread htold := by
    have hone : [file].filterMap read.bytes? = [bytes] := List.filterMap_cons_some hread
    rw [h, hone, List.flatMap_singleton, htold]
    rfl

/-- What is told file by file is told by the contents that can be read. -/
theorem flatMap_eq_flatMap_filterMap {read : FileReader} {told : Bytes → List UnitRecord}
    {additions : Path → List UnitRecord}
    (hadditions : ∀ file, additions file = ((read.bytes? file).map told).getD [])
    (files : List Path) :
    files.flatMap additions = (files.filterMap read.bytes?).flatMap told := by
  induction files with
  | nil => rfl
  | cons file rest ih =>
      rw [List.flatMap_cons, hadditions, ih]
      cases hread : read.bytes? file with
      | none =>
          rw [List.filterMap_cons_none hread]
          rfl
      | some bytes =>
          rw [List.filterMap_cons_some hread, List.flatMap_cons]
          rfl

/-- A log adds what its bytes give, and a missing one nothing. -/
theorem logAdditions_eq (read : FileReader) (c : Charset) (base file : Path) :
    logAdditions read c base file =
      ((read.bytes? file).map (BuildLog.recordsOfBytes read.eastAsian c base)).getD [] := by
  unfold logAdditions
  cases read.bytes? file with
  | none => rfl
  | some bytes => rfl

theorem databaseAdditions_eq (read : FileReader) (file : Path) :
    databaseAdditions read file = ((read.bytes? file).map Database.recordsOfBytes).getD [] := by
  unfold databaseAdditions
  cases read.bytes? file with
  | none => rfl
  | some bytes =>
      show _ = Database.recordsOfBytes bytes
      rw [Option.bind_some, Database.recordsOfBytes_eq]
      cases Database.ofBytes? bytes with
      | none => rfl
      | some entries => rfl

/-- Logs of a known charset and a known toolset are taken in. -/
theorem addLogs_eq {toolset charset : Text} {c : Charset} {t : Toolset}
    (hcharset : Charset.ofLabel? charset = some c) (htoolset : Toolset.ofKey? toolset = some t)
    (read : FileReader) (p : Project) (files : List Path) :
    p.addLogs read files toolset charset =
      (.ok (), p.addRecords ((files.filterMap read.bytes?).flatMap
        (BuildLog.recordsOfBytes read.eastAsian c p.baseDirectory))) := by
  cases t
  rw [addLogs, hcharset, htoolset,
    ← flatMap_eq_flatMap_filterMap (logAdditions_eq read c p.baseDirectory), ← foldl_addLogFile]

/-- **Batches.**  Logs of a known charset and toolset, and databases, are taken
in one after the other.  An unknown charset is refused before an unknown
toolset, and both before any file. -/
theorem ingests_inTurn (read : FileReader) (toolset charset : Text) :
    (match Charset.ofLabel? charset, Toolset.ofKey? toolset with
      | none, _ => ∀ (p : Project) files,
          p.addLogs read files toolset charset = (.error (.unsupportedCharset charset), p)
      | some _, none => ∀ (p : Project) files,
          p.addLogs read files toolset charset = (.error (.unsupportedToolset toolset), p)
      | some c, some _ =>
          (∀ (p : Project) files, (p.addLogs read files toolset charset).1 = .ok ()) ∧
          InTurn read (BuildLog.recordsOfBytes read.eastAsian c) fun p files =>
            (p.addLogs read files toolset charset).2) ∧
    InTurn read (fun _ => Database.recordsOfBytes) fun p files => p.addDatabases read files := by
  have hdatabases : InTurn read (fun _ => Database.recordsOfBytes) fun p files =>
      p.addDatabases read files :=
    .of_eq_addRecords fun p files => by
      rw [addDatabases_eq, flatMap_eq_flatMap_filterMap (databaseAdditions_eq read)]
  refine ⟨?_, hdatabases⟩
  cases hcharset : Charset.ofLabel? charset with
  | none =>
      intro p files
      rw [addLogs, hcharset]
  | some c =>
      cases htoolset : Toolset.ofKey? toolset with
      | none =>
          intro p files
          rw [addLogs, hcharset, htoolset]
      | some t =>
          have hadded := addLogs_eq hcharset htoolset read
          refine ⟨fun p files => ?_, .of_eq_addRecords fun p files => ?_⟩
          · rw [hadded p files]
          · rw [hadded p files]

/-- An entry for another compiler. -/
def otherEntry : Database.Entry :=
  .ofCommand ⟨"b.c".toList⟩ "cc -c b.c".toList ⟨"/lib".toList⟩

/-- A log of one call and a database of one entry.  Nothing else can be read. -/
def twoFiles : FileReader where
  bytes? file :=
    if file = ⟨"/a.log".toList⟩ then some (Utf8.encode "cl /c a.cpp".toList)
    else if file = ⟨"/db.json".toList⟩ then
      some (Database.bytesOf ["null".toList, otherEntry.toJson.compact])
    else none
  eastAsian := Charset.EastAsian.asciiOnly

/-- The call of the log names one source. -/
theorem recordsOfBytes_call :
    BuildLog.recordsOfBytes Charset.EastAsian.asciiOnly
        ⟨"IBM866".toList, .singleByte Charset.ibm866⟩ ⟨"/build".toList⟩ (Utf8.encode "cl /c a.cpp".toList) =
      [⟨⟨"/build/a.cpp".toList⟩,
        ⟨.empty, Profile.predefined ⟨none, none, .unspecified, .empty⟩⟩⟩] := by
  have hlines : Text.lines (Charset.decode ⟨"IBM866".toList, .singleByte Charset.ibm866⟩
      Charset.EastAsian.asciiOnly (Utf8.encode "cl /c a.cpp".toList)).text =
        ["cl /c a.cpp".toList] := by
    decide +kernel
  have hsightings : Sighting.ofLines ["cl /c a.cpp".toList] =
      [⟨none, .invocation "cl".toList "/c a.cpp".toList⟩] := by
    decide +kernel
  have hcall : Invocation.ofWords .msvc (CommandLine.Windows.split "/c a.cpp".toList) =
      { Invocation.empty with sources := ["a.cpp".toList] } :=
    Invocation.ofWords_compileOnly (by decide) rfl (by decide)
  rw [BuildLog.recordsOfBytes, hlines, BuildLog.records_eq_outcomes, hsightings]
  simp only [List.inits, List.zip_cons_cons, List.zip_nil_right, List.flatMap_cons,
    List.flatMap_nil, Sighting.given_foldl_see, Sighting.recordsAfter, hcall]
  decide +kernel

/-- Of the database only the entry tells something. -/
theorem recordsOfBytes_otherEntry :
    Database.recordsOfBytes (Database.bytesOf ["null".toList, otherEntry.toJson.compact]) =
      [⟨⟨"/lib/b.c".toList⟩,
        Database.Entry.settings ["cc".toList, "-c".toList, "b.c".toList] ⟨"/lib".toList⟩⟩] := by
  have hread : Database.ofBytes? (Database.bytesOf ["null".toList, otherEntry.toJson.compact]) =
      some [otherEntry] :=
    Database.ofBytes?_bytesOf [.foreign "null".toList .null rfl rfl, .entry otherEntry]
  have hwords : otherEntry.words = .ok ["cc".toList, "-c".toList, "b.c".toList] := by
    decide +kernel
  have hfile : otherEntry.directory.normalize.absoluteTo otherEntry.file =
      ⟨"/lib/b.c".toList⟩ := by
    decide +kernel
  have hdirectory : otherEntry.directory.normalize = ⟨"/lib".toList⟩ := by decide +kernel
  rw [Database.recordsOfBytes_eq, hread, Option.map_some, Option.getD_some, Database.records,
    List.filterMap_cons, Database.Entry.unit_of_words hwords, hfile, hdirectory]
  rfl

/-- A project whose logs have relative paths. -/
def buildProject : Project :=
  Project.empty.setBaseDirectory ⟨"/build".toList⟩

/-- The project after a call with a log that is missing and one that is there. -/
def loggedProject : Project :=
  (buildProject.addLogs twoFiles [⟨"/none.log".toList⟩, ⟨"/a.log".toList⟩] "Visual C++".toList
    "866".toList).2

/-- A call that is refused, and calls with files among them that cannot be used. -/
theorem ingests_inTurn_two_files :
    buildProject.addLogs twoFiles [⟨"/a.log".toList⟩] "gcc".toList "866".toList =
        (.error (.unsupportedToolset "gcc".toList), buildProject) ∧
      loggedProject.settings? ⟨"/build/./a.cpp".toList⟩ =
        some ⟨.empty, Profile.predefined ⟨none, none, .unspecified, .empty⟩⟩ ∧
      (loggedProject.addDatabases twoFiles
          [⟨"/none.json".toList⟩, ⟨"/db.json".toList⟩]).writeOrder =
        [⟨"/build/a.cpp".toList⟩, ⟨"/lib/b.c".toList⟩] := by
  have hcharset : Charset.ofLabel? "866".toList =
      some ⟨"IBM866".toList, .singleByte Charset.ibm866⟩ := rfl
  have htoolset : Toolset.ofKey? "Visual C++".toList = some .visualCpp := by decide +kernel
  have hunknown : Toolset.ofKey? "gcc".toList = none := by decide +kernel
  have hrefused := (ingests_inTurn twoFiles "gcc".toList "866".toList).1
  obtain ⟨hlogs, hdatabases⟩ := ingests_inTurn twoFiles "Visual C++".toList "866".toList
  rw [hcharset, hunknown] at hrefused
  rw [hcharset, htoolset] at hlogs
  have hlog : [⟨"/none.log".toList⟩, ⟨"/a.log".toList⟩].filterMap twoFiles.bytes? =
      [Utf8.encode "cl /c a.cpp".toList] := by
    decide +kernel
  have hbase : buildProject.baseDirectory = ⟨"/build".toList⟩ := by decide +kernel
  have hdecoder : twoFiles.eastAsian = Charset.EastAsian.asciiOnly := rfl
  have hlogged : Installed buildProject _ loggedProject :=
    hlogs.2.installed buildProject [⟨"/none.log".toList⟩, ⟨"/a.log".toList⟩]
  rw [hlog, hbase, List.flatMap_singleton, hdecoder, recordsOfBytes_call] at hlogged
  have hdatabase : [⟨"/none.json".toList⟩, ⟨"/db.json".toList⟩].filterMap twoFiles.bytes? =
      [Database.bytesOf ["null".toList, otherEntry.toJson.compact]] := by
    decide +kernel
  have hread := hdatabases.installed loggedProject [⟨"/none.json".toList⟩, ⟨"/db.json".toList⟩]
  rw [hdatabase, List.flatMap_singleton, recordsOfBytes_otherEntry] at hread
  have hstart : ∃ ops, buildProject = run .empty ops :=
    ⟨[.setting (.baseDirectory ⟨"/build".toList⟩)], rfl⟩
  have hmiddle : ∃ ops, loggedProject = run .empty ops :=
    ⟨[.setting (.baseDirectory ⟨"/build".toList⟩), .addLogs twoFiles
      [⟨"/none.log".toList⟩, ⟨"/a.log".toList⟩] "Visual C++".toList "866".toList], rfl⟩
  refine ⟨hrefused buildProject _, ?_, ?_⟩
  · rw [hlogged.settings, latestOf]
    decide +kernel
  · rw [hread.writeOrder hmiddle, hlogged.writeOrder hstart]
    decide +kernel

end Project

end BuildEnv
