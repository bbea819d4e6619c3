import BuildEnv.Project.Ingest
import BuildEnv.Proofs.Log.Sighting
import BuildEnv.Proofs.Settings.Containers

/-!
# The operations on a project

A project is changed by settings, which replace or extend what holds for all
files, and by additions of records: given by the caller, told by build logs, or
told by databases.  Every operation is therefore either a setting or the
addition of some records one after the other (`Operation.apply_eq_addRecords`),
and what holds of every reachable project is proved by `run_induction` from
the settings and the addition of one record.
-/

namespace BuildEnv

/-- The macros of an invocation are made by the operations of tables. -/
theorem Invocation.built_applyMacros (i : Invocation) {t : MacroTable} (h : t.Built) :
    (i.applyMacros t).Built :=
  (h.insertAll i.definitions).eraseAll i.removals

/-- The predefined macros are built from a list. -/
theorem Profile.built_predefined (p : Profile) : p.predefined.Built :=
  MacroTable.Built.ofList _

/-- Settings that a command line tells.  Its explicit macros come on top of those
that the compiler predefines, or of none. -/
inductive UnitSettings.Told : UnitSettings → Prop
  | onProfile (d : Switch.Dialect) (words : List Text) (ds : List Path) (p : Profile) :
      Told ⟨.ofList ds, (Invocation.ofWords d words).applyMacros p.predefined⟩
  | onNone (d : Switch.Dialect) (words : List Text) (ds : List Path) :
      Told ⟨.ofList ds, (Invocation.ofWords d words).applyMacros .empty⟩

/-- What a command line tells is made by the operations of tables. -/
theorem UnitSettings.Told.built {s : UnitSettings} (h : s.Told) : s.Built := by
  cases h with
  | onProfile d words ds p =>
      exact ⟨.ofList ds, Invocation.built_applyMacros _ p.built_predefined⟩
  | onNone d words ds => exact ⟨.ofList ds, Invocation.built_applyMacros _ .empty⟩

/-- What a log tells is told by the command lines of calls. -/
theorem BuildLog.told_of_mem_records {lines : List Text} {base : Path} {u : UnitRecord}
    (hu : u ∈ records lines base) : u.settings.Told := by
  rw [records_eq_outcomes] at hu
  obtain ⟨⟨past, e⟩, -, hgiven⟩ := List.mem_flatMap.mp hu
  obtain ⟨line, m⟩ := e
  cases m with
  | invocation compiler arguments =>
      obtain ⟨source, -, rfl⟩ := List.mem_map.mp hgiven
      exact .onProfile _ _ _ _
  | _ => cases hgiven

/-- What a database tells is told by the command lines of its entries. -/
theorem Database.told_of_mem_records {entries : List Entry} {u : UnitRecord}
    (hu : u ∈ records entries) : u.settings.Told := by
  obtain ⟨e, -, hunit⟩ := List.mem_filterMap.mp hu
  cases hwords : e.words with
  | error fault =>
      rw [Entry.unit, hwords] at hunit
      cases hunit
  | ok words =>
      rw [Entry.unit_of_words hwords] at hunit
      obtain rfl := Option.some.inj hunit
      show (Entry.settings words e.directory.normalize).Told
      unfold Entry.settings Entry.predefined
      cases Entry.dialect words with
      | msvc => exact .onProfile _ _ _ _
      | gcc => exact .onNone _ _ _

namespace Project

/-- A change of the base directory or of the defaults. -/
inductive Setting where
  | baseDirectory (d : Path)
  | searchPath (ds : List Path)
  | directory (d : Path)
  | macros (ms : List Macro)
  | definition (m : Macro)

/-- The project after a setting. -/
def Setting.apply (p : Project) : Setting → Project
  | baseDirectory d => p.setBaseDirectory d
  | searchPath ds => p.setSearchPath ds
  | directory d => p.addDirectory d
  | macros ms => p.setMacros ms
  | definition m => p.addMacro m

/-- Something that happens to a project.  Log files and databases are read
through the reader that holds their contents at that time. -/
inductive Operation where
  | setting (s : Setting)
  | addRecord (u : UnitRecord) (built : u.settings.Built)
  | addRecords (records : List UnitRecord) (built : ∀ u ∈ records, u.settings.Built)
  | addLogs (read : FileReader) (files : List Path) (toolset charset : Text)
  | addDatabases (read : FileReader) (files : List Path)

/-- The project after an operation, also after one that is refused. -/
def Operation.apply (p : Project) : Operation → Project
  | setting s => s.apply p
  | addRecord u _ => p.addRecord u
  | addRecords records _ => p.addRecords records
  | addLogs read files toolset charset => (p.addLogs read files toolset charset).2
  | addDatabases read files => p.addDatabases read files

/-- The records that a log file tells. -/
def logAdditions (read : FileReader) (c : Charset) (base file : Path) : List UnitRecord :=
  match read.bytes? file with
  | none => []
  | some bytes => BuildLog.records (Text.lines (c.decode read.eastAsian bytes).text) base

/-- The records that a database tells. -/
def databaseAdditions (read : FileReader) (file : Path) : List UnitRecord :=
  match (read.bytes? file).bind Database.ofBytes? with
  | none => []
  | some entries => Database.records entries

/-- The records that an operation adds, in order. -/
def Operation.added (p : Project) : Operation → List UnitRecord
  | setting _ => []
  | addRecord u _ => [u]
  | addRecords records _ => records
  | addLogs read files toolset charset =>
    match Charset.ofLabel? charset, Toolset.ofKey? toolset with
    | some c, some .visualCpp => files.flatMap (logAdditions read c p.baseDirectory)
    | _, _ => []
  | addDatabases read files => files.flatMap (databaseAdditions read)

/-- The project after some operations. -/
def run (p : Project) (ops : List Operation) : Project :=
  ops.foldl Operation.apply p

/-- The history of some operations: all records that they add, in order. -/
def additions : Project → List Operation → List UnitRecord
  | _, [] => []
  | p, op :: rest => op.added p ++ additions (op.apply p) rest

theorem addRecords_append (p : Project) (us vs : List UnitRecord) :
    p.addRecords (us ++ vs) = (p.addRecords us).addRecords vs :=
  List.foldl_append

/-- Records change neither the base directory nor the defaults. -/
theorem baseDirectory_addRecords (p : Project) (us : List UnitRecord) :
    (p.addRecords us).baseDirectory = p.baseDirectory := by
  induction us generalizing p with
  | nil => rfl
  | cons u rest ih => exact ih (p.addRecord u)

/-- A log file adds its records. -/
theorem addLogFile_eq (read : FileReader) (c : Charset) (p : Project) (file : Path) :
    addLogFile read c p file = p.addRecords (logAdditions read c p.baseDirectory file) := by
  unfold addLogFile logAdditions
  cases read.bytes? file with
  | none => rfl
  | some bytes => rfl

theorem addDatabase_eq (read : FileReader) (p : Project) (file : Path) :
    addDatabase read p file = p.addRecords (databaseAdditions read file) := by
  unfold addDatabase databaseAdditions
  cases (read.bytes? file).bind Database.ofBytes? with
  | none => rfl
  | some entries => rfl

/-- The records of one log do not change where the paths of the next start. -/
theorem foldl_addLogFile (read : FileReader) (c : Charset) (p : Project) (files : List Path) :
    files.foldl (addLogFile read c) p =
      p.addRecords (files.flatMap (logAdditions read c p.baseDirectory)) := by
  induction files generalizing p with
  | nil => rfl
  | cons file rest ih =>
      rw [List.foldl_cons, ih, addLogFile_eq, baseDirectory_addRecords, ← addRecords_append,
        List.flatMap_cons]

/-- Databases add the records of all of them, in order. -/
theorem addDatabases_eq (p : Project) (read : FileReader) (files : List Path) :
    p.addDatabases read files = p.addRecords (files.flatMap (databaseAdditions read)) := by
  induction files generalizing p with
  | nil => rfl
  | cons file rest ih =>
      have hstep : p.addDatabases read (file :: rest) =
          (addDatabase read p file).addDatabases read rest := rfl
      rw [hstep, ih, addDatabase_eq, ← addRecords_append, List.flatMap_cons]

/-- **An operation is a setting or the addition of its records.** -/
theorem Operation.apply_eq_addRecords {op : Operation} (h : ∀ s, op ≠ .setting s) (p : Project) :
    op.apply p = p.addRecords (op.added p) := by
  cases op with
  | setting s => exact absurd rfl (h s)
  | addRecord u built => rfl
  | addRecords records built => rfl
  | addLogs read files toolset charset =>
      simp only [apply, added, Project.addLogs]
      cases Charset.ofLabel? charset with
      | none => rfl
      | some c =>
          cases Toolset.ofKey? toolset with
          | none => rfl
          | some t =>
              cases t
              exact foldl_addLogFile read c p files
  | addDatabases read files => exact addDatabases_eq p read files

/-- The records that the caller gives. -/
def Operation.given : Operation → List UnitRecord
  | addRecord u _ => [u]
  | addRecords records _ => records
  | setting _ | addLogs _ _ _ _ | addDatabases _ _ => []

/-- What the caller does not give is told by command lines. -/
theorem Operation.told_of_mem_added {op : Operation} {p : Project} {u : UnitRecord}
    (hu : u ∈ op.added p) (hgiven : u ∉ op.given) : u.settings.Told := by
  cases op with
  | setting s => cases hu
  | addRecord v built => exact absurd hu hgiven
  | addRecords records built => exact absurd hu hgiven
  | addLogs read files toolset charset =>
      simp only [added] at hu
      split at hu
      · obtain ⟨file, -, hfile⟩ := List.mem_flatMap.mp hu
        unfold logAdditions at hfile
        split at hfile
        · cases hfile
        · exact BuildLog.told_of_mem_records hfile
      · cases hu
  | addDatabases read files =>
      obtain ⟨file, -, hfile⟩ := List.mem_flatMap.mp hu
      unfold databaseAdditions at hfile
      split at hfile
      · cases hfile
      · exact Database.told_of_mem_records hfile

/-- The records that a caller gives have built settings. -/
theorem Operation.built_of_mem_given {op : Operation} {u : UnitRecord} (hu : u ∈ op.given) :
    u.settings.Built := by
  cases op with
  | addRecord v built =>
      obtain rfl := List.mem_singleton.mp hu
      exact built
  | addRecords records built => exact built u hu
  | _ => cases hu

/-- Whatever an operation adds, its settings are made by the operations of
tables. -/
theorem Operation.built_of_mem_added {op : Operation} {p : Project} {u : UnitRecord}
    (hu : u ∈ op.added p) : u.settings.Built := by
  by_cases hgiven : u ∈ op.given
  · exact built_of_mem_given hgiven
  · exact (told_of_mem_added hu hgiven).built

section Induction

variable {motive : Project → List UnitRecord → Prop}

/-- **Induction over records.**  What each record keeps, all of them keep. -/
theorem addRecords_induction
    (record : ∀ p h u, u.settings.Built → motive p h → motive (p.addRecord u) (h ++ [u]))
    {p : Project} {h : List UnitRecord} (hp : motive p h) {us : List UnitRecord}
    (hus : ∀ u ∈ us, u.settings.Built) : motive (p.addRecords us) (h ++ us) := by
  induction us generalizing p h with
  | nil => simpa [addRecords] using hp
  | cons u rest ih =>
      have hu := record p h u (hus u List.mem_cons_self) hp
      have hrest := ih hu fun v hv => hus v (List.mem_cons_of_mem _ hv)
      rwa [List.append_assoc, List.singleton_append] at hrest

/-- **Reachable projects.**  What holds of the empty project and is kept by
every setting and every addition of one record holds after all operations, of
the project and its history. -/
theorem run_induction (start : motive .empty [])
    (setting : ∀ p h s, motive p h → motive (Setting.apply p s) h)
    (record : ∀ p h u, u.settings.Built → motive p h → motive (p.addRecord u) (h ++ [u]))
    (ops : List Operation) : motive (run .empty ops) (additions .empty ops) := by
  suffices hrun : ∀ p h, motive p h → motive (run p ops) (h ++ additions p ops) from
    hrun .empty [] start
  induction ops with
  | nil =>
      intro p h hp
      simpa [run, additions] using hp
  | cons op rest ih =>
      intro p h hp
      have hstep : motive (op.apply p) (h ++ op.added p) := by
        by_cases hset : ∃ s, op = .setting s
        · obtain ⟨s, rfl⟩ := hset
          rw [Operation.added, List.append_nil]
          exact setting p h s hp
        · rw [Operation.apply_eq_addRecords (not_exists.mp hset)]
          exact addRecords_induction record hp fun u hu => Operation.built_of_mem_added hu
      have hrest := ih _ _ hstep
      rwa [List.append_assoc] at hrest

end Induction

end Project

end BuildEnv
