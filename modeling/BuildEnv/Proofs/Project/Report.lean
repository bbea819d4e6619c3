import BuildEnv.Project.Report
import BuildEnv.Proofs.Json.Written
import BuildEnv.Proofs.Project.Naming
import BuildEnv.Proofs.Project.Repetition

/-!
# What a report tells

A report is read by taking its arrays from the document and every macro from its
line.  As long as no name of a macro has a blank in it, what is read is an image
of the project: one element for each record, in the order of paths, and the
merged view at the top.  Only the difference between an empty value and none is
lost.

* `Report.ofDocument?`: the reader.
* `Project.ofDocument?_document`: what it reads from the document of a project.
* `Project.document_faithful`: the image is faithful, and projects with one
  document look alike.
-/

namespace BuildEnv

/-- What a report tells: the merged view, and the records of the files. -/
structure Report where
  merged : UnitSettings
  units : List UnitRecord
  deriving DecidableEq, Repr

namespace Report

open Database.Entry (text? texts?)

/-- The settings among the fields of an object. -/
def settings? (fields : List (Text × Json)) : Option UnitSettings := do
  let directories ← (← Json.field? fields "include_directories".toList) |> texts?
  let lines ← (← Json.field? fields "defines".toList) |> texts?
  some ⟨⟨directories.map Path.mk⟩, ⟨lines.map Macro.ofLine⟩⟩

/-- The element of a file. -/
def unit? : Json → Option UnitRecord
  | .object fields => do
    let file ← (← Json.field? fields "file".toList) |> text?
    let settings ← settings? fields
    some ⟨⟨file⟩, settings⟩
  | _ => none

/-- The elements of all files. -/
def units? : Json → Option (List UnitRecord)
  | .array items => items.mapM unit?
  | _ => none

/-- The report that a value of JSON is. -/
def ofJson? : Json → Option Report
  | .object fields => do
    let merged ← settings? fields
    let units ← (← Json.field? fields "units".toList) |> units?
    some ⟨merged, units⟩
  | _ => none

/-- The report that a document is. -/
def ofDocument? (document : Text) : Option Report :=
  (Json.ofText? document).bind ofJson?

end Report

namespace Project

open Database.Entry (text? texts?)
open Json (Textual)

section Shape

theorem textual_textList (d : Nat) (texts : List Text) : Textual (d + 1) (textList texts) := by
  refine .array fun v hv => ?_
  obtain ⟨t, -, rfl⟩ := List.mem_map.mp hv
  exact .string d t

/-- Settings are written in texts. -/
theorem textual_settingsFields (d : Nat) (searchPath : SearchPath) (macros : MacroTable) :
    ∀ f ∈ settingsFields searchPath macros, Textual (d + 1) f.2 := by
  intro f hf
  rcases List.mem_cons.mp hf with rfl | hf
  · exact textual_textList d _
  · obtain rfl := List.mem_singleton.mp hf
    exact textual_textList d _

/-- The report of a unit is textual. -/
theorem textual_unitReport (file : Path) (s : UnitSettings) : Textual 2 (unitReport file s) := by
  refine .object fun f hf => ?_
  rcases List.mem_cons.mp hf with rfl | hf
  · exact .string 1 _
  · exact textual_settingsFields 0 _ _ f hf

/-- The report of a project is textual, and nested no deeper than four levels. -/
theorem textual_report (p : Project) : Textual 4 p.report := by
  refine .object fun f hf => ?_
  rcases List.mem_append.mp hf with hf | hf
  · exact textual_settingsFields 2 _ _ f hf
  · obtain rfl := List.mem_singleton.mp hf
    refine .array fun v hv => ?_
    obtain ⟨file, -, hunit⟩ := List.mem_filterMap.mp hv
    obtain ⟨s, -, rfl⟩ := Option.map_eq_some_iff.mp hunit
    exact textual_unitReport file s

end Shape

section Reading

theorem texts?_textList (texts : List Text) : texts? (textList texts) = some texts := by
  have hread : (texts.map Json.string).mapM text? = some (texts.map id) :=
    Json.mapM_map_eq_some fun _ _ => rfl
  rwa [List.map_id] at hread

/-- The arrays of a search path and a macro table. -/
theorem settings?_eq {fields : List (Text × Json)} {searchPath : SearchPath} {macros : MacroTable}
    (hdirectories : Json.field? fields "include_directories".toList =
      some (textList (searchPath.directories.map Path.text)))
    (hlines : Json.field? fields "defines".toList = some (textList macros.texts))
    (hmacros : macros.PlainNames) :
    Report.settings? fields = some ⟨searchPath, macros.shown⟩ := by
  have hpaths : (searchPath.directories.map Path.text).map Path.mk = searchPath.directories := by
    rw [List.map_map]
    exact List.map_id _
  rw [Report.settings?, hdirectories, hlines]
  show ((texts? _).bind fun directories => (texts? _).bind fun lines => _) = _
  rw [texts?_textList, texts?_textList]
  show some (UnitSettings.mk ⟨_⟩ ⟨_⟩) = _
  rw [hpaths, hmacros.map_ofLine]

/-- **The report of a unit is read back** as the unit, up to what lines do not show. -/
theorem unit?_unitReport {u : UnitRecord} (h : u.settings.macros.PlainNames) :
    Report.unit? (unitReport u.file u.settings) = some u.shown := by
  show (Report.settings? _).bind _ = _
  rw [settings?_eq rfl rfl h]
  rfl

/-- The settings of every file are found again under its name, since the name is
in normal form. -/
theorem unitReports_eq {p : Project} (h : p.units.Normal) :
    p.unitReports = p.units.entries.map fun u => unitReport u.file u.settings := by
  have hfound : ∀ u ∈ p.units.entries, (p.settings? u.file).map (unitReport u.file) =
      some (unitReport u.file u.settings) := by
    intro u hu
    rw [settings?, h u.file (List.mem_map_of_mem hu), UnitTable.get?_of_mem hu]
    rfl
  rw [unitReports, files, UnitTable.files, List.filterMap_map, ← List.filterMap_eq_map]
  exact List.filterMap_congr hfound

/-- **The document is read again** as the records of all files and the merged
view. -/
theorem ofDocument?_document {p : Project} (hnormal : p.units.Normal) (h : p.PlainNames) :
    Report.ofDocument? p.document =
      some ⟨⟨p.mergedSearchPath, p.mergedMacros.shown⟩, p.units.entries.map UnitRecord.shown⟩ := by
  have htext : Json.ofText? p.document = some p.report := by
    refine p.textual_report.ofText?_pretty (by decide) fun c hc => ?_
    exact .inr (List.mem_singleton.mp hc)
  have hunits : Report.units? (.array p.unitReports) =
      some (p.units.entries.map UnitRecord.shown) := by
    rw [unitReports_eq hnormal]
    exact Json.mapM_map_eq_some fun u hu => unit?_unitReport (h.units u hu)
  rw [Report.ofDocument?, htext, Option.bind_some]
  show (Report.settings? _).bind (fun merged =>
    (Report.units? (.array p.unitReports)).bind fun units => _) = _
  rw [settings?_eq rfl rfl h.mergedMacros, hunits]
  rfl

end Reading

end Project

open Project (mergedSearchPath mergedMacros)

/-- A report is a faithful image of a project. -/
structure Report.Faithful (r : Report) (p : Project) : Prop where
  /-- There is one element for each record. -/
  units_perm : r.units.Perm (p.records.map UnitRecord.shown)
  files : r.units.map UnitRecord.file = p.files
  units_increasing : r.units.Pairwise fun u v => u.file.lt v.file
  settings : ∀ u ∈ r.units, (p.settings? u.file).map UnitSettings.shown = some u.settings
  mem_files : ∀ file, file.normalize ∈ r.units.map UnitRecord.file ↔ (p.settings? file).isSome
  merged : r.merged = ⟨p.mergedSearchPath, p.mergedMacros.shown⟩
  names_nodup : ∀ u ∈ r.units, u.settings.macros.names.Nodup
  merged_names_nodup : r.merged.macros.names.Nodup
  directories_merged : ∀ u ∈ r.units,
    u.settings.searchPath.directories ⊆ r.merged.searchPath.directories
  names_merged : ∀ u ∈ r.units, u.settings.macros.names ⊆ r.merged.macros.names

namespace Project

/-- Two projects have the same records and the same merged view, up to the
difference between an empty value and none. -/
structure LooksLike (p q : Project) : Prop where
  files : p.files = q.files
  settings : ∀ file, (p.settings? file).map UnitSettings.shown =
    (q.settings? file).map UnitSettings.shown
  mergedSearchPath : p.mergedSearchPath = q.mergedSearchPath
  mergedMacros : p.mergedMacros.shown = q.mergedMacros.shown

variable {p : Project} {history : List UnitRecord}

/-- Table and order hold the same records. -/
theorem Recalls.entries_perm_records (h : Recalls p history) : p.units.entries.Perm p.records := by
  have hfiles : p.records.map UnitRecord.file = (latest history).map UnitRecord.key := by
    rw [h.records, List.map_map]
    rfl
  have hnodup : p.records.Nodup := .of_map UnitRecord.file (hfiles ▸ nodup_keys_latest history)
  refine (List.perm_ext_iff_of_nodup p.units.nodup_entries hnodup).mpr fun u => ?_
  rw [h.normal.mem_entries_iff]
  constructor
  · rintro ⟨hnormal, hfound⟩
    have hmem : u.file ∈ p.files := (h.normal.mem_files_iff hnormal).mpr (by rw [hfound]; rfl)
    have horder : u.file ∈ p.writeOrder := (h.consistent.mem_writeOrder u.file).mpr hmem
    exact List.mem_filterMap.mpr ⟨u.file, horder, by rw [hfound]; rfl⟩
  · intro hu
    obtain ⟨file, horder, hfound⟩ := List.mem_filterMap.mp hu
    obtain ⟨s, hs, rfl⟩ := Option.map_eq_some_iff.mp hfound
    exact ⟨h.normal file ((h.consistent.mem_writeOrder file).mp horder), hs⟩

/-- The settings of a record are those of an addition that was not replaced. -/
theorem Recalls.exists_mem_latest (h : Recalls p history) {u : UnitRecord}
    (hu : u ∈ p.units.entries) : ∃ v ∈ latest history, v.settings = u.settings := by
  have hrecord := h.entries_perm_records.mem_iff.mp hu
  rw [h.records] at hrecord
  obtain ⟨v, hv, rfl⟩ := List.mem_map.mp hrecord
  exact ⟨v, hv, rfl⟩

/-- The merged search path has the directories of every unit. -/
theorem Recalls.directories_subset (h : Recalls p history) {u : UnitRecord}
    (hu : u ∈ p.units.entries) :
    u.settings.searchPath.directories ⊆ p.mergedSearchPath.directories := by
  obtain ⟨v, hv, hsettings⟩ := h.exists_mem_latest hu
  intro d hd
  rw [h.directories_mergedSearchPath, List.mem_eraseDups, List.mem_append, List.mem_flatMap]
  exact .inr ⟨v, hv, hsettings ▸ hd⟩

/-- The merged macros have the names of every unit. -/
theorem Recalls.names_subset (h : Recalls p history) {u : UnitRecord} (hu : u ∈ p.units.entries) :
    u.settings.macros.names ⊆ p.mergedMacros.names := by
  obtain ⟨v, hv, hsettings⟩ := h.exists_mem_latest hu
  intro name hname
  rw [h.names_mergedMacros, List.mem_eraseDups, List.mem_append, List.mem_flatMap]
  exact .inr ⟨v, hv, hsettings ▸ hname⟩

/-- The report of a project that recalls its history is faithful. -/
theorem Recalls.faithful (h : Recalls p history) :
    Report.Faithful ⟨⟨p.mergedSearchPath, p.mergedMacros.shown⟩, p.units.entries.map .shown⟩ p where
  units_perm := h.entries_perm_records.map _
  files := List.map_map
  units_increasing := List.pairwise_map.mpr p.units.increasing
  settings u hu := by
    obtain ⟨v, hv, rfl⟩ := List.mem_map.mp hu
    show (p.units.get? v.file.normalize).map _ = some v.settings.shown
    rw [h.normal v.file (List.mem_map_of_mem hv), UnitTable.get?_of_mem hv]
    rfl
  mem_files file := by
    rw [List.map_map]
    exact h.normal.mem_files_iff file.normalize_normalize
  merged := rfl
  names_nodup u hu := by
    obtain ⟨v, hv, rfl⟩ := List.mem_map.mp hu
    show v.settings.macros.shown.names.Nodup
    rw [MacroTable.names_shown]
    exact (h.consistent.settings v hv).names_nodup
  merged_names_nodup := by
    show p.mergedMacros.shown.names.Nodup
    rw [MacroTable.names_shown, h.names_mergedMacros]
    exact nodup_eraseDups _
  directories_merged u hu := by
    obtain ⟨v, hv, rfl⟩ := List.mem_map.mp hu
    exact h.directories_subset (u := v) hv
  names_merged u hu := by
    obtain ⟨v, hv, rfl⟩ := List.mem_map.mp hu
    show v.settings.macros.shown.names ⊆ p.mergedMacros.shown.names
    rw [MacroTable.names_shown, MacroTable.names_shown]
    exact h.names_subset hv

/-- Projects of which one report is a faithful image look alike. -/
theorem LooksLike.of_faithful {r : Report} {q : Project} (hp : r.Faithful p) (hq : r.Faithful q) :
    p.LooksLike q where
  files := hp.files.symm.trans hq.files
  settings file := by
    by_cases hfile : file.normalize ∈ r.units.map UnitRecord.file
    · obtain ⟨u, hu, hname⟩ := List.mem_map.mp hfile
      have hunit := (hp.settings u hu).trans (hq.settings u hu).symm
      rwa [hname, settings?, settings?, file.normalize_normalize] at hunit
    · have hnone : ∀ x : Project, r.Faithful x → x.settings? file = none := fun x hx =>
        Option.not_isSome_iff_eq_none.mp fun hsome => hfile ((hx.mem_files file).mpr hsome)
      rw [hnone p hp, hnone q hq]
  mergedSearchPath := congrArg UnitSettings.searchPath (hp.merged.symm.trans hq.merged)
  mergedMacros := congrArg UnitSettings.macros (hp.merged.symm.trans hq.merged)

/-- **The document is faithful.**  No table, log or database has a name with a
blank in it.  If the caller gives none either, the document of a reachable
project is read as a faithful image of it, and projects with one document look
alike. -/
theorem document_faithful :
    (∀ raw m, Macro.parse raw = .ok m → m.HasPlainName) ∧
      (∀ profile : Profile, profile.predefined.PlainNames) ∧
      (∀ lines base, ∀ u ∈ BuildLog.records lines base, u.settings.macros.PlainNames) ∧
      (∀ entries, ∀ u ∈ Database.records entries, u.settings.macros.PlainNames) ∧
      ∀ ops : List Operation, (∀ op ∈ ops, op.PlainNames) →
        (∃ r, Report.ofDocument? (run .empty ops).document = some r ∧
          r.Faithful (run .empty ops)) ∧
        ∀ more : List Operation, (∀ op ∈ more, op.PlainNames) →
          (run .empty ops).document = (run .empty more).document →
            (run .empty ops).LooksLike (run .empty more) := by
  have himage : ∀ ops : List Operation, (∀ op ∈ ops, op.PlainNames) →
      ∃ r, Report.ofDocument? (run .empty ops).document = some r ∧
        r.Faithful (run .empty ops) := fun ops hops =>
    ⟨_, ofDocument?_document (recalls_run ops).normal (plainNames_run hops),
      (recalls_run ops).faithful⟩
  refine ⟨fun _ _ => Macro.hasPlainName_of_parse, Profile.plainNames_predefined,
    fun _ _ _ hu => (BuildLog.told_of_mem_records hu).plainNames,
    fun _ _ hu => (Database.told_of_mem_records hu).plainNames, fun ops hops => ?_⟩
  obtain ⟨r, hread, hr⟩ := himage ops hops
  refine ⟨⟨r, hread, hr⟩, fun more hmore heq => ?_⟩
  obtain ⟨r', hread', hr'⟩ := himage more hmore
  rw [← heq, hread] at hread'
  obtain rfl := Option.some.inj hread'
  exact .of_faithful hr hr'

/-- A flag, a level, and a text of some words. -/
def notes : List Macro :=
  [.flag "_WIN32", .ofStrings "LEVEL" "2", .ofStrings "NOTE" "say \"a  b\""]

/-- A default level, and a file with some notes and one more macro. -/
def noted (m : Macro) : List Operation :=
  [.setting (.macros [.ofStrings "LEVEL" "1"]),
    .addRecord
      ⟨⟨"/src/./main.cpp".toList⟩, .ofList [⟨"/src/include".toList⟩], .ofList (notes ++ [m])⟩
      ⟨.ofList _, .ofList _⟩]

/-- An empty value and none give one document for two projects. -/
theorem document_faithful_noted :
    (∀ op ∈ noted (.ofStrings "EMPTY" ""), op.PlainNames) ∧
      (∀ op ∈ noted (.flag "EMPTY"), op.PlainNames) ∧
      run .empty (noted (.ofStrings "EMPTY" "")) ≠ run .empty (noted (.flag "EMPTY")) ∧
      (run .empty (noted (.ofStrings "EMPTY" ""))).document =
        (run .empty (noted (.flag "EMPTY"))).document ∧
      (run .empty (noted (.ofStrings "EMPTY" ""))).LooksLike
        (run .empty (noted (.flag "EMPTY"))) ∧
      ∃ r, Report.ofDocument? (run .empty (noted (.flag "EMPTY"))).document = some r ∧
        r.Faithful (run .empty (noted (.flag "EMPTY"))) := by
  have hplain : ∀ m : Macro, m.HasPlainName → ∀ op ∈ noted m, op.PlainNames := by
    intro m hm op hop
    rcases List.mem_cons.mp hop with rfl | hop
    · show ∀ x ∈ [Macro.ofStrings "LEVEL" "1"], x.HasPlainName
      decide
    · obtain rfl := List.mem_singleton.mp hop
      refine MacroTable.plainNames_empty.insertAll fun x hx => ?_
      have hnotes : ∀ x ∈ notes, x.HasPlainName := by decide
      rcases List.mem_append.mp hx with hx | hx
      · exact hnotes x hx
      · obtain rfl := List.mem_singleton.mp hx
        exact hm
  have hempty := hplain (.ofStrings "EMPTY" "") (by decide)
  have hflag := hplain (.flag "EMPTY") (by decide)
  have hsame : (run .empty (noted (.ofStrings "EMPTY" ""))).document =
      (run .empty (noted (.flag "EMPTY"))).document := by
    decide +kernel
  obtain ⟨-, -, -, -, hfaithful⟩ := document_faithful
  exact ⟨hempty, hflag, by decide +kernel, hsame,
    (hfaithful _ hempty).2 _ hflag hsame, (hfaithful _ hflag).1⟩

end Project

end BuildEnv
