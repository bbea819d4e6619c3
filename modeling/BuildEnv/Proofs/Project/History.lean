import BuildEnv.Proofs.Project.Operation
import BuildEnv.Proofs.Project.UnitTable

/-!
# What a project remembers of its history

A project keeps a table of records and, beside it, the order in which they were
written.  Both are what its history says (`Project.Recalls`): the order lists
the additions that no later addition of the same file replaces (`latest`), and
the table holds the settings of these additions (`latestOf`).

* `Project.recalls_run`: every reachable project recalls its history.
* `Project.consistent_run`: table and order are in step in every reachable
  project, all names are in normal form, and no table holds anything twice.
-/

namespace BuildEnv

namespace UnitRecord

/-- The name under which a record is kept. -/
def key (u : UnitRecord) : Path :=
  u.file.normalize

/-- As paths, names in normal form differ when their texts do. -/
theorem sameAs_key (u v : UnitRecord) : u.key.sameAs v.key = decide (u.key = v.key) := by
  rw [Bool.eq_iff_iff, decide_eq_true_iff]
  exact Path.sameAs_normalize_iff

end UnitRecord

namespace Project

open UnitRecord (key sameAs_key)

/-- The additions that no later one of the same file replaces, in order. -/
def latest : List UnitRecord → List UnitRecord
  | [] => []
  | u :: rest => if rest.any fun v => v.key = u.key then latest rest else u :: latest rest

/-- The latest addition of a file. -/
def latestOf (file : Path) (history : List UnitRecord) : Option UnitRecord :=
  history.reverse.find? fun u => u.key = file.normalize

/-- A new addition replaces the one of the same file and is the last. -/
theorem latest_append_singleton (history : List UnitRecord) (u : UnitRecord) :
    latest (history ++ [u]) = (latest history).filter (fun v => v.key ≠ u.key) ++ [u] := by
  induction history with
  | nil => rfl
  | cons v rest ih =>
      rw [List.cons_append, latest, latest, List.any_append, ih]
      by_cases hrest : rest.any fun w => w.key = v.key
      · simp only [hrest, Bool.true_or, if_true]
      · by_cases hu : u.key = v.key
        · simp [hrest, hu]
        · simp [hrest, hu, Ne.symm hu]

theorem mem_of_mem_latest {history : List UnitRecord} {u : UnitRecord} (hu : u ∈ latest history) :
    u ∈ history := by
  induction history with
  | nil => cases hu
  | cons v rest ih =>
      unfold latest at hu
      split at hu
      · exact List.mem_cons_of_mem v (ih hu)
      · rcases List.mem_cons.mp hu with rfl | hu
        · exact List.mem_cons_self
        · exact List.mem_cons_of_mem v (ih hu)

/-- No file is lost. -/
theorem mem_keys_latest {history : List UnitRecord} {file : Path} :
    file ∈ (latest history).map key ↔ file ∈ history.map key := by
  induction history with
  | nil => rfl
  | cons v rest ih =>
      unfold latest
      split
      · next hlater =>
        obtain ⟨w, hw, hkey⟩ := List.any_eq_true.mp hlater
        have hv : v.key ∈ rest.map key := List.mem_map.mpr ⟨w, hw, of_decide_eq_true hkey⟩
        rw [ih, List.map_cons, List.mem_cons]
        exact ⟨.inr, fun h => h.elim (fun heq => heq ▸ hv) id⟩
      · rw [List.map_cons, List.map_cons, List.mem_cons, List.mem_cons, ih]

/-- No file stands twice. -/
theorem nodup_keys_latest (history : List UnitRecord) : ((latest history).map key).Nodup := by
  induction history with
  | nil => exact List.nodup_nil
  | cons v rest ih =>
      unfold latest
      split
      · exact ih
      · next hlater =>
        refine List.nodup_cons.mpr ⟨fun hv => hlater ?_, ih⟩
        obtain ⟨w, hw, hkey⟩ := List.mem_map.mp (mem_keys_latest.mp hv)
        exact List.any_eq_true.mpr ⟨w, hw, decide_eq_true hkey⟩

/-- A further record is the latest one of its file. -/
theorem latestOf_append_singleton (file : Path) (history : List UnitRecord) (u : UnitRecord) :
    latestOf file (history ++ [u]) =
      if u.key = file.normalize then some u else latestOf file history := by
  unfold latestOf
  rw [List.reverse_append, List.reverse_singleton, List.singleton_append, List.find?_cons]
  by_cases h : u.key = file.normalize <;> simp [h]

theorem mem_of_latestOf {file : Path} {history : List UnitRecord} {u : UnitRecord}
    (h : latestOf file history = some u) : u ∈ history :=
  List.mem_reverse.mp (List.mem_of_find?_eq_some h)

/-- A file has a latest record exactly if the history has one of it. -/
theorem isSome_latestOf {file : Path} {history : List UnitRecord} :
    (latestOf file history).isSome ↔ file.normalize ∈ history.map key := by
  simp [latestOf, List.find?_isSome]

/-- What no later addition replaces is the latest of its file. -/
theorem latestOf_of_mem_latest {history : List UnitRecord} {u : UnitRecord}
    (hu : u ∈ latest history) : latestOf u.file history = some u := by
  induction history using List.reverseRecOn with
  | nil => cases hu
  | append_singleton rest v ih =>
      rw [latest_append_singleton] at hu
      rw [latestOf_append_singleton]
      rcases List.mem_append.mp hu with hu | hu
      · obtain ⟨hmem, hne⟩ := List.mem_filter.mp hu
        have hkey : v.key ≠ u.file.normalize := Ne.symm (of_decide_eq_true hne)
        rw [if_neg hkey, ih hmem]
      · obtain rfl := List.mem_singleton.mp hu
        exact if_pos rfl

/-- A record changes the look-up of its file. -/
theorem settings?_addRecord (p : Project) (u : UnitRecord) (file : Path) :
    (p.addRecord u).settings? file =
      if u.key = file.normalize then some u.settings else p.settings? file := by
  show (p.units.insert u.file.normalize u.settings).get? file.normalize = _
  rw [UnitTable.get?_insert]
  exact if_congr Path.sameAs_normalize_iff rfl rfl

/-- Table and order of a project are what its history says. -/
structure Recalls (p : Project) (history : List UnitRecord) : Prop where
  writeOrder : p.writeOrder = (latest history).map key
  settings : ∀ file, p.settings? file = (latestOf file history).map UnitRecord.settings
  normal : p.units.Normal
  built : ∀ u ∈ history, u.settings.Built
  defaults_built : p.defaults.Built

theorem recalls_empty : Recalls .empty [] where
  writeOrder := rfl
  settings _ := rfl
  normal := UnitTable.normal_empty
  built _ hu := by cases hu
  defaults_built := ⟨.empty, .empty⟩

variable {p : Project} {history : List UnitRecord}

/-- A setting leaves the records alone. -/
theorem Recalls.setting (h : Recalls p history) (s : Setting) : Recalls (s.apply p) history := by
  cases s with
  | baseDirectory d => exact { h with }
  | searchPath ds => exact { h with defaults_built := ⟨.ofList ds, h.defaults_built.macros⟩ }
  | directory d =>
      exact { h with defaults_built := ⟨h.defaults_built.searchPath.add d, h.defaults_built.macros⟩ }
  | macros ms => exact { h with defaults_built := ⟨h.defaults_built.searchPath, .ofList ms⟩ }
  | definition m =>
      exact { h with
        defaults_built := ⟨h.defaults_built.searchPath, h.defaults_built.macros.insert m⟩ }

/-- The table has a record of the files that were added. -/
theorem Recalls.contains_key (h : Recalls p history) (u : UnitRecord) :
    p.units.contains u.key ↔ u.key ∈ history.map key := by
  show (p.settings? u.file).isSome ↔ _
  rw [h.settings, Option.isSome_map, isSome_latestOf]
  rfl

/-- **One record.**  The removal from the order, which is made only when the
table had a record of the file, leaves no earlier addition of the file. -/
theorem Recalls.addRecord (h : Recalls p history) {u : UnitRecord} (hu : u.settings.Built) :
    Recalls (p.addRecord u) (history ++ [u]) where
  writeOrder := by
    have hkept : ((latest history).map key).filter (!·.sameAs u.key) =
        ((latest history).filter fun v => v.key ≠ u.key).map key := by
      rw [List.filter_map]
      congr 1
      refine List.filter_congr fun v _ => ?_
      show (!v.key.sameAs u.key) = decide (v.key ≠ u.key)
      rw [sameAs_key, decide_not]
    have horder : (p.addRecord u).writeOrder =
        (if p.units.contains u.key then p.writeOrder.filter (!·.sameAs u.key) else p.writeOrder)
          ++ [u.key] := rfl
    rw [horder, latest_append_singleton, List.map_append, h.writeOrder, hkept]
    congr 1
    split
    · rfl
    · next hnew =>
      have hother : ∀ v ∈ latest history, v.key ≠ u.key := fun v hv heq =>
        hnew ((h.contains_key u).mpr (List.mem_map.mpr ⟨v, mem_of_mem_latest hv, heq⟩))
      rw [List.filter_eq_self.mpr fun v hv => decide_eq_true (hother v hv)]
  settings file := by
    rw [settings?_addRecord, latestOf_append_singleton, h.settings]
    split <;> rfl
  normal := h.normal.insert u.file.normalize_normalize u.settings
  built v hv := by
    rcases List.mem_append.mp hv with hv | hv
    · exact h.built v hv
    · obtain rfl := List.mem_singleton.mp hv
      exact hu
  defaults_built := h.defaults_built

/-- **Every reachable project recalls its history.** -/
theorem recalls_run (ops : List Operation) : Recalls (run .empty ops) (additions .empty ops) :=
  run_induction recalls_empty (fun _ _ s h => h.setting s) (fun _ _ _ hu h => h.addRecord hu) ops

/-- Table and order are in step, and nothing is in them that should not be. -/
structure Consistent (p : Project) (history : List UnitRecord) : Prop where
  writeOrder_distinct : Path.Distinct p.writeOrder
  mem_writeOrder : ∀ file, file ∈ p.writeOrder ↔ file ∈ p.files
  files_distinct : Path.Distinct p.files
  files_normal : ∀ file ∈ p.files, file.normalize = file
  /-- There are as many files as different normal forms of added names. -/
  length_files : p.files.length = (history.map key).eraseDups.length
  defaults : p.defaults.WellFormed
  settings : ∀ u ∈ p.units.entries, u.settings.WellFormed

/-- The files of a project are those of its history. -/
theorem Recalls.mem_files (h : Recalls p history) (file : Path) :
    file ∈ p.files ↔ file ∈ history.map key := by
  constructor
  · intro hfile
    have hnormal := h.normal file hfile
    have hsome := (h.normal.mem_files_iff hnormal).mp hfile
    have hsettings : p.units.get? file = p.settings? file := by rw [settings?, hnormal]
    rw [hsettings, h.settings, Option.isSome_map, isSome_latestOf, hnormal] at hsome
    exact hsome
  · intro hfile
    obtain ⟨u, hu, rfl⟩ := List.mem_map.mp hfile
    exact (h.normal.mem_files_iff u.file.normalize_normalize).mpr
      ((h.contains_key u).mpr hfile)

/-- A project that recalls its history is consistent. -/
theorem Recalls.consistent (h : Recalls p history) : Consistent p history where
  writeOrder_distinct := by
    rw [h.writeOrder]
    refine Path.distinct_of_nodup (nodup_keys_latest history) fun file hfile => ?_
    exact h.normal file ((h.mem_files file).mpr (mem_keys_latest.mp hfile))
  mem_writeOrder file := by rw [h.writeOrder, mem_keys_latest, h.mem_files]
  files_distinct := Path.distinct_of_nodup p.units.nodup_files h.normal
  files_normal := h.normal
  length_files := by
    refine ((List.perm_ext_iff_of_nodup p.units.nodup_files (nodup_eraseDups _)).mpr ?_).length_eq
    intro file
    rw [List.mem_eraseDups]
    exact h.mem_files file
  defaults := h.defaults_built.wellFormed
  settings u hu := by
    have hfile : u.file.normalize = u.file := h.normal u.file (List.mem_map_of_mem hu)
    have hfound : p.settings? u.file = some u.settings := by
      rw [settings?, hfile]
      exact UnitTable.get?_of_mem hu
    rw [h.settings] at hfound
    obtain ⟨v, hv, hsettings⟩ := Option.map_eq_some_iff.mp hfound
    exact hsettings ▸ (h.built v (mem_of_latestOf hv)).wellFormed

/-- **Consistency.**  In every reachable project the table and the order are in
step, and all names and settings are well formed.  A record changes nothing
but what is known of its file, and a setting changes no record. -/
theorem consistent_run :
    (∀ ops, Consistent (run .empty ops) (additions .empty ops)) ∧
      (∀ (p : Project) (u : UnitRecord), (p.addRecord u).baseDirectory = p.baseDirectory ∧
        (p.addRecord u).defaults = p.defaults ∧
        ∀ file, (p.addRecord u).settings? file =
          if u.file.normalize = file.normalize then some u.settings else p.settings? file) ∧
      ∀ (p : Project) (s : Setting), (s.apply p).units = p.units ∧
        (s.apply p).writeOrder = p.writeOrder := by
  refine ⟨fun ops => (recalls_run ops).consistent, fun p u => ⟨rfl, rfl, ?_⟩, fun p s => ?_⟩
  · exact settings?_addRecord p u
  · cases s <;> exact ⟨rfl, rfl⟩

end Project

end BuildEnv
