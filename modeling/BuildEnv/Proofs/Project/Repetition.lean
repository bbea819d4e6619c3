import BuildEnv.Proofs.Project.History
import Mathlib.Data.List.Dedup

/-!
# Adding records again

A list of records leaves two traces in a project: the order in which its files
are written last, and their latest settings.  Both depend on the additions that
no later one of the list replaces (`Project.InStep.addRecords_congr`), so that
a list that is added a second time changes nothing.

What is used of a project is that its table and its order are in step
(`Project.InStep`); every reachable project is.
-/

namespace BuildEnv

namespace UnitTable

/-- The entries of a table are what is found in it under normal names. -/
theorem Normal.mem_entries_iff {t : UnitTable} (h : t.Normal) {u : UnitRecord} :
    u ∈ t.entries ↔ u.file.normalize = u.file ∧ t.get? u.file = some u.settings := by
  constructor
  · intro hu
    exact ⟨h u.file (List.mem_map_of_mem hu), get?_of_mem hu⟩
  · rintro ⟨hnormal, hfound⟩
    obtain ⟨v, hv, hsettings⟩ := Option.map_eq_some_iff.mp hfound
    have hmem : v ∈ t.entries := List.mem_of_find?_eq_some hv
    have hsame : v.file.sameAs u.file := by simpa using List.find?_some hv
    have hfile : v.file = u.file := by
      have heq := Path.normalize_eq_of_sameAs hsame
      rwa [h v.file (List.mem_map_of_mem hmem), hnormal] at heq
    have hvu : v = u := by
      obtain ⟨file, settings⟩ := v
      obtain ⟨file', settings'⟩ := u
      obtain rfl : file = file' := hfile
      obtain rfl : settings = settings' := hsettings
      rfl
    exact hvu ▸ hmem

/-- No entry stands in a table twice. -/
theorem nodup_entries (t : UnitTable) : t.entries.Nodup :=
  List.Nodup.of_map UnitRecord.file t.nodup_files

/-- **Look-ups determine a table** whose names are in normal form. -/
theorem Normal.ext {t u : UnitTable} (ht : t.Normal) (hu : u.Normal)
    (h : ∀ file : Path, t.get? file.normalize = u.get? file.normalize) : t = u := by
  have hperm : t.entries.Perm u.entries := by
    refine (List.perm_ext_iff_of_nodup t.nodup_entries u.nodup_entries).mpr fun r => ?_
    rw [ht.mem_entries_iff, hu.mem_entries_iff]
    refine and_congr_right fun hnormal => ?_
    have hfile := h r.file
    rw [hnormal] at hfile
    rw [hfile]
  have hentries : t.entries = u.entries := by
    refine hperm.eq_of_pairwise (fun a b _ _ hab hba => ?_) t.increasing u.increasing
    exact absurd (Path.lt_trans hab hba) (Path.not_lt_of_components rfl)
  obtain ⟨entries, _⟩ := t
  obtain ⟨entries', _⟩ := u
  obtain rfl : entries = entries' := hentries
  rfl

end UnitTable

namespace Project

open UnitRecord (key sameAs_key)

section Latest

variable {es fs : List UnitRecord}

theorem any_key_iff {file : Path} : (es.any fun u => u.key = file) ↔ file ∈ es.map key := by
  simp

/-- The keys of the latest additions, each at the place of its last
occurrence. -/
theorem map_key_latest (es : List UnitRecord) : (latest es).map key = (es.map key).dedup := by
  induction es with
  | nil => rfl
  | cons u rest ih =>
      rw [latest, List.map_cons]
      by_cases hu : u.key ∈ rest.map key
      · rw [if_pos (any_key_iff.mpr hu), List.dedup_cons_of_mem hu, ih]
      · rw [if_neg (mt any_key_iff.mp hu), List.dedup_cons_of_notMem hu, List.map_cons, ih]

/-- The latest record of a file is the one among the latest of all. -/
theorem latestOf_eq_find? (file : Path) (es : List UnitRecord) :
    latestOf file es = (latest es).find? fun u => u.key = file.normalize := by
  cases hfound : (latest es).find? fun u => u.key = file.normalize with
  | some u =>
      have hmem : u ∈ latest es := List.mem_of_find?_eq_some hfound
      have hkey : u.key = file.normalize := by simpa using List.find?_some hfound
      have hlatest := latestOf_of_mem_latest hmem
      rwa [latestOf, show u.file.normalize = file.normalize from hkey] at hlatest
  | none =>
      refine Option.not_isSome_iff_eq_none.mp fun hsome => ?_
      obtain ⟨u, hu, hkey⟩ := List.mem_map.mp (mem_keys_latest.mpr (isSome_latestOf.mp hsome))
      exact List.find?_eq_none.mp hfound u hu (decide_eq_true hkey)

/-- The additions of a second list replace those of the first. -/
theorem latest_append (es fs : List UnitRecord) :
    latest (es ++ fs) = (latest es).filter (fun u => u.key ∉ fs.map key) ++ latest fs := by
  induction es with
  | nil => rfl
  | cons u rest ih =>
      rw [List.cons_append, latest, latest, List.any_append, ih]
      by_cases hrest : rest.any fun v => v.key = u.key
      · rw [if_pos (by simp only [hrest, Bool.true_or]), if_pos hrest]
      · rw [if_neg hrest]
        by_cases hfs : u.key ∈ fs.map key
        · rw [if_pos (by simp only [any_key_iff.mpr hfs, Bool.or_true]),
            List.filter_cons_of_neg (by simpa using hfs)]
        · have hnone : ¬ (fs.any fun v => v.key = u.key) := mt any_key_iff.mp hfs
          rw [if_neg (by simpa using ⟨by simpa using hrest, by simpa using hnone⟩),
            List.filter_cons_of_pos (by simpa using hfs), List.cons_append]

/-- A list that is added again replaces all of itself. -/
theorem latest_append_self (es : List UnitRecord) : latest (es ++ es) = latest es := by
  have hnone : (latest es).filter (fun u => u.key ∉ es.map key) = [] := by
    refine List.filter_eq_nil_iff.mpr fun u hu => ?_
    have hkey : u.key ∈ es.map key := List.mem_map_of_mem (mem_of_mem_latest hu)
    simpa using hkey
  rw [latest_append, hnone, List.nil_append]

end Latest

/-- The table has a record of a file if the order has the file, and both name
files by their normal forms. -/
structure InStep (p : Project) : Prop where
  contains_iff : ∀ u : UnitRecord, p.units.contains u.key ↔ u.key ∈ p.writeOrder
  order_normal : ∀ file ∈ p.writeOrder, file.normalize = file
  units_normal : p.units.Normal

variable {p q : Project}

/-- A reachable project has its table and its order in step. -/
theorem Recalls.inStep {history : List UnitRecord} (h : Recalls p history) : InStep p where
  contains_iff u := by rw [h.contains_key, h.writeOrder, mem_keys_latest]
  order_normal file hfile := by
    rw [h.writeOrder] at hfile
    obtain ⟨u, _, rfl⟩ := List.mem_map.mp hfile
    exact u.file.normalize_normalize
  units_normal := h.normal

/-- A record brings its file to the end of the order. -/
theorem InStep.writeOrder_addRecord (h : InStep p) (u : UnitRecord) :
    (p.addRecord u).writeOrder = p.writeOrder.filter (fun file => file ≠ u.key) ++ [u.key] := by
  have horder : (p.addRecord u).writeOrder =
      (if p.units.contains u.key then p.writeOrder.filter (!·.sameAs u.key) else p.writeOrder)
        ++ [u.key] := rfl
  rw [horder]
  congr 1
  split
  · refine List.filter_congr fun file hfile => ?_
    have hsame : file.sameAs u.key = decide (file = u.key) := by
      have hkey := sameAs_key ⟨file, u.settings⟩ u
      rwa [key, h.order_normal file hfile] at hkey
    rw [hsame, decide_not]
  · next hnew =>
    refine (List.filter_eq_self.mpr fun file hfile => ?_).symm
    have hne : file ≠ u.key := fun heq => hnew ((h.contains_iff u).mpr (heq ▸ hfile))
    exact decide_eq_true hne

/-- A record keeps table and order in step. -/
theorem InStep.addRecord (h : InStep p) (u : UnitRecord) : InStep (p.addRecord u) where
  contains_iff v := by
    have hbefore : (p.settings? v.file).isSome ↔ v.key ∈ p.writeOrder := h.contains_iff v
    show ((p.addRecord u).settings? v.file).isSome ↔ _
    rw [settings?_addRecord, h.writeOrder_addRecord, List.mem_append, List.mem_filter,
      List.mem_singleton, ← hbefore]
    by_cases hkey : u.key = v.file.normalize
    · have hself : v.key = u.key := hkey.symm
      simp [hkey, hself]
    · have hother : v.key ≠ u.key := Ne.symm hkey
      simp [hkey, hother]
  order_normal file hfile := by
    rw [h.writeOrder_addRecord] at hfile
    rcases List.mem_append.mp hfile with hfile | hfile
    · exact h.order_normal file (List.mem_of_mem_filter hfile)
    · obtain rfl := List.mem_singleton.mp hfile
      exact u.file.normalize_normalize
  units_normal := h.units_normal.insert u.file.normalize_normalize u.settings

theorem InStep.addRecords (h : InStep p) (es : List UnitRecord) : InStep (p.addRecords es) := by
  induction es generalizing p with
  | nil => exact h
  | cons u rest ih => exact ih (h.addRecord u)

/-- **Order after a list.**  The files of the list leave their places and
follow at the end, by their last occurrence. -/
theorem InStep.writeOrder_addRecords (h : InStep p) (es : List UnitRecord) :
    (p.addRecords es).writeOrder =
      p.writeOrder.filter (fun file => file ∉ es.map key) ++ (latest es).map key := by
  induction es using List.reverseRecOn with
  | nil =>
      show p.writeOrder = p.writeOrder.filter _ ++ []
      simp
  | append_singleton rest u ih =>
      have hkept : (p.writeOrder.filter fun file => file ∉ rest.map key).filter
          (fun file => file ≠ u.key) = p.writeOrder.filter fun file => file ∉ (rest ++ [u]).map key := by
        rw [List.filter_filter]
        refine List.filter_congr fun file _ => ?_
        simp [and_comm]
      have hlast : ((latest rest).map key).filter (fun file => file ≠ u.key) ++ [u.key] =
          (latest (rest ++ [u])).map key := by
        rw [latest_append_singleton, List.map_append, List.filter_map]
        rfl
      have hstep : p.addRecords (rest ++ [u]) = (p.addRecords rest).addRecord u :=
        addRecords_append p rest [u]
      rw [hstep, (h.addRecords rest).writeOrder_addRecord, ih, List.filter_append, hkept,
        List.append_assoc, hlast]

/-- **Settings after a list.**  A file of the list has those of its last
occurrence. -/
theorem settings?_addRecords (p : Project) (es : List UnitRecord) (file : Path) :
    (p.addRecords es).settings? file =
      ((latestOf file es).map UnitRecord.settings).or (p.settings? file) := by
  induction es using List.reverseRecOn with
  | nil => rfl
  | append_singleton rest u ih =>
      rw [addRecords_append]
      show ((p.addRecords rest).addRecord u).settings? file = _
      rw [settings?_addRecord, latestOf_append_singleton, ih]
      split <;> rfl

theorem defaults_addRecords (p : Project) (es : List UnitRecord) :
    (p.addRecords es).defaults = p.defaults := by
  induction es generalizing p with
  | nil => rfl
  | cons u rest ih => exact ih (p.addRecord u)

/-- Projects in step are told apart by their settings, their order and what
their files have. -/
theorem InStep.ext (hp : InStep p) (hq : InStep q) (hbase : p.baseDirectory = q.baseDirectory)
    (hdefaults : p.defaults = q.defaults) (horder : p.writeOrder = q.writeOrder)
    (hsettings : ∀ file, p.settings? file = q.settings? file) : p = q := by
  have hunits : p.units = q.units := hp.units_normal.ext hq.units_normal hsettings
  obtain ⟨base, searchPath, macros, units, writeOrder⟩ := p
  obtain ⟨base', searchPath', macros', units', writeOrder'⟩ := q
  obtain ⟨rfl, rfl⟩ := UnitSettings.mk.inj hdefaults
  obtain rfl : base = base' := hbase
  obtain rfl : units = units' := hunits
  obtain rfl : writeOrder = writeOrder' := horder
  rfl

/-- **Only the latest additions count.** -/
theorem InStep.addRecords_congr (h : InStep p) {es fs : List UnitRecord}
    (hlatest : latest es = latest fs) : p.addRecords es = p.addRecords fs := by
  have hkeys (file : Path) : file ∈ es.map key ↔ file ∈ fs.map key := by
    rw [← mem_keys_latest, hlatest, mem_keys_latest]
  refine (h.addRecords es).ext (h.addRecords fs) ?_ ?_ ?_ fun file => ?_
  · rw [baseDirectory_addRecords, baseDirectory_addRecords]
  · rw [defaults_addRecords, defaults_addRecords]
  · rw [h.writeOrder_addRecords, h.writeOrder_addRecords, hlatest]
    congr 1
    exact List.filter_congr fun file _ => decide_eq_decide.mpr (not_congr (hkeys file))
  · rw [settings?_addRecords, settings?_addRecords, latestOf_eq_find?, latestOf_eq_find?, hlatest]

/-- A record that another one of the same file follows at once is lost. -/
theorem InStep.addRecord_addRecord (h : InStep p) {u v : UnitRecord} (hkey : u.key = v.key) :
    (p.addRecord u).addRecord v = p.addRecord v := by
  have hlatest : latest [u, v] = latest [v] := by simp [latest, hkey]
  exact h.addRecords_congr hlatest

/-- **Adding records again.**  In every reachable project, a list of records
moves its files to the end of the order, in the order of their last
occurrences, and each of them gets the settings of that occurrence.  The same
list once more changes nothing. -/
theorem addRecords_again (ops : List Operation) (es : List UnitRecord) :
    ((run .empty ops).addRecords es).writeOrder =
        (run .empty ops).writeOrder.filter (fun file => file ∉ es.map key) ++
          (es.map key).dedup ∧
      (∀ file, ((run .empty ops).addRecords es).settings? file =
        ((latestOf file es).map UnitRecord.settings).or ((run .empty ops).settings? file)) ∧
      ((run .empty ops).addRecords es).addRecords es = (run .empty ops).addRecords es := by
  have h : InStep (run .empty ops) := (recalls_run ops).inStep
  refine ⟨?_, settings?_addRecords _ es, ?_⟩
  · rw [h.writeOrder_addRecords, map_key_latest]
  · rw [← addRecords_append]
    exact h.addRecords_congr (latest_append_self es)

end Project

end BuildEnv
