import BuildEnv.Project.UnitTable
import BuildEnv.Proofs.Path.Normal
import Mathlib.Data.List.Nodup

/-!
# The laws of unit tables

Paths are ordered by the texts of their components, and two paths that stand
neither before nor after each other have the same components
(`Path.sameAs_of_not_lt`).  A unit table is therefore a map from components to
settings: `UnitTable.get?_insert` says what an insertion does to every look-up,
and `UnitTable.mem_files_iff` that a look-up finds exactly the files of the
table, as long as all names are in normal form.
-/

namespace BuildEnv

namespace Path

/-- Of two spellings of one path, neither stands before the other. -/
theorem not_lt_of_components {p q : Path} (h : p.components = q.components) : ¬ p.lt q := by
  intro hlt
  have hkey : p.sortKey = q.sortKey := by rw [sortKey, sortKey, h]
  rw [lt, hkey] at hlt
  exact List.lt_irrefl q.sortKey (of_decide_eq_true hlt)

/-- Components with one place in the order are one component. -/
theorem Component.sortKey_injective : Function.Injective Component.sortKey := by
  intro c d h
  cases c <;> cases d <;> simp [Component.sortKey] at h ⊢
  exact (List.map_injective_iff.mpr fun a b hab => Char.toNat_inj.mp hab) h

/-- Paths neither of which stands before the other are the same path. -/
theorem sameAs_of_not_lt {p q : Path} (hpq : ¬ p.lt q) (hqp : ¬ q.lt p) : p.sameAs q := by
  have hkey : p.sortKey = q.sortKey :=
    List.le_antisymm (List.not_lt.mp fun hlt => hqp (decide_eq_true hlt))
      (List.not_lt.mp fun hlt => hpq (decide_eq_true hlt))
  exact sameAs_iff.mpr (List.map_injective_iff.mpr Component.sortKey_injective hkey)

end Path

namespace UnitTable

/-- **An insertion changes one look-up.** -/
theorem get?_insert (t : UnitTable) (file g : Path) (s : UnitSettings) :
    (t.insert file s).get? g = if file.sameAs g then some s else t.get? g := by
  obtain ⟨entries, hincreasing⟩ := t
  show ((insertEntry ⟨file, s⟩ entries).find? _).map _ = if _ then _ else (entries.find? _).map _
  clear hincreasing
  induction entries with
  | nil => by_cases h : file.sameAs g <;> simp [insertEntry, h]
  | cons e rest ih =>
      unfold insertEntry
      split
      · by_cases h : file.sameAs g <;> simp [h]
      · next hlt =>
        split
        · next hgt =>
          rw [List.find?_cons, List.find?_cons]
          by_cases he : e.file.sameAs g
          · have hne : ¬ file.sameAs g := by
              intro h
              have hcomponents := (Path.sameAs_iff.mp he).trans (Path.sameAs_iff.mp h).symm
              exact Path.not_lt_of_components hcomponents hgt
            simp [he, hne]
          · simp only [he]
            exact ih
        · next hgt =>
          have hsame := Path.sameAs_iff.mp (Path.sameAs_of_not_lt hlt hgt)
          by_cases h : file.sameAs g
          · have he : e.file.sameAs g := Path.sameAs_iff.mpr (hsame.symm.trans (Path.sameAs_iff.mp h))
            simp [h, he]
          · have he : ¬ e.file.sameAs g := fun he =>
              h (Path.sameAs_iff.mpr (hsame.trans (Path.sameAs_iff.mp he)))
            simp [h, he]

/-- No file stands twice. -/
theorem nodup_files (t : UnitTable) : t.files.Nodup := by
  refine List.pairwise_map.mpr (t.increasing.imp fun hlt heq => ?_)
  exact Path.not_lt_of_components (congrArg Path.components heq) hlt

/-- A record that stands in the table is found. -/
theorem get?_of_mem {t : UnitTable} {u : UnitRecord} (hu : u ∈ t.entries) :
    t.get? u.file = some u.settings := by
  obtain ⟨entries, hincreasing⟩ := t
  show (entries.find? _).map _ = _
  induction entries with
  | nil => cases hu
  | cons e rest ih =>
      obtain ⟨hhead, htail⟩ := List.pairwise_cons.mp hincreasing
      rcases List.mem_cons.mp hu with rfl | hu
      · simp [Path.sameAs]
      · have hne : ¬ e.file.sameAs u.file := fun h =>
          Path.not_lt_of_components (Path.sameAs_iff.mp h) (hhead u hu)
        rw [List.find?_cons_of_neg (by simpa using hne)]
        exact ih htail hu

/-- The settings after a record was put in are those before and its own. -/
theorem settings_of_mem_insertEntry {u x : UnitRecord} {entries : List UnitRecord}
    (hx : x ∈ insertEntry u entries) :
    x.settings = u.settings ∨ ∃ e ∈ entries, x.settings = e.settings := by
  induction entries with
  | nil => exact .inl (congrArg UnitRecord.settings (List.mem_singleton.mp hx))
  | cons e rest ih =>
      unfold insertEntry at hx
      split at hx
      · rcases List.mem_cons.mp hx with rfl | hx
        · exact .inl rfl
        · exact .inr ⟨x, hx, rfl⟩
      · split at hx
        · rcases List.mem_cons.mp hx with rfl | hx
          · exact .inr ⟨x, List.mem_cons_self, rfl⟩
          · rcases ih hx with heq | ⟨y, hy, heq⟩
            · exact .inl heq
            · exact .inr ⟨y, List.mem_cons_of_mem _ hy, heq⟩
        · rcases List.mem_cons.mp hx with rfl | hx
          · exact .inl rfl
          · exact .inr ⟨x, List.mem_cons_of_mem _ hx, rfl⟩

/-- The names of all files are in normal form. -/
def Normal (t : UnitTable) : Prop :=
  ∀ file ∈ t.files, file.normalize = file

theorem normal_empty : Normal .empty := by
  simp [Normal, files, empty]

/-- Under a normal name a table stays normal. -/
theorem Normal.insert {t : UnitTable} (h : t.Normal) {file : Path}
    (hfile : file.normalize = file) (s : UnitSettings) : (t.insert file s).Normal := by
  intro g hg
  obtain ⟨x, hx, rfl⟩ := List.mem_map.mp hg
  rcases file_of_mem_insertEntry hx with heq | ⟨e, he, heq⟩
  · rw [heq]
    exact hfile
  · rw [heq]
    exact h e.file (List.mem_map_of_mem he)

/-- In normal form, the files of a table are those that a look-up finds. -/
theorem Normal.mem_files_iff {t : UnitTable} (h : t.Normal) {file : Path}
    (hfile : file.normalize = file) : file ∈ t.files ↔ (t.get? file).isSome := by
  constructor
  · intro hmem
    obtain ⟨u, hu, rfl⟩ := List.mem_map.mp hmem
    rw [get?_of_mem hu]
    rfl
  · intro hsome
    rw [get?, Option.isSome_map] at hsome
    obtain ⟨u, hu⟩ := Option.isSome_iff_exists.mp hsome
    have hmem : u.file ∈ t.files := List.mem_map_of_mem (List.mem_of_find?_eq_some hu)
    have hsame : u.file.sameAs file := by simpa using List.find?_some hu
    have heq := Path.normalize_eq_of_sameAs hsame
    rw [h u.file hmem, hfile] at heq
    exact heq ▸ hmem

end UnitTable

end BuildEnv
