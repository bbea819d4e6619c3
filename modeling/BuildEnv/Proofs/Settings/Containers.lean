import BuildEnv.Proofs.Path.Normal
import BuildEnv.Settings.Unit
import Mathlib.Data.List.Nodup

/-!
# The laws of search paths and macro tables

A search path and a macro table are lists that grow at the end, and only by
what they do not hold yet.  Adding a list to one of them therefore keeps the
first occurrence of everything (`foldl_append_new`).  The two differ in what
counts as an occurrence: a directory up to its normal form, a macro up to its
name.

* `SearchPath.directories_addAll`: the directories after an addition.
* `MacroTable.names_insertAll`, `MacroTable.get?_insertAll`: the names after
  an insertion keep the place of their first occurrence, the values are those
  of the last.
* `UnitSettings.Built.wellFormed`: settings that were made by the operations
  of the tables hold no directory and no name twice, and no directory that is
  not in normal form.
-/

namespace BuildEnv

section FirstOccurrence

variable {α : Type} [BEq α] [LawfulBEq α]

theorem eraseDups_of_nodup {l : List α} (h : l.Nodup) : l.eraseDups = l := by
  induction l with
  | nil => rfl
  | cons a rest ih =>
      obtain ⟨ha, hrest⟩ := List.nodup_cons.mp h
      have hfilter : rest.filter (fun b => !b == a) = rest := by
        refine List.filter_eq_self.mpr fun b hb => ?_
        have hne : b ≠ a := fun heq => ha (heq ▸ hb)
        simpa using hne
      rw [List.eraseDups_cons, hfilter, ih hrest]

theorem nodup_eraseDups (l : List α) : l.eraseDups.Nodup := by
  induction hn : l.length using Nat.strongRecOn generalizing l with
  | ind n ih =>
      cases l with
      | nil => exact List.nodup_nil
      | cons a rest =>
          rw [List.eraseDups_cons]
          have hlength : (rest.filter fun b => !b == a).length < n := by
            have := List.length_filter_le (fun b => !b == a) rest
            simp only [List.length_cons] at hn
            omega
          refine List.nodup_cons.mpr ⟨by simp, ih _ hlength _ rfl⟩

/-- What stands in the list already counts for nothing behind it. -/
theorem eraseDups_append_cons_of_mem {l : List α} {a : α} (ha : a ∈ l) (rest : List α) :
    (l ++ a :: rest).eraseDups = (l ++ rest).eraseDups := by
  rw [List.eraseDups_append, List.eraseDups_append, List.cons_removeAll]
  simp [ha]

/-- A list that grows only by what it does not hold yet keeps first
occurrences. -/
theorem foldl_append_new [DecidableEq α] {l : List α} (h : l.Nodup) (more : List α) :
    more.foldl (fun l a => if a ∈ l then l else l ++ [a]) l = (l ++ more).eraseDups := by
  induction more generalizing l with
  | nil => simp [eraseDups_of_nodup h]
  | cons a rest ih =>
      rw [List.foldl_cons]
      by_cases ha : a ∈ l
      · rw [if_pos ha, ih h, eraseDups_append_cons_of_mem ha]
      · have hnext : (l ++ [a]).Nodup := by
          refine List.nodup_append'.mpr ⟨h, List.nodup_singleton a, ?_⟩
          simpa using ha
        rw [if_neg ha, ih hnext, List.append_assoc, List.singleton_append]

end FirstOccurrence

namespace SearchPath

/-- A new directory goes to the end, in its normal form. -/
theorem directories_add (s : SearchPath) (d : Path) :
    (s.add d).directories =
      if d.normalize ∈ s.directories then s.directories else s.directories ++ [d.normalize] := by
  simp only [add, contains, List.contains_iff_mem]
  split <;> rfl

/-- **Directories in order.**  Added directories stand behind those that were
there, in normal form and without repetitions of what stands before. -/
theorem directories_addAll {s : SearchPath} (h : s.directories.Nodup) (ds : List Path) :
    (s.addAll ds).directories = (s.directories ++ ds.map Path.normalize).eraseDups := by
  rw [← foldl_append_new h, List.foldl_map]
  exact (List.foldl_hom directories fun s d => (directories_add s d).symm).symm

theorem nodup_directories_add {s : SearchPath} (h : s.directories.Nodup) (d : Path) :
    (s.add d).directories.Nodup := by
  have hdirectories : (s.add d).directories = (s.directories ++ [d.normalize]).eraseDups :=
    directories_addAll h [d]
  exact hdirectories ▸ nodup_eraseDups _

/-- A search path that the operations of search paths make. -/
inductive Built : SearchPath → Prop
  | empty : Built .empty
  | add {s : SearchPath} (h : Built s) (d : Path) : Built (s.add d)

theorem Built.addAll {s : SearchPath} (h : Built s) (ds : List Path) : Built (s.addAll ds) := by
  induction ds generalizing s with
  | nil => exact h
  | cons d rest ih => exact ih (h.add d)

/-- A list gives a built path. -/
theorem Built.ofList (ds : List Path) : Built (.ofList ds) :=
  Built.empty.addAll ds

/-- A built path has no directory twice. -/
theorem Built.nodup {s : SearchPath} (h : Built s) : s.directories.Nodup := by
  induction h with
  | empty => exact List.nodup_nil
  | add _ d ih => exact nodup_directories_add ih d

/-- A built path has normal directories. -/
theorem Built.normal {s : SearchPath} (h : Built s) : ∀ d ∈ s.directories, d.normalize = d := by
  induction h with
  | empty => simp [SearchPath.empty]
  | @add s _ d ih =>
      intro e he
      rw [directories_add] at he
      split at he
      · exact ih e he
      · rcases List.mem_append.mp he with he | he
        · exact ih e he
        · obtain rfl := List.mem_singleton.mp he
          exact d.normalize_normalize

end SearchPath

namespace MacroTable

/-- A new name goes to the end, a known one keeps its place. -/
theorem names_insertEntry (m : Macro) (entries : List Macro) :
    (insertEntry m entries).map Macro.name =
      if m.name ∈ entries.map Macro.name then entries.map Macro.name
      else entries.map Macro.name ++ [m.name] := by
  induction entries with
  | nil => rfl
  | cons e rest ih =>
      unfold insertEntry
      by_cases he : e.name = m.name
      · simp [he]
      · rw [if_neg he, List.map_cons, ih]
        by_cases hrest : m.name ∈ rest.map Macro.name
        · have hmem : m.name ∈ (e :: rest).map Macro.name := List.mem_cons_of_mem _ hrest
          rw [if_pos hrest, if_pos hmem, List.map_cons]
        · have hmem : m.name ∉ (e :: rest).map Macro.name :=
            List.not_mem_cons_of_ne_of_not_mem (Ne.symm he) hrest
          rw [if_neg hrest, if_neg hmem, List.map_cons, List.cons_append]

theorem names_insert (t : MacroTable) (m : Macro) :
    (t.insert m).names = if m.name ∈ t.names then t.names else t.names ++ [m.name] :=
  names_insertEntry m t.entries

theorem get?_insert (t : MacroTable) (m : Macro) (name : Text) :
    (t.insert m).get? name = if m.name = name then some m else t.get? name := by
  obtain ⟨entries⟩ := t
  show (insertEntry m entries).find? _ = if _ then _ else entries.find? _
  induction entries with
  | nil => by_cases h : m.name = name <;> simp [insertEntry, h]
  | cons e rest ih =>
      unfold insertEntry
      by_cases he : e.name = m.name
      · by_cases h : m.name = name <;> simp [he, h]
      · rw [if_neg he, List.find?_cons, List.find?_cons, ih]
        by_cases h : m.name = name
        · subst h
          simp [beq_eq_false_iff_ne.mpr he]
        · simp [h]

/-- **Names in order.**  Inserted names stand behind those that were there,
without repetitions of what stands before. -/
theorem names_insertAll {t : MacroTable} (h : t.names.Nodup) (ms : List Macro) :
    (t.insertAll ms).names = (t.names ++ ms.map Macro.name).eraseDups := by
  rw [← foldl_append_new h, List.foldl_map]
  exact (List.foldl_hom names fun t m => (names_insert t m).symm).symm

/-- **The last value wins.** -/
theorem get?_insertAll (t : MacroTable) (ms : List Macro) (name : Text) :
    (t.insertAll ms).get? name =
      (ms.reverse.find? fun m => m.name == name).or (t.get? name) := by
  induction ms generalizing t with
  | nil => rfl
  | cons m rest ih =>
      have hstep : (t.insertAll (m :: rest)).get? name = ((t.insert m).insertAll rest).get? name :=
        rfl
      rw [hstep, ih, get?_insert, List.reverse_cons, List.find?_append, Option.or_assoc]
      by_cases h : m.name = name <;> simp [h]

theorem nodup_names_insert {t : MacroTable} (h : t.names.Nodup) (m : Macro) :
    (t.insert m).names.Nodup := by
  have hnames : (t.insert m).names = (t.names ++ [m.name]).eraseDups := names_insertAll h [m]
  exact hnames ▸ nodup_eraseDups _

theorem nodup_names_erase {t : MacroTable} (h : t.names.Nodup) (name : Text) :
    (t.erase name).names.Nodup :=
  h.sublist (List.eraseP_sublist.map Macro.name)

/-- Where names are distinct, the macro of a name is also its last one. -/
theorem find?_reverse_entries {t : MacroTable} (h : t.names.Nodup) (name : Text) :
    (t.entries.reverse.find? fun m => m.name == name) = t.get? name := by
  obtain ⟨entries⟩ := t
  show _ = entries.find? _
  induction entries with
  | nil => rfl
  | cons e rest ih =>
      obtain ⟨he, hrest⟩ := List.nodup_cons.mp (show (e.name :: rest.map Macro.name).Nodup from h)
      rw [List.reverse_cons, List.find?_append, ih hrest, List.find?_cons]
      by_cases hname : e.name = name
      · subst hname
        have hnone : rest.find? (fun m => m.name == e.name) = none := by
          refine List.find?_eq_none.mpr fun m hm heq => he ?_
          exact List.mem_map.mpr ⟨m, hm, by simpa using heq⟩
        simp [hnone]
      · simp [beq_eq_false_iff_ne.mpr hname]

/-- A macro table that the operations of macro tables make. -/
inductive Built : MacroTable → Prop
  | empty : Built .empty
  | insert {t : MacroTable} (h : Built t) (m : Macro) : Built (t.insert m)
  | erase {t : MacroTable} (h : Built t) (name : Text) : Built (t.erase name)

theorem Built.insertAll {t : MacroTable} (h : Built t) (ms : List Macro) :
    Built (t.insertAll ms) := by
  induction ms generalizing t with
  | nil => exact h
  | cons m rest ih => exact ih (h.insert m)

/-- A list gives a built table. -/
theorem Built.ofList (ms : List Macro) : Built (.ofList ms) :=
  Built.empty.insertAll ms

theorem Built.eraseAll {t : MacroTable} (h : Built t) (names : List Text) :
    Built (names.foldl MacroTable.erase t) := by
  induction names generalizing t with
  | nil => exact h
  | cons name rest ih => exact ih (h.erase name)

/-- A built table has no name twice. -/
theorem Built.nodup {t : MacroTable} (h : Built t) : t.names.Nodup := by
  induction h with
  | empty => exact List.nodup_nil
  | insert _ m ih => exact nodup_names_insert ih m
  | erase _ name ih => exact nodup_names_erase ih name

end MacroTable

namespace UnitSettings

/-- Settings that the operations of their tables make. -/
structure Built (s : UnitSettings) : Prop where
  searchPath : s.searchPath.Built
  macros : s.macros.Built

/-- No directory and no name stands twice, and every directory is in normal
form. -/
structure WellFormed (s : UnitSettings) : Prop where
  directories_distinct : Path.Distinct s.searchPath.directories
  directories_normal : ∀ d ∈ s.searchPath.directories, d.normalize = d
  names_nodup : s.macros.names.Nodup

/-- Built settings are well-formed. -/
theorem Built.wellFormed {s : UnitSettings} (h : s.Built) : s.WellFormed :=
  ⟨Path.distinct_of_nodup h.searchPath.nodup h.searchPath.normal, h.searchPath.normal,
    h.macros.nodup⟩

end UnitSettings

end BuildEnv
