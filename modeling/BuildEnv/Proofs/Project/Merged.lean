import BuildEnv.Proofs.Project.History

/-!
# The views of a project

What a project says of one file and of all files together is a function of its
defaults and its history.  In the merged view the place of a directory or a
name is the one of its first occurrence, with the defaults in front; the value
of a name is the one of its last.

* `Project.Recalls.records`: the records of a project are the latest additions
  of its history.
* `Project.lastWriterWins_run`: all views of a reachable project.
-/

namespace BuildEnv

namespace Project

open UnitRecord (key)

variable {p : Project} {history : List UnitRecord}

/-- The records are the additions that were not replaced, in order. -/
theorem Recalls.records (h : Recalls p history) :
    p.records = (latest history).map fun u => ⟨u.key, u.settings⟩ := by
  have hrecord : ∀ u ∈ latest history,
      (p.units.get? u.key).map (UnitRecord.mk u.key) = some ⟨u.key, u.settings⟩ := by
    intro u hu
    have hfound : p.units.get? u.key = some u.settings := by
      have hsettings := h.settings u.file
      rwa [latestOf_of_mem_latest hu] at hsettings
    rw [hfound]
    rfl
  rw [Project.records, h.writeOrder, List.filterMap_map, ← List.filterMap_eq_map]
  exact List.filterMap_congr hrecord

/-- The settings of the latest records are built ones. -/
theorem Recalls.built_of_mem_latest (h : Recalls p history) {u : UnitRecord}
    (hu : u ∈ latest history) : u.settings.Built :=
  h.built u (mem_of_mem_latest hu)

/-- The directories of all records are added one after the other. -/
theorem mergedSearchPath_eq_addAll (p : Project) :
    p.mergedSearchPath =
      p.searchPath.addAll (p.records.flatMap fun r => r.settings.searchPath.directories) :=
  List.foldl_flatMap.symm

/-- The merged macros are those of all records, put on top of the defaults. -/
theorem mergedMacros_eq_insertAll (p : Project) :
    p.mergedMacros = p.macros.insertAll (p.records.flatMap fun r => r.settings.macros.entries) :=
  List.foldl_flatMap.symm

/-- First occurrences in the defaults and the records decide the order of the
directories. -/
theorem Recalls.directories_mergedSearchPath (h : Recalls p history) :
    p.mergedSearchPath.directories =
      (p.searchPath.directories ++
        (latest history).flatMap fun u => u.settings.searchPath.directories).eraseDups := by
  have hnormal : ∀ d ∈ (latest history).flatMap fun u => u.settings.searchPath.directories,
      d.normalize = d := by
    intro d hd
    obtain ⟨u, hu, hmem⟩ := List.mem_flatMap.mp hd
    exact (h.built_of_mem_latest hu).searchPath.normal d hmem
  have hdefaults : p.searchPath.directories.Nodup := h.defaults_built.searchPath.nodup
  rw [mergedSearchPath_eq_addAll, SearchPath.directories_addAll hdefaults, h.records,
    List.flatMap_map, List.map_congr_left hnormal, List.map_id']

/-- First occurrences in the defaults and the records decide the order of the
names. -/
theorem Recalls.names_mergedMacros (h : Recalls p history) :
    p.mergedMacros.names =
      (p.macros.names ++ (latest history).flatMap fun u => u.settings.macros.names).eraseDups := by
  have hdefaults : p.macros.names.Nodup := h.defaults_built.macros.nodup
  rw [mergedMacros_eq_insertAll, MacroTable.names_insertAll hdefaults, h.records,
    List.flatMap_map, List.map_flatMap]
  rfl

/-- The last record that has a name decides its value. -/
theorem Recalls.get?_mergedMacros (h : Recalls p history) (name : Text) :
    p.mergedMacros.get? name =
      ((latest history).reverse.findSome? fun u => u.settings.macros.get? name).or
        (p.macros.get? name) := by
  have hlast : ∀ u ∈ (latest history).reverse,
      (u.settings.macros.entries.reverse.find? fun m => m.name == name) =
        u.settings.macros.get? name := by
    intro u hu
    have hbuilt := h.built_of_mem_latest (List.mem_reverse.mp hu)
    exact MacroTable.find?_reverse_entries hbuilt.macros.nodup name
  rw [mergedMacros_eq_insertAll, MacroTable.get?_insertAll, h.records, List.flatMap_map,
    List.reverse_flatMap, List.find?_flatMap, ← List.head?_filterMap, ← List.head?_filterMap]
  exact congrArg (fun found => (List.head? found).or _) (List.filterMap_congr hlast)

/-- What the views of a project show is what its defaults and its history
say. -/
structure LastWriterWins (p : Project) (history : List UnitRecord) : Prop where
  settings : ∀ file, p.settings? file = (latestOf file history).map UnitRecord.settings
  settingsFor : ∀ file,
    p.settingsFor file = ((latestOf file history).map UnitRecord.settings).getD p.defaults
  directories : p.mergedSearchPath.directories =
    (p.searchPath.directories ++
      (latest history).flatMap fun u => u.settings.searchPath.directories).eraseDups
  names : p.mergedMacros.names =
    (p.macros.names ++ (latest history).flatMap fun u => u.settings.macros.names).eraseDups
  value : ∀ name, p.mergedMacros.get? name =
    ((latest history).reverse.findSome? fun u => u.settings.macros.get? name).or
      (p.macros.get? name)
  mem_names : ∀ name, name ∈ p.mergedMacros.names ↔
    name ∈ p.macros.names ∨ ∃ u ∈ latest history, name ∈ u.settings.macros.names

/-- **The last writer wins.**  The views of every reachable project are those of
its defaults and of the latest additions in its history. -/
theorem lastWriterWins_run (ops : List Operation) :
    LastWriterWins (run .empty ops) (additions .empty ops) := by
  have h := recalls_run ops
  exact {
    settings := h.settings
    settingsFor := fun file => by rw [settingsFor, h.settings]
    directories := h.directories_mergedSearchPath
    names := h.names_mergedMacros
    value := h.get?_mergedMacros
    mem_names := fun name => by
      rw [h.names_mergedMacros, List.mem_eraseDups, List.mem_append, List.mem_flatMap] }

end Project

end BuildEnv
