import BuildEnv.Proofs.Project.Merged
import BuildEnv.Proofs.Settings.MacroLine
import BuildEnv.Proofs.Toolset.Layers

/-!
# Where the names of macros come from

The lines of a report are read again only if no name has a blank in it.  Names
come into a project from its caller, from the tables of the compiler, and from
the command lines of logs and databases.  The last two never have blanks in
them, so that a project has plain names if its caller gives it no others.

* `Operation.PlainNames`: the caller's part.
* `Project.plainNames_run`: all names of a reachable project are plain.
-/

namespace BuildEnv

/-- No name of the compiler's tables has a blank in it. -/
theorem Profile.plainNames_predefined (p : Profile) : p.predefined.PlainNames := by
  have htables : ∀ name ∈ (Predefined.baseline ++ Predefined.system).map Macro.name ++
      Predefined.versionNames ++ Predefined.floatingPointName :: Predefined.architectureNames ++
        Predefined.featureNames, ¬ name.any Text.isBlank := by
    decide
  intro m hm
  exact htables m.name (Predefined.names_predefined_subset p (List.mem_map_of_mem hm))

namespace Invocation

/-- Whatever an invocation defines was read as a macro. -/
theorem hasPlainName_of_mem_macroSwitches {i : Invocation} {step : Switch.Step}
    (hi : ∀ m, .define m ∈ i.macroSwitches → m.HasPlainName) {m : Macro}
    (hm : .define m ∈ (i.addStep step).macroSwitches) : m.HasPlainName := by
  cases step with
  | switch found =>
      rcases List.mem_append.mp hm with hm | hm
      · exact hi m hm
      · unfold macroSwitchesOf at hm
        cases hmeaning : found.meaning <;> simp only [hmeaning] at hm
        case define =>
          split at hm
          · next hparse =>
            cases List.mem_singleton.mp hm
            exact Macro.hasPlainName_of_parse hparse
          · cases hm
        all_goals simp at hm
  | sourceFile word => exact hi m hm
  | responseFile word => exact hi m hm
  | unknown word => exact hi m hm

/-- No name that is defined on a command line has a blank in it. -/
theorem hasPlainName_of_mem_definitions {d : Switch.Dialect} {words : List Text} {m : Macro}
    (hm : m ∈ (ofWords d words).definitions) : m.HasPlainName := by
  have hsteps : ∀ (steps : List Switch.Step) (i : Invocation),
      (∀ m, .define m ∈ i.macroSwitches → m.HasPlainName) →
        ∀ m, .define m ∈ (steps.foldl addStep i).macroSwitches → m.HasPlainName := by
    intro steps
    induction steps with
    | nil => exact fun _ hi => hi
    | cons step rest ih =>
        exact fun i hi => ih (i.addStep step) fun _ => hasPlainName_of_mem_macroSwitches hi
  obtain ⟨s, hs, hdefine⟩ := List.mem_filterMap.mp hm
  cases s with
  | undefine name => cases hdefine
  | define n =>
      cases hdefine
      exact hsteps (d.walk words) empty (fun _ hmem => nomatch hmem) m hs

/-- A command line keeps the names of a table plain. -/
theorem plainNames_applyMacros {d : Switch.Dialect} {words : List Text} {t : MacroTable}
    (h : t.PlainNames) : ((ofWords d words).applyMacros t).PlainNames :=
  (h.insertAll fun _ => hasPlainName_of_mem_definitions).eraseAll _

end Invocation

/-- A command line tells plain names only. -/
theorem UnitSettings.Told.plainNames {s : UnitSettings} (h : s.Told) : s.macros.PlainNames := by
  cases h with
  | onProfile d words ds p => exact Invocation.plainNames_applyMacros p.plainNames_predefined
  | onNone d words ds => exact Invocation.plainNames_applyMacros MacroTable.plainNames_empty

namespace Project

/-- The caller gives no name with a blank in it. -/
def Setting.PlainNames : Setting → Prop
  | macros ms => ∀ m ∈ ms, m.HasPlainName
  | definition m => m.HasPlainName
  | baseDirectory _ | searchPath _ | directory _ => True

/-- The caller gives no name with a blank in it; logs and databases may tell
what they like. -/
def Operation.PlainNames : Operation → Prop
  | setting s => s.PlainNames
  | addRecord u _ => u.settings.macros.PlainNames
  | addRecords records _ => ∀ u ∈ records, u.settings.macros.PlainNames
  | addLogs _ _ _ _ | addDatabases _ _ => True

/-- The records that a caller gives have plain names if he gives no others. -/
theorem Operation.plainNames_of_mem_given {op : Operation} (h : op.PlainNames) {u : UnitRecord}
    (hu : u ∈ op.given) : u.settings.macros.PlainNames := by
  cases op with
  | addRecord v built =>
      obtain rfl := List.mem_singleton.mp hu
      exact h
  | addRecords records built => exact h u hu
  | _ => cases hu

/-- All records that an operation adds have plain names. -/
theorem Operation.plainNames_of_mem_added {op : Operation} (h : op.PlainNames) {p : Project}
    {u : UnitRecord} (hu : u ∈ op.added p) : u.settings.macros.PlainNames := by
  by_cases hgiven : u ∈ op.given
  · exact plainNames_of_mem_given h hgiven
  · exact (told_of_mem_added hu hgiven).plainNames

/-- No name in the defaults or in a record has a blank in it. -/
structure PlainNames (p : Project) : Prop where
  macros : p.macros.PlainNames
  units : ∀ u ∈ p.units.entries, u.settings.macros.PlainNames

theorem plainNames_empty : PlainNames .empty where
  macros := MacroTable.plainNames_empty
  units _ hu := by cases hu

variable {p : Project}

/-- A plain setting keeps the names of a project plain. -/
theorem PlainNames.setting (h : p.PlainNames) {s : Setting} (hs : s.PlainNames) :
    (s.apply p).PlainNames := by
  cases s with
  | macros ms => exact { h with macros := MacroTable.plainNames_empty.insertAll hs }
  | definition m => exact { h with macros := h.macros.insert hs }
  | baseDirectory d => exact { h with }
  | searchPath ds => exact { h with }
  | directory d => exact { h with }

theorem PlainNames.addRecord (h : p.PlainNames) {u : UnitRecord}
    (hu : u.settings.macros.PlainNames) : (p.addRecord u).PlainNames where
  macros := h.macros
  units x hx := by
    rcases UnitTable.settings_of_mem_insertEntry hx with heq | ⟨e, he, heq⟩
    · rwa [heq]
    · rw [heq]
      exact h.units e he

theorem PlainNames.addRecords (h : p.PlainNames) {us : List UnitRecord}
    (hus : ∀ u ∈ us, u.settings.macros.PlainNames) : (p.addRecords us).PlainNames := by
  induction us generalizing p with
  | nil => exact h
  | cons u rest ih =>
      exact ih (h.addRecord (hus u List.mem_cons_self)) fun v hv =>
        hus v (List.mem_cons_of_mem _ hv)

/-- An operation with plain names keeps the names of a project plain. -/
theorem PlainNames.apply (h : p.PlainNames) {op : Operation} (hop : op.PlainNames) :
    (op.apply p).PlainNames := by
  by_cases hset : ∃ s, op = .setting s
  · obtain ⟨s, rfl⟩ := hset
    exact h.setting hop
  · rw [Operation.apply_eq_addRecords (not_exists.mp hset)]
    exact h.addRecords fun u hu => Operation.plainNames_of_mem_added hop hu

/-- **All names are plain** in a project whose caller gave it no others. -/
theorem plainNames_run {ops : List Operation} (h : ∀ op ∈ ops, op.PlainNames) :
    (run .empty ops).PlainNames := by
  suffices hrun : ∀ p : Project, p.PlainNames → (run p ops).PlainNames from
    hrun .empty plainNames_empty
  induction ops with
  | nil => exact fun _ hp => hp
  | cons op rest ih =>
      intro p hp
      exact ih (fun o ho => h o (List.mem_cons_of_mem _ ho)) _
        (hp.apply (h op List.mem_cons_self))

/-- The settings of a record stand in the table. -/
theorem exists_mem_entries_of_mem_records {r : UnitRecord} (hr : r ∈ p.records) :
    ∃ u ∈ p.units.entries, r.settings = u.settings := by
  obtain ⟨file, -, hfound⟩ := List.mem_filterMap.mp hr
  obtain ⟨s, hs, rfl⟩ := Option.map_eq_some_iff.mp hfound
  obtain ⟨u, hu, rfl⟩ := Option.map_eq_some_iff.mp hs
  exact ⟨u, List.mem_of_find?_eq_some hu, rfl⟩

/-- The merged macros of such a project have plain names. -/
theorem PlainNames.mergedMacros (h : p.PlainNames) : p.mergedMacros.PlainNames := by
  rw [mergedMacros_eq_insertAll]
  refine h.macros.insertAll fun m hm => ?_
  obtain ⟨r, hr, hmem⟩ := List.mem_flatMap.mp hm
  obtain ⟨u, hu, heq⟩ := exists_mem_entries_of_mem_records hr
  rw [heq] at hmem
  exact h.units u hu m hmem

end Project

end BuildEnv
