import BuildEnv.Proofs.Log.Place
import BuildEnv.Proofs.Switch.MacroSwitch
import BuildEnv.Proofs.Switch.Overlay

/-!
# Explicit macros of a log

The macros of a record are those that the compiler predefines for the profile of
the call, with the explicit macros of the call over them.  A definition on the
command line beats a predefined value, and a removal takes the name away, whether
the compiler or a definition before or behind it has put it there
(`BuildLog.explicit_over_predefined`).
-/

namespace BuildEnv

/-- The call that gives a record, and the macros over which it puts its own. -/
theorem Sighting.overlaid_of_mem_recordsAfter {base : Path} {past : List Sighting} {e : Sighting}
    {u : UnitRecord} (hu : u ∈ e.recordsAfter base past) :
    ∃ line compiler arguments, e = ⟨line, .invocation compiler arguments⟩ ∧
      ((contextAfter base past line).profile
          (Invocation.ofWords .msvc (CommandLine.Windows.split arguments))).predefined.Overlaid
        (Invocation.ofWords .msvc (CommandLine.Windows.split arguments)).macroSwitches
        u.settings.macros := by
  obtain ⟨line, m⟩ := e
  cases m with
  | invocation compiler arguments =>
      obtain ⟨source, -, rfl⟩ := List.mem_map.mp hu
      refine ⟨line, compiler, arguments, rfl, Invocation.overlaid_applyMacros _ ?_⟩
      exact (MacroTable.Built.ofList _).nodup
  | _ => cases hu

namespace BuildLog

open Switch

/-- **Explicit macros against predefined ones.**  An invocation puts its macros over
any table, and it does not matter where its removals stand among its definitions.
Every record of a log has the macros of its call over the predefined ones.  The
macros of a call are read from its words, from left to right. -/
theorem explicit_over_predefined :
    (∀ (i : Invocation) (t : MacroTable), t.Built →
      t.Overlaid i.macroSwitches (i.applyMacros t) ∧
      ∀ j : Invocation, j.definitions = i.definitions →
        (∀ name, name ∈ j.removals ↔ name ∈ i.removals) → j.applyMacros t = i.applyMacros t) ∧
    (∀ (lines : List Text) (base : Path), ∀ u ∈ records lines base,
      ∃ past line compiler arguments,
        (past, ⟨line, .invocation compiler arguments⟩) ∈
          (Sighting.ofLines lines).inits.zip (Sighting.ofLines lines) ∧
        u ∈ Sighting.recordsAfter base past ⟨line, .invocation compiler arguments⟩ ∧
        ((Sighting.contextAfter base past line).profile
            (Invocation.ofWords .msvc (CommandLine.Windows.split arguments))).predefined.Overlaid
          (Invocation.ofWords .msvc (CommandLine.Windows.split arguments)).macroSwitches
          u.settings.macros) ∧
    ∀ word next, (Invocation.ofWords .msvc (word :: next)).macroSwitches =
      if (Dialect.msvc.step word next).endsOptions then []
      else Dialect.msvc.macrosAt word next ++ (Invocation.ofWords .msvc
        ((word :: next).drop (Dialect.msvc.step word next).consumed)).macroSwitches := by
  refine ⟨?_, ?_, Invocation.macroSwitches_ofWords_cons .msvc⟩
  · intro i t hbuilt
    refine ⟨i.overlaid_applyMacros hbuilt.nodup, ?_⟩
    intro j hdefinitions hremovals
    exact Invocation.applyMacros_congr hbuilt.nodup hdefinitions hremovals
  · intro lines base u hu
    obtain ⟨past, e, hplace, hgiven⟩ := mem_records.mp hu
    obtain ⟨line, compiler, arguments, rfl, hover⟩ := Sighting.overlaid_of_mem_recordsAfter hgiven
    exact ⟨past, line, compiler, arguments, hplace, hgiven, hover⟩

/-- A name that is removed before it is defined, in a table and in a log, and a
predefined value that a definition replaces. -/
theorem explicit_over_predefined_removed :
    (MacroTable.ofList [.flag "OLD", .ofStrings "NEW" "1"]).Built ∧
      ((⟨[], [], [.undefine "OLD".toList, .define (.flag "KEPT"), .define (.flag "OLD"),
          .define (.ofStrings "NEW" "2")], .empty⟩ : Invocation).applyMacros
        (.ofList [.flag "OLD", .ofStrings "NEW" "1"])).names = ["NEW".toList, "KEPT".toList] ∧
      ∃ u ∈ records ["cl /U_WIN32 /D_MSC_BUILD=7 /D_WIN32 a.cpp".toList] ⟨"/build".toList⟩,
        ¬ u.settings.macros.contains "_WIN32".toList ∧
        u.settings.macros.get? "_MSC_BUILD".toList = some (.ofStrings "_MSC_BUILD" "7") := by
  obtain ⟨htables, hlog, -⟩ := explicit_over_predefined
  have hbuilt : (MacroTable.ofList [.flag "OLD", .ofStrings "NEW" "1"]).Built := .ofList _
  refine ⟨hbuilt, ?_, ?_⟩
  · rw [(htables _ _ hbuilt).1.names_eq]
    decide
  · have hlines : Sighting.ofLines ["cl /U_WIN32 /D_MSC_BUILD=7 /D_WIN32 a.cpp".toList] =
        [⟨none, .invocation "cl".toList "/U_WIN32 /D_MSC_BUILD=7 /D_WIN32 a.cpp".toList⟩] := by
      decide +kernel
    have hsplit : CommandLine.Windows.split "/U_WIN32 /D_MSC_BUILD=7 /D_WIN32 a.cpp".toList =
        ["/U_WIN32".toList, "/D_MSC_BUILD=7".toList, "/D_WIN32".toList, "a.cpp".toList] := by
      decide +kernel
    have hinvocation : Invocation.ofWords .msvc ["/U_WIN32".toList, "/D_MSC_BUILD=7".toList,
        "/D_WIN32".toList, "a.cpp".toList] = ⟨["a.cpp".toList], [], [.undefine "_WIN32".toList,
          .define (.ofStrings "_MSC_BUILD" "7"), .define (.flag "_WIN32")], .empty⟩ := by
      cbv
    obtain ⟨u, hu⟩ : ∃ u, u ∈ records ["cl /U_WIN32 /D_MSC_BUILD=7 /D_WIN32 a.cpp".toList]
        ⟨"/build".toList⟩ := by
      have hgiven : Sighting.recordsAfter ⟨"/build".toList⟩ [] ⟨none, .invocation "cl".toList
          "/U_WIN32 /D_MSC_BUILD=7 /D_WIN32 a.cpp".toList⟩ ≠ [] := by
        have hnone : (Invocation.ofWords .msvc (CommandLine.Windows.split
            "/U_WIN32 /D_MSC_BUILD=7 /D_WIN32 a.cpp".toList)).sources ≠ [] := by
          rw [hsplit, hinvocation]
          decide
        exact mt List.map_eq_nil_iff.mp hnone
      obtain ⟨u, hu⟩ := List.exists_mem_of_ne_nil _ hgiven
      refine ⟨u, mem_records.mpr ⟨[], _, ?_, hu⟩⟩
      rw [hlines]
      exact List.mem_singleton_self _
    refine ⟨u, hu, ?_⟩
    obtain ⟨past, line, compiler, arguments, hplace, -, hover⟩ := hlog _ _ u hu
    have harguments : arguments = "/U_WIN32 /D_MSC_BUILD=7 /D_WIN32 a.cpp".toList := by
      have hmem := (List.of_mem_zip hplace).2
      rw [hlines] at hmem
      exact (Marker.invocation.inj (Sighting.mk.inj (List.mem_singleton.mp hmem)).2).2
    rw [harguments, hsplit, hinvocation] at hover
    constructor
    · rw [hover.contains_iff]
      intro h
      exact h.2 (by decide)
    · rw [hover.get?_eq, if_neg (by decide)]
      have hlast : MacroSwitch.lastDefinition? "_MSC_BUILD".toList [.undefine "_WIN32".toList,
          .define (.ofStrings "_MSC_BUILD" "7"), .define (.flag "_WIN32")] =
            some (.ofStrings "_MSC_BUILD" "7") := by
        decide
      rw [hlast]
      rfl

end BuildLog

end BuildEnv
