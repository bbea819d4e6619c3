import BuildEnv.Proofs.Log.ExplicitMacros
import BuildEnv.Proofs.Settings.MacroHistory
import BuildEnv.Proofs.Switch.LastSwitch
import BuildEnv.Proofs.Toolset.Language

/-!
# The language version in a log

A call that turns the conforming `__cplusplus` on and leaves the two macros of the
language version alone gives records in which they tell one version, the one of the
last language standard that the call names.  Nothing that the log tells of toolset or
architecture bears on it (`BuildLog.tellsLanguage_of_mem_recordsAfter`).
-/

namespace BuildEnv

open Predefined (TellsLanguage cplusplusName msvcLangName)

/-- A name that no explicit macro is about keeps what the table says of it. -/
theorem MacroTable.Overlaid.get?_of_notMem {t after : MacroTable} {switches : List MacroSwitch}
    {name : Text} (h : t.Overlaid switches after) (hname : name ∉ switches.map MacroSwitch.about) :
    after.get? name = t.get? name := by
  have hremoved : .undefine name ∉ switches := fun hmem =>
    hname (List.mem_map_of_mem hmem)
  have hdefined : MacroSwitch.lastDefinition? name switches = none := by
    refine List.find?_eq_none.mpr ?_
    intro m hm hself
    have hdefine : .define m ∈ switches := MacroSwitch.mem_definitions.mp (List.mem_reverse.mp hm)
    have habout : m.name = name := by simpa using hself
    exact hname (List.mem_map.mpr ⟨_, hdefine, habout⟩)
  rw [h.get?_eq, if_neg hremoved, hdefined, Option.none_or]

namespace Invocation

open Switch Switch.Dialect

/-- The language standard that the last switch for it names. -/
def lastStandard? (words : List Text) : Option Feature :=
  ((marked words).filterMap (argument? "std:".toList)).getLast?.bind
    standardNamed?

/-- The words turn the conforming `__cplusplus` on, and no explicit macro is about one
of the names that tell the language version. -/
structure LeavesLanguageToStandards (words : List Text) : Prop where
  conformant : lastOf ["Zc:__cplusplus".toList, "Zc:__cplusplus-".toList] (marked words) =
    some "Zc:__cplusplus".toList
  cplusplus : cplusplusName ∉ (ofWords .msvc words).macroSwitches.map MacroSwitch.about
  msvcLang : msvcLangName ∉ (ofWords .msvc words).macroSwitches.map MacroSwitch.about

/-- Of several standards on one command line the last one is the highest, since it is
the only one that stays. -/
theorem highestLanguageVersion_ofWords (words : List Text) :
    Feature.highestLanguageVersion (ofWords .msvc words).features.toList =
      Feature.highestLanguageVersion (lastStandard? words).toList := by
  have hgoverns := governs_group "std:".toList .languageStandard
    (fun _ _ => mem_languageStandards) (fun _ _ => rfl) (by decide) rfl (by decide)
  have hlast := filter_toList_group (fun _ _ => mem_languageStandards) hgoverns words
  rw [← Feature.highestLanguageVersion_filter, hlast, languageStandard?_eq]
  rfl

/-- Such a call tells the compiler to set `__cplusplus`. -/
theorem LeavesLanguageToStandards.has_conformantCplusplus {words : List Text}
    (h : LeavesLanguageToStandards words) :
    (ofWords .msvc words).features.has .conformantCplusplus :=
  (has_iff_lastOf (governs_choose? (by decide) (by decide)) words).mpr h.conformant

end Invocation

open CommandLine in
/-- The records of such a call tell the version of its last language standard, whatever
is known of the toolset. -/
theorem BuildLog.tellsLanguage_of_mem_recordsAfter {base : Path} {past : List Sighting}
    {line : Option Nat} {compiler arguments : Text} {u : UnitRecord}
    (h : Invocation.LeavesLanguageToStandards (Windows.split arguments))
    (hu : u ∈ Sighting.recordsAfter base past ⟨line, .invocation compiler arguments⟩) :
    TellsLanguage u.settings.macros (Feature.highestLanguageVersion
      (Invocation.lastStandard? (Windows.split arguments)).toList) := by
  obtain ⟨line', compiler', arguments', he, hover⟩ := Sighting.overlaid_of_mem_recordsAfter hu
  obtain ⟨-, rfl⟩ := Marker.invocation.inj (Sighting.mk.inj he).2
  have hpredefined := Predefined.tellsLanguage_predefined
    (p := (Sighting.contextAfter base past line').profile
      (Invocation.ofWords .msvc (Windows.split arguments))) h.has_conformantCplusplus
  rw [← Invocation.highestLanguageVersion_ofWords]
  constructor
  · rw [hover.get?_of_notMem h.cplusplus]
    exact hpredefined.cplusplus
  · intro m hm
    rw [hover.get?_of_notMem h.msvcLang] at hm
    exact hpredefined.msvcLang m hm

namespace BuildLog

open Switch (Dialect)

/-- **The two macros of the language version never contradict each other** where
`__cplusplus` conforms.  Every profile that asks for it defines it with the highest
version of its standards, and so do the records of every call of a log that asks for it
and leaves both names alone. -/
theorem language_coherent :
    (∀ p : Profile, p.features.has .conformantCplusplus →
      TellsLanguage p.predefined (Feature.highestLanguageVersion p.features.toList)) ∧
    ∀ (lines : List Text) (base : Path) (past : List Sighting) (line : Option Nat)
      (compiler arguments : Text),
      (past, ⟨line, .invocation compiler arguments⟩) ∈
        (Sighting.ofLines lines).inits.zip (Sighting.ofLines lines) →
      Invocation.LeavesLanguageToStandards (CommandLine.Windows.split arguments) →
      ∀ u ∈ Sighting.recordsAfter base past ⟨line, .invocation compiler arguments⟩,
        u ∈ records lines base ∧
        TellsLanguage u.settings.macros (Feature.highestLanguageVersion
          (Invocation.lastStandard? (CommandLine.Windows.split arguments)).toList) :=
  ⟨fun _ h => Predefined.tellsLanguage_predefined h,
    fun _ _ past _ _ _ hplace h _ hu =>
      ⟨mem_records.mpr ⟨past, _, hplace, hu⟩, tellsLanguage_of_mem_recordsAfter h hu⟩⟩

/-- Two standards at once in a profile, of which the higher one counts, and two standards
one after the other in a log, of which the later one does. -/
theorem language_coherent_standards :
    (FeatureSet.ofList [.conformantCplusplus, .cppLatest, .cpp14]).has .conformantCplusplus ∧
      (⟨some ⟨142⟩, none, .x64, .ofList [.conformantCplusplus, .cppLatest, .cpp14]⟩ :
        Profile).predefined.get? "__cplusplus".toList =
          some (.ofStrings "__cplusplus" "202004L") ∧
      ∃ u ∈ records ["cl /std:c++20 /Zc:__cplusplus /std:c++17 a.cpp".toList] ⟨"/build".toList⟩,
        u.settings.macros.get? "__cplusplus".toList = some (.ofStrings "__cplusplus" "201703L") ∧
          ∀ m, u.settings.macros.get? "_MSVC_LANG".toList = some m →
            m.value = some "201703L".toList := by
  obtain ⟨hprofiles, hlogs⟩ := language_coherent
  refine ⟨by decide, ?_, ?_⟩
  · have hhas : (FeatureSet.ofList [.conformantCplusplus, .cppLatest, .cpp14]).has
        .conformantCplusplus := by decide
    exact (hprofiles ⟨some ⟨142⟩, none, .x64, _⟩ hhas).cplusplus
  · have hplace : (([] : List Sighting), (⟨none, .invocation "cl".toList
        "/std:c++20 /Zc:__cplusplus /std:c++17 a.cpp".toList⟩ : Sighting)) ∈
        (Sighting.ofLines ["cl /std:c++20 /Zc:__cplusplus /std:c++17 a.cpp".toList]).inits.zip
          (Sighting.ofLines ["cl /std:c++20 /Zc:__cplusplus /std:c++17 a.cpp".toList]) := by
      have hlines : Sighting.ofLines ["cl /std:c++20 /Zc:__cplusplus /std:c++17 a.cpp".toList] =
          [⟨none, .invocation "cl".toList
            "/std:c++20 /Zc:__cplusplus /std:c++17 a.cpp".toList⟩] := by
        decide +kernel
      rw [hlines]
      exact List.mem_singleton_self _
    have hsplit : CommandLine.Windows.split "/std:c++20 /Zc:__cplusplus /std:c++17 a.cpp".toList =
        ["/std:c++20".toList, "/Zc:__cplusplus".toList, "/std:c++17".toList, "a.cpp".toList] := by
      decide +kernel
    have hwalk : Dialect.msvc.walk (CommandLine.Windows.split
        "/std:c++20 /Zc:__cplusplus /std:c++17 a.cpp".toList) =
        [.switch ⟨.languageStandard, some "c++20".toList, 1⟩,
          .switch ⟨.enables [.conformantCplusplus], none, 1⟩,
          .switch ⟨.languageStandard, some "c++17".toList, 1⟩, .sourceFile "a.cpp".toList] := by
      rw [hsplit]
      cbv
    have hmarked : Switch.marked (CommandLine.Windows.split
        "/std:c++20 /Zc:__cplusplus /std:c++17 a.cpp".toList) =
        ["std:c++20".toList, "Zc:__cplusplus".toList, "std:c++17".toList] := by
      rw [hsplit]
      decide
    have hswitches : (Invocation.ofWords .msvc (CommandLine.Windows.split
        "/std:c++20 /Zc:__cplusplus /std:c++17 a.cpp".toList)).macroSwitches = [] := by
      rw [Invocation.ofWords, hwalk]
      rfl
    have hsources : (Invocation.ofWords .msvc (CommandLine.Windows.split
        "/std:c++20 /Zc:__cplusplus /std:c++17 a.cpp".toList)).sources ≠ [] := by
      rw [Invocation.ofWords, hwalk]
      decide
    have hleaves : Invocation.LeavesLanguageToStandards (CommandLine.Windows.split
        "/std:c++20 /Zc:__cplusplus /std:c++17 a.cpp".toList) := by
      refine ⟨by rw [hmarked]; decide, ?_, ?_⟩
      all_goals
        rw [hswitches]
        exact List.not_mem_nil
    have hstandard : Invocation.lastStandard? (CommandLine.Windows.split
        "/std:c++20 /Zc:__cplusplus /std:c++17 a.cpp".toList) = some .cpp17 := by
      rw [Invocation.lastStandard?, hmarked]
      decide
    obtain ⟨u, hu⟩ : ∃ u, u ∈ Sighting.recordsAfter ⟨"/build".toList⟩ [] ⟨none,
        .invocation "cl".toList "/std:c++20 /Zc:__cplusplus /std:c++17 a.cpp".toList⟩ := by
      exact List.exists_mem_of_ne_nil _ (mt List.map_eq_nil_iff.mp hsources)
    obtain ⟨hrecord, htells⟩ := hlogs _ ⟨"/build".toList⟩ _ _ _ _ hplace hleaves u hu
    rw [hstandard] at htells
    exact ⟨u, hrecord, htells.cplusplus, htells.msvcLang⟩

end BuildLog

end BuildEnv
