import BuildEnv.Log.Entry
import BuildEnv.Proofs.Switch.LastSwitch
import BuildEnv.Proofs.Toolset.Layers

/-!
# The run-time library of an invocation

The run-time library is selected by four switches, of which the compiler obeys
the last one.  Here they only turn features on, so that an invocation has what
any of them turns on (`Invocation.features_runtime`).  This is what the last
switch selects exactly if no switch before it turns on more than it does, and
`Invocation.features_runtime_leftover` is a command line on which it is not.

The macros `_DLL` and `_DEBUG` follow the two features
(`Predefined.contains_iff_has`).
-/

namespace BuildEnv

namespace Predefined

/-- A macro that is defined for one feature alone. -/
theorem contains_iff_has (p : Profile) {name : Text} {f : Feature} (hname : name ∈ featureNames)
    (hother : name ≠ floatingPointName)
    (hdefault : name ∉ Release.languageDefaults.map Macro.name)
    (hrules : ∀ rule ∈ featureRules, rule.lists name → rule.needs = [f]) :
    p.predefined.contains name ↔ p.features.has f := by
  have hget : p.predefined.get? name =
      (lastRule? p name).bind fun rule => last? name rule.macros := by
    rw [get?_of_mem_featureNames p hname hother, last?_eq_none_iff.mpr hdefault, ite_self,
      Option.or_none]
  rw [MacroTable.contains, hget]
  cases hrule : lastRule? p name with
  | none =>
      obtain ⟨rule, hmem, hm⟩ := List.mem_flatMap.mp hname
      have hlists : rule.lists name := by
        obtain ⟨m, hm, hmname⟩ := List.mem_map.mp hm
        exact List.any_eq_true.mpr ⟨m, hm, by simpa using hmname⟩
      have hnone := List.find?_eq_none.mp hrule rule (List.mem_reverse.mpr hmem)
      simpa [hlists, hrules rule hmem hlists] using hnone
  | some rule =>
      have hmem : rule ∈ featureRules :=
        List.mem_reverse.mp (List.mem_of_find?_eq_some hrule)
      have hfound := List.find?_some hrule
      obtain ⟨hlists, hneeds⟩ := Bool.and_eq_true_iff.mp hfound
      obtain ⟨m, -, -, hlast⟩ := exists_last?_of_lists hlists
      rw [hrules rule hmem hlists] at hneeds
      simpa [hlast] using hneeds

end Predefined

namespace Invocation

open Switch Switch.Dialect

/-- The switches that select the run-time library. -/
def runtimeSwitches : List Text :=
  ["MT".toList, "MTd".toList, "MD".toList, "MDd".toList]

/-- The switches that select the library in DLL form. -/
def dynamicSwitches : List Text :=
  ["MD".toList, "MDd".toList]

/-- The switches that select the debug version of the library. -/
def debugSwitches : List Text :=
  ["MTd".toList, "MDd".toList]

/-- Without a switch that turns the feature off, any one that turns it on is enough. -/
theorem getLast?_choose?_nil_iff (on names : List Text) :
    ((names.filterMap (choose? on [])).getLast?).getD false = true ↔
      ∃ name ∈ names, name ∈ on := by
  rw [getLast?_filterMap_iff]
  constructor
  · rintro ⟨name, hlast, hchoice⟩
    exact ⟨name, List.mem_of_mem_filter (List.mem_of_getLast? hlast),
      choose?_eq_some_true_iff.mp hchoice⟩
  · rintro ⟨name, hname, hon⟩
    have hmem : name ∈ names.filter fun name => (choose? on [] name).isSome :=
      List.mem_filter.mpr ⟨hname, isSome_choose?.mpr (List.mem_append_left _ hon)⟩
    obtain ⟨last, hlast⟩ := List.getLast?_isSome.mpr (List.ne_nil_of_mem hmem) |>
      Option.isSome_iff_exists.mp
    refine ⟨last, hlast, choose?_eq_some_true_iff.mpr ?_⟩
    have hchoice := (List.mem_filter.mp (List.mem_of_getLast? hlast)).2
    simpa using isSome_choose?.mp hchoice

/-- A feature that switches only turn on is there if one of them is. -/
theorem has_iff_exists {f : Feature} {on : List Text} (h : Governs f (choose? on []))
    (words : List Text) :
    (ofWords .msvc words).features.has f ↔ ∃ name ∈ marked words, name ∈ on := by
  rw [h.has_ofWords, getLast?_choose?_nil_iff]

/-- The runtime library is dynamic if any switch asks for it. -/
theorem has_dynamicRuntime (words : List Text) :
    (ofWords .msvc words).features.has .dynamicRuntime ↔
      ∃ name ∈ marked words, name ∈ dynamicSwitches :=
  has_iff_exists (governs_choose? (by decide) (by decide)) words

theorem has_debugRuntime (words : List Text) :
    (ofWords .msvc words).features.has .debugRuntime ↔
      ∃ name ∈ marked words, name ∈ debugSwitches ++ ["LDd".toList] :=
  has_iff_exists (governs_choose? (by decide) (by decide)) words

/-- **The run-time library.**  An invocation has the features that any switch of
its walk turns on, and its macros follow them.  They are those of the last switch
that selects the library exactly if that one turns on all that the others do. -/
theorem features_runtime (words : List Text) :
    ((ofWords .msvc words).features.has .dynamicRuntime ↔
        ∃ name ∈ marked words, name ∈ dynamicSwitches) ∧
      ((ofWords .msvc words).features.has .debugRuntime ↔
        ∃ name ∈ marked words, name ∈ debugSwitches ++ ["LDd".toList]) ∧
      (∀ c : BuildContext,
        ((c.profile (ofWords .msvc words)).predefined.contains "_DLL".toList ↔
          (ofWords .msvc words).features.has .dynamicRuntime) ∧
        ((c.profile (ofWords .msvc words)).predefined.contains "_DEBUG".toList ↔
          (ofWords .msvc words).features.has .debugRuntime)) ∧
      ("LDd".toList ∉ marked words →
        ∀ last, lastOf runtimeSwitches (marked words) = some last →
          ((((ofWords .msvc words).features.has .dynamicRuntime ↔ last ∈ dynamicSwitches) ∧
              ((ofWords .msvc words).features.has .debugRuntime ↔ last ∈ debugSwitches)) ↔
            ∀ name ∈ marked words, (name ∈ dynamicSwitches → last ∈ dynamicSwitches) ∧
              (name ∈ debugSwitches → last ∈ debugSwitches))) := by
  refine ⟨has_dynamicRuntime words, has_debugRuntime words, fun c => ⟨?_, ?_⟩, ?_⟩
  · exact Predefined.contains_iff_has _ (by decide) (by decide) (by decide) (by decide)
  · exact Predefined.contains_iff_has _ (by decide) (by decide) (by decide) (by decide)
  · intro hlibrary last hlast
    have hmet : last ∈ marked words := List.mem_of_mem_filter (List.mem_of_getLast? hlast)
    have hdebug : (ofWords .msvc words).features.has .debugRuntime ↔
        ∃ name ∈ marked words, name ∈ debugSwitches := by
      rw [has_debugRuntime]
      refine exists_congr fun name => and_congr_right fun hname => ?_
      have hne : name ≠ "LDd".toList := fun h => hlibrary (h ▸ hname)
      simp only [List.mem_append, List.mem_singleton, hne, or_false]
    rw [has_dynamicRuntime, hdebug]
    constructor
    · rintro ⟨hdynamic, hdebug⟩ name hname
      exact ⟨fun h => hdynamic.mp ⟨name, hname, h⟩, fun h => hdebug.mp ⟨name, hname, h⟩⟩
    · intro hcovers
      exact ⟨⟨fun ⟨name, hname, h⟩ => (hcovers name hname).1 h, fun h => ⟨last, hmet, h⟩⟩,
        ⟨fun ⟨name, hname, h⟩ => (hcovers name hname).2 h, fun h => ⟨last, hmet, h⟩⟩⟩

/-- The debug version in DLL form after the plain library: the last switch turns
on all that the first one does, and the features are its own. -/
theorem features_runtime_override :
    "LDd".toList ∉ marked ["/MT".toList, "-MDd".toList, "a.cpp".toList] ∧
      lastOf runtimeSwitches (marked ["/MT".toList, "-MDd".toList, "a.cpp".toList]) =
        some "MDd".toList ∧
      (ofWords .msvc ["/MT".toList, "-MDd".toList, "a.cpp".toList]).features.has .dynamicRuntime ∧
      (ofWords .msvc ["/MT".toList, "-MDd".toList, "a.cpp".toList]).features.has .debugRuntime := by
  have hmarked : marked ["/MT".toList, "-MDd".toList, "a.cpp".toList] =
      ["MT".toList, "MDd".toList] := by
    decide
  have hlibrary : "LDd".toList ∉ marked ["/MT".toList, "-MDd".toList, "a.cpp".toList] := by
    rw [hmarked]
    decide
  have hlast : lastOf runtimeSwitches
      (marked ["/MT".toList, "-MDd".toList, "a.cpp".toList]) = some "MDd".toList := by
    rw [hmarked]
    decide
  have hcovers : ∀ name ∈ marked ["/MT".toList, "-MDd".toList, "a.cpp".toList],
      (name ∈ dynamicSwitches → "MDd".toList ∈ dynamicSwitches) ∧
        (name ∈ debugSwitches → "MDd".toList ∈ debugSwitches) := by
    rw [hmarked]
    decide
  obtain ⟨hdynamic, hdebug⟩ :=
    ((features_runtime _).2.2.2 hlibrary "MDd".toList hlast).mpr hcovers
  exact ⟨hlibrary, hlast, hdynamic.mpr (by decide), hdebug.mpr (by decide)⟩

/-- The plain library after the debug version in DLL form: the features of the
first switch are still there. -/
theorem features_runtime_leftover :
    "LD".toList ∉ marked
        ["/c".toList, "/MDd".toList, "/MT".toList, "main.cpp".toList] ∧
      "LDd".toList ∉ marked
        ["/c".toList, "/MDd".toList, "/MT".toList, "main.cpp".toList] ∧
      lastOf runtimeSwitches (marked
        ["/c".toList, "/MDd".toList, "/MT".toList, "main.cpp".toList]) = some "MT".toList ∧
      "MT".toList ∉ dynamicSwitches ∧ "MT".toList ∉ debugSwitches ∧
      (ofWords .msvc ["/c".toList, "/MDd".toList, "/MT".toList,
        "main.cpp".toList]).features.has .dynamicRuntime ∧
      (ofWords .msvc ["/c".toList, "/MDd".toList, "/MT".toList,
        "main.cpp".toList]).features.has .debugRuntime := by
  have hmarked : marked ["/c".toList, "/MDd".toList, "/MT".toList, "main.cpp".toList] =
      ["c".toList, "MDd".toList, "MT".toList] := by
    decide
  rw [has_dynamicRuntime, has_debugRuntime, hmarked]
  decide

end Invocation

end BuildEnv
