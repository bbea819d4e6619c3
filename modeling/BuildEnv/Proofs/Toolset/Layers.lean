import BuildEnv.Proofs.Settings.Containers
import BuildEnv.Toolset.Predefined
import Mathlib.Data.List.Induction

/-!
# The layers of predefined macros

The predefined macros are five tables, one put on top of the other.  What the
compiler defines for a name is therefore what the topmost layer says of it
(`Predefined.get?_predefined`), and a layer says nothing of a name that it does
not list.  Which layers list a name in common is a fact about the tables
(`Predefined.layers_apart`): only `_M_IX86_FP` stands in two of them because of
the architecture, and only the language version because of the release.

* `Predefined.last?_ofFeatures`: in the topmost layer the last rule that
  applies and lists the name decides.
* `Predefined.get?_of_mem_lowest` and the like: which layer a name is read
  from, for the names of each layer.
-/

namespace BuildEnv

namespace Predefined

/-- The last macro of a name in a list. -/
def last? (name : Text) (ms : List Macro) : Option Macro :=
  ms.reverse.find? fun m => m.name == name

/-- Whether a rule has a macro of a name. -/
def FeatureRule.lists (rule : FeatureRule) (name : Text) : Bool :=
  rule.macros.any fun m => m.name == name

/-- The last rule that has a macro of a name and whose features are all
there. -/
def lastRule? (p : Profile) (name : Text) : Option FeatureRule :=
  featureRules.reverse.find? fun rule => rule.lists name && rule.needs.all p.features.has

/-- The names that tell the version of the compiler. -/
def versionNames : List Text :=
  ["_MSC_VER".toList, "_MSC_FULL_VER".toList, "_ATL_VER".toList]

/-- The names that tell an architecture, without the one whose value depends on
the features too. -/
def architectureNames : List Text :=
  ["_WIN64".toList, "_M_X64".toList, "_M_AMD64".toList, "_M_ARM".toList, "_M_IX86".toList]

/-- The name that tells the floating point instructions of x86. -/
def floatingPointName : Text := "_M_IX86_FP".toList

/-- The names of all rules. -/
def featureNames : List Text :=
  featureRules.flatMap fun rule => rule.macros.map Macro.name

/-- The releases whose compilers tell a language version without being told
one. -/
def hasLanguageDefaults (version : Option ToolsetVersion) : Bool :=
  version.any fun v => [141, 142, 143].contains v.number

section LastMacro

variable {name : Text} {ms : List Macro}

/-- The later list decides, if it has the name. -/
theorem last?_append (ms more : List Macro) :
    last? name (ms ++ more) = (last? name more).or (last? name ms) := by
  rw [last?, List.reverse_append, List.find?_append]
  rfl

/-- There is no last macro exactly of the names that do not occur. -/
theorem last?_eq_none_iff : last? name ms = none ↔ name ∉ ms.map Macro.name := by
  unfold last?
  simp only [List.find?_eq_none, List.mem_reverse, List.mem_map, not_exists, not_and, beq_iff_eq]

/-- The last macro of a name is one of the list, and has the name. -/
theorem mem_of_last? {m : Macro} (h : last? name ms = some m) : m ∈ ms ∧ m.name = name := by
  have hmem : m ∈ ms := List.mem_reverse.mp (List.mem_of_find?_eq_some h)
  have hname : m.name = name := by simpa using List.find?_some h
  exact ⟨hmem, hname⟩

/-- A name that is listed has a last macro. -/
theorem exists_last? (h : name ∈ ms.map Macro.name) :
    ∃ m ∈ ms, m.name = name ∧ last? name ms = some m := by
  cases hlast : last? name ms with
  | none => exact absurd h (last?_eq_none_iff.mp hlast)
  | some m =>
      obtain ⟨hmem, hname⟩ := mem_of_last? hlast
      exact ⟨m, hmem, hname, rfl⟩

end LastMacro

/-- **The topmost layer decides.** -/
theorem get?_predefined (p : Profile) (name : Text) :
    p.predefined.get? name =
      (last? name (ofFeatures p)).or
        ((last? name (ofArchitecture p.architecture)).or
          ((last? name (ofVersion p.version)).or (last? name (baseline ++ system)))) := by
  have hlast : p.predefined.get? name = last? name (layers p) := by
    rw [Profile.predefined, MacroTable.ofList, MacroTable.get?_insertAll]
    exact Option.or_none
  rw [hlast, layers, last?_append, last?_append, last?_append]

/-- A profile defines the names of its layers. -/
theorem mem_names_predefined {p : Profile} {name : Text} :
    name ∈ p.predefined.names ↔ name ∈ (layers p).map Macro.name := by
  have hnames : p.predefined.names = ([] ++ (layers p).map Macro.name).eraseDups :=
    MacroTable.names_insertAll (t := .empty) List.nodup_nil _
  rw [hnames, List.mem_eraseDups, List.nil_append]

section Tables

/-- **The layers share no name**, once the floating point instructions are
counted among the features. -/
theorem layers_apart :
    (∀ name ∈ (baseline ++ system).map Macro.name,
      name ∉ versionNames ∧ name ∉ architectureNames ∧ name ∉ featureNames) ∧
    (∀ name ∈ versionNames, name ∉ architectureNames ∧ name ∉ featureNames) ∧
      ∀ name ∈ architectureNames, name ∉ featureNames := by
  decide

theorem floatingPointName_mem : floatingPointName ∈ featureNames := by
  decide

/-- The names of the language version have rules. -/
theorem languageDefaults_subset : Release.languageDefaults.map Macro.name ⊆ featureNames := by
  decide

/-- The names of the two lowest layers stand in no other one. -/
theorem lowest_apart {name : Text} (hname : name ∈ (baseline ++ system).map Macro.name) :
    name ∉ featureNames ∧ name ∉ floatingPointName :: architectureNames ∧
      name ∉ versionNames ++ Release.languageDefaults.map Macro.name := by
  obtain ⟨hversion, harchitecture, hfeatures⟩ := layers_apart.1 name hname
  have hother : name ≠ floatingPointName := fun h => hfeatures (h ▸ floatingPointName_mem)
  refine ⟨hfeatures, List.not_mem_cons_of_ne_of_not_mem hother harchitecture, fun hmem => ?_⟩
  rcases List.mem_append.mp hmem with hmem | hmem
  · exact hversion hmem
  · exact hfeatures (languageDefaults_subset hmem)

/-- The names of the version stand in no other layer. -/
theorem versionNames_apart {name : Text} (hname : name ∈ versionNames) :
    name ∉ featureNames ∧ name ∉ floatingPointName :: architectureNames ∧
      name ∉ (baseline ++ system).map Macro.name := by
  obtain ⟨harchitecture, hfeatures⟩ := layers_apart.2.1 name hname
  have hother : name ≠ floatingPointName := fun h => hfeatures (h ▸ floatingPointName_mem)
  exact ⟨hfeatures, List.not_mem_cons_of_ne_of_not_mem hother harchitecture,
    fun hlowest => (layers_apart.1 name hlowest).1 hname⟩

/-- The names of the architecture stand in no other layer. -/
theorem architectureNames_apart {name : Text} (hname : name ∈ architectureNames) :
    name ∉ featureNames ∧ name ∉ versionNames ++ Release.languageDefaults.map Macro.name ∧
      name ∉ (baseline ++ system).map Macro.name := by
  have hfeatures := layers_apart.2.2 name hname
  refine ⟨hfeatures, fun hmem => ?_, fun hlowest => (layers_apart.1 name hlowest).2.1 hname⟩
  rcases List.mem_append.mp hmem with hmem | hmem
  · exact (layers_apart.2.1 name hmem).1 hname
  · exact hfeatures (languageDefaults_subset hmem)

/-- The names of the rules stand in no lower layer, up to the language version
and the floating point instructions. -/
theorem featureNames_apart {name : Text} (hname : name ∈ featureNames) :
    name ∉ architectureNames ∧ name ∉ versionNames ∧
      name ∉ (baseline ++ system).map Macro.name :=
  ⟨fun harchitecture => layers_apart.2.2 name harchitecture hname,
    fun hversion => (layers_apart.2.1 name hversion).2 hname,
    fun hlowest => (layers_apart.1 name hlowest).2.2 hname⟩

/-- The rules for one architecture are those of floating point. -/
theorem only_eq_none : ∀ rule ∈ featureRules, rule.only ≠ none →
    ∀ m ∈ rule.macros, m.name = floatingPointName := by
  decide

/-- A release tells its version, and some releases tell the language. -/
theorem release_macros : ∀ r ∈ Release.all,
    (r.macros.take 3).map Macro.name = versionNames ∧
      r.macros.drop 3 =
        if [141, 142, 143].contains r.toolset then Release.languageDefaults else [] := by
  decide

/-- An architecture has no names but those, and the floating point instructions. -/
theorem names_ofArchitecture (a : Architecture) :
    (ofArchitecture a).map Macro.name ⊆ floatingPointName :: architectureNames := by
  cases a <;> decide

end Tables

section Rules

variable {name : Text}

/-- A rule that lists a name has a last macro of it. -/
theorem exists_last?_of_lists {rule : FeatureRule} (h : rule.lists name) :
    ∃ m ∈ rule.macros, m.name = name ∧ last? name rule.macros = some m := by
  obtain ⟨m, hm, hname⟩ := List.any_eq_true.mp h
  exact exists_last? (List.mem_map.mpr ⟨m, hm, by simpa using hname⟩)

theorem last?_of_not_lists {rule : FeatureRule} (h : ¬ rule.lists name) :
    last? name rule.macros = none := by
  refine last?_eq_none_iff.mpr fun hname => h ?_
  obtain ⟨m, hm, hname⟩ := List.mem_map.mp hname
  exact List.any_eq_true.mpr ⟨m, hm, by simpa using hname⟩

/-- **The last rule decides** of those that apply and list the name. -/
theorem last?_flatMap_filter (applies : FeatureRule → Bool) (rules : List FeatureRule) :
    last? name ((rules.filter applies).flatMap FeatureRule.macros) =
      (rules.reverse.find? fun rule => rule.lists name && applies rule).bind fun rule =>
        last? name rule.macros := by
  induction rules using List.reverseRecOn with
  | nil => rfl
  | append_singleton rest rule ih =>
      rw [List.filter_append, List.flatMap_append, last?_append, ih, List.reverse_append,
        List.reverse_singleton, List.singleton_append, List.find?_cons]
      by_cases happlies : applies rule
      · by_cases hlists : rule.lists name
        · obtain ⟨m, -, -, hlast⟩ := exists_last?_of_lists hlists
          simp [happlies, hlists, hlast]
        · simp [happlies, hlists, last?_of_not_lists hlists]
      · have hnone : last? name [] = none := rfl
        simp [happlies, hnone]

/-- In the topmost layer the last rule that applies and lists the name decides. -/
theorem last?_ofFeatures (p : Profile) :
    last? name (ofFeatures p) =
      (featureRules.reverse.find? fun rule => rule.lists name && rule.applies p).bind fun rule =>
        last? name rule.macros :=
  last?_flatMap_filter _ _

/-- Only the rules of floating point ask for the architecture. -/
theorem last?_ofFeatures_eq_lastRule? (p : Profile) (hname : name ≠ floatingPointName) :
    last? name (ofFeatures p) = (lastRule? p name).bind fun rule => last? name rule.macros := by
  have hsame : ∀ rule ∈ featureRules.reverse,
      (rule.lists name && rule.applies p) = (rule.lists name && rule.needs.all p.features.has) := by
    intro rule hrule
    by_cases hlists : rule.lists name
    · have honly : rule.only = none := by
        by_contra hsome
        obtain ⟨m, hm, hmname, -⟩ := exists_last?_of_lists hlists
        exact hname (hmname ▸ only_eq_none rule (List.mem_reverse.mp hrule) hsome m hm)
      simp [hlists, FeatureRule.applies, honly]
    · simp [hlists]
  rw [last?_ofFeatures, lastRule?, ← List.head?_filter, ← List.head?_filter,
    List.filter_congr hsame]

/-- The names of the topmost layer are those of the rules. -/
theorem names_ofFeatures (p : Profile) : (ofFeatures p).map Macro.name ⊆ featureNames := by
  intro name hname
  obtain ⟨m, hm, rfl⟩ := List.mem_map.mp hname
  obtain ⟨rule, hrule, hm⟩ := List.mem_flatMap.mp hm
  exact List.mem_flatMap.mpr ⟨rule, List.mem_of_mem_filter hrule, List.mem_map_of_mem hm⟩

/-- The topmost layer tells nothing of other names. -/
theorem last?_ofFeatures_eq_none (p : Profile) (h : name ∉ featureNames) :
    last? name (ofFeatures p) = none :=
  last?_eq_none_iff.mpr fun hname => h (names_ofFeatures p hname)

/-- The layer of the architecture tells nothing of other names. -/
theorem last?_ofArchitecture_eq_none (a : Architecture)
    (h : name ∉ floatingPointName :: architectureNames) : last? name (ofArchitecture a) = none :=
  last?_eq_none_iff.mpr fun hname => h (names_ofArchitecture a hname)

end Rules

section Versions

variable {name : Text}

/-- The release of a profile, if its version is the one of a release. -/
def release? (version : Option ToolsetVersion) : Option Release :=
  version.bind fun v => Release.ofToolset? v.number

/-- The layer of the version is the one of its release. -/
theorem ofVersion_eq (version : Option ToolsetVersion) :
    ofVersion version = ((release? version).map Release.macros).getD [] := by
  cases version with
  | none => rfl
  | some v =>
      rw [ofVersion, release?, Option.bind_some]
      cases Release.ofToolset? v.number <;> rfl

/-- The release of a version is in the table, under the number of the version. -/
theorem mem_all_of_release? {version : Option ToolsetVersion} {r : Release}
    (h : release? version = some r) :
    r ∈ Release.all ∧ version = some ⟨r.toolset⟩ := by
  obtain ⟨⟨n⟩, rfl, hfound⟩ := Option.bind_eq_some_iff.mp h
  have hmem : r ∈ Release.all := List.mem_of_find?_eq_some hfound
  have htoolset : r.toolset = n := by simpa using List.find?_some hfound
  exact ⟨hmem, by rw [htoolset]⟩

/-- A version that is no release tells no language. -/
theorem hasLanguageDefaults_of_release?_eq_none {version : Option ToolsetVersion}
    (h : release? version = none) : hasLanguageDefaults version = false := by
  cases version with
  | none => rfl
  | some v =>
      by_cases hdefaults : hasLanguageDefaults (some v)
      · have hnumber : v.number = 141 ∨ v.number = 142 ∨ v.number = 143 := by
          simpa [hasLanguageDefaults] using hdefaults
        rw [release?, Option.bind_some] at h
        rcases hnumber with hnumber | hnumber | hnumber
        all_goals
          rw [hnumber] at h
          cases h
      · simpa using hdefaults

/-- Beside its version, a release tells the language at most. -/
theorem last?_ofVersion_of_notMem (version : Option ToolsetVersion) (h : name ∉ versionNames) :
    last? name (ofVersion version) =
      if hasLanguageDefaults version then last? name Release.languageDefaults else none := by
  rw [ofVersion_eq]
  cases hrelease : release? version with
  | none =>
      rw [hasLanguageDefaults_of_release?_eq_none hrelease]
      rfl
  | some r =>
      obtain ⟨hmem, rfl⟩ := mem_all_of_release? hrelease
      obtain ⟨hversion, hlanguage⟩ := release_macros r hmem
      have hnone : last? name (r.macros.take 3) = none := by
        refine last?_eq_none_iff.mpr ?_
        rwa [hversion]
      have hcut : last? name r.macros = last? name (r.macros.drop 3) := by
        conv_lhs => rw [← List.take_append_drop 3 r.macros]
        rw [last?_append, hnone, Option.or_none]
      show last? name r.macros = if [141, 142, 143].contains r.toolset then _ else _
      rw [hcut, hlanguage]
      split <;> rfl

/-- The layer of the version tells nothing of other names. -/
theorem last?_ofVersion_eq_none (version : Option ToolsetVersion)
    (h : name ∉ versionNames ++ Release.languageDefaults.map Macro.name) :
    last? name (ofVersion version) = none := by
  obtain ⟨hversion, hlanguage⟩ := not_or.mp (mt List.mem_append.mpr h)
  rw [last?_ofVersion_of_notMem version hversion, last?_eq_none_iff.mpr hlanguage, ite_self]

end Versions

/-- What the two lowest layers define, every profile defines. -/
theorem get?_of_mem_lowest (p : Profile) {m : Macro} (hm : m ∈ baseline ++ system) :
    p.predefined.get? m.name = some m := by
  have hname : m.name ∈ (baseline ++ system).map Macro.name := List.mem_map_of_mem hm
  obtain ⟨hfeatures, harchitecture, hversion⟩ := lowest_apart hname
  have hself : ∀ m ∈ baseline ++ system, last? m.name (baseline ++ system) = some m := by
    decide
  rw [get?_predefined, last?_ofFeatures_eq_none p hfeatures,
    last?_ofArchitecture_eq_none _ harchitecture, last?_ofVersion_eq_none _ hversion,
    hself m hm]
  rfl

/-- The names of the version are read from the release. -/
theorem get?_of_mem_versionNames (p : Profile) {name : Text} (hname : name ∈ versionNames) :
    p.predefined.get? name = last? name (ofVersion p.version) := by
  obtain ⟨hfeatures, harchitecture, hlowest⟩ := versionNames_apart hname
  rw [get?_predefined, last?_ofFeatures_eq_none p hfeatures,
    last?_ofArchitecture_eq_none _ harchitecture, last?_eq_none_iff.mpr hlowest]
  exact Option.or_none

/-- The names of the architecture are read from it. -/
theorem get?_of_mem_architectureNames (p : Profile) {name : Text}
    (hname : name ∈ architectureNames) :
    p.predefined.get? name = last? name (ofArchitecture p.architecture) := by
  obtain ⟨hfeatures, hversion, hlowest⟩ := architectureNames_apart hname
  rw [get?_predefined, last?_ofFeatures_eq_none p hfeatures, last?_ofVersion_eq_none _ hversion,
    last?_eq_none_iff.mpr hlowest]
  exact Option.or_none

/-- A rule for x86 needs the architecture and its feature. -/
theorem applies_x86 (p : Profile) (f : Feature) (macros : List Macro) :
    FeatureRule.applies ⟨[f], some .x86, macros⟩ p =
      (decide (p.architecture = .x86) && p.features.has f) := by
  have harchitecture : (Architecture.x86 == p.architecture) = decide (p.architecture = .x86) := by
    cases p.architecture <;> rfl
  simp [FeatureRule.applies, harchitecture]

/-- Without features x86 has the instructions of SSE2. -/
theorem last?_ofArchitecture_floatingPointName (a : Architecture) :
    last? floatingPointName (ofArchitecture a) =
      if a = .x86 then some ⟨floatingPointName, some ['2']⟩ else none := by
  cases a <;> decide

/-- Two rules list the name of floating point; they apply on x86 only, and the
later one wins. -/
theorem last?_ofFeatures_floatingPointName (p : Profile) :
    last? floatingPointName (ofFeatures p) =
      if p.architecture = .x86 then
        if p.features.has .fpSse then some ⟨floatingPointName, some ['1']⟩
        else if p.features.has .fpIa32 then some ⟨floatingPointName, some ['0']⟩ else none
      else none := by
  have hlisting : featureRules.reverse.filter (fun rule => rule.lists floatingPointName) =
      [⟨[.fpSse], some .x86, [⟨floatingPointName, some ['1']⟩]⟩,
        ⟨[.fpIa32], some .x86, [⟨floatingPointName, some ['0']⟩]⟩] := rfl
  have hfind : (featureRules.reverse.find? fun rule =>
        rule.lists floatingPointName && rule.applies p) =
      (featureRules.reverse.filter fun rule => rule.lists floatingPointName).find? fun rule =>
        rule.applies p := by
    simp only [List.find?_filter, Bool.decide_and, Bool.decide_eq_true]
  have hself : ∀ value, last? floatingPointName [⟨floatingPointName, value⟩] =
      some ⟨floatingPointName, value⟩ := fun value => by simp [last?]
  rw [last?_ofFeatures, hfind, hlisting, List.find?_cons, List.find?_cons, applies_x86, applies_x86]
  by_cases harchitecture : p.architecture = .x86
  · by_cases hsse : p.features.has .fpSse
    · simp [harchitecture, hsse, hself]
    · by_cases hia32 : p.features.has .fpIa32 <;> simp [harchitecture, hsse, hia32, hself]
  · simp [harchitecture]

/-- **The floating point instructions** are told on x86 only, and SSE goes before none.
-/
theorem get?_floatingPointName (p : Profile) :
    p.predefined.get? floatingPointName =
      if p.architecture = .x86 then
        some ⟨floatingPointName, some (if p.features.has .fpSse then ['1']
          else if p.features.has .fpIa32 then ['0'] else ['2'])⟩
      else none := by
  obtain ⟨-, hversion, hlowest⟩ := featureNames_apart floatingPointName_mem
  have hlanguage : floatingPointName ∉ Release.languageDefaults.map Macro.name := by decide
  rw [get?_predefined, last?_ofFeatures_floatingPointName, last?_ofArchitecture_floatingPointName,
    last?_ofVersion_eq_none _ (by simp [hversion, hlanguage]), last?_eq_none_iff.mpr hlowest]
  by_cases harchitecture : p.architecture = .x86
  · simp only [harchitecture, if_true]
    split
    · rfl
    · split <;> rfl
  · simp only [harchitecture, if_false]
    rfl

/-- The language version that a release tells. -/
theorem last?_languageDefaults (name : Text) :
    last? name Release.languageDefaults =
      if name = "__cplusplus".toList then some (.ofStrings "__cplusplus" "199711L")
      else if name = "_MSVC_LANG".toList then some (.ofStrings "_MSVC_LANG" "201402L")
      else none := by
  by_cases hcplusplus : name = "__cplusplus".toList
  · subst hcplusplus
    decide
  · by_cases hlang : name = "_MSVC_LANG".toList
    · subst hlang
      decide
    · rw [if_neg hcplusplus, if_neg hlang]
      refine last?_eq_none_iff.mpr ?_
      have hnames : Release.languageDefaults.map Macro.name =
        ["__cplusplus".toList, "_MSVC_LANG".toList] := rfl
      rw [hnames]
      simp only [List.mem_cons, List.not_mem_nil, or_false, not_or]
      exact ⟨hcplusplus, hlang⟩

/-- Of a name that a rule lists, the last rule says more than the release. -/
theorem get?_of_mem_featureNames (p : Profile) {name : Text} (hname : name ∈ featureNames)
    (hother : name ≠ floatingPointName) :
    p.predefined.get? name =
      ((lastRule? p name).bind fun rule => last? name rule.macros).or
        (if hasLanguageDefaults p.version then last? name Release.languageDefaults else none) := by
  obtain ⟨harchitecture, hversion, hlowest⟩ := featureNames_apart hname
  have hnone : last? name (ofArchitecture p.architecture) = none :=
    last?_ofArchitecture_eq_none _ (List.not_mem_cons_of_ne_of_not_mem hother harchitecture)
  rw [get?_predefined, last?_ofFeatures_eq_lastRule? p hother, hnone, Option.none_or,
    last?_ofVersion_of_notMem _ hversion, last?_eq_none_iff.mpr hlowest, Option.or_none]

/-- **No other name occurs** than those of the layers. -/
theorem names_predefined_subset (p : Profile) :
    p.predefined.names ⊆ (baseline ++ system).map Macro.name ++ versionNames ++
      floatingPointName :: architectureNames ++ featureNames := by
  intro name hname
  obtain ⟨m, hm⟩ : ∃ m, p.predefined.get? name = some m := by
    have hsome : (p.predefined.get? name).isSome := by
      obtain ⟨m, hm, hmname⟩ := List.mem_map.mp hname
      exact List.find?_isSome.mpr ⟨m, hm, by simpa using hmname⟩
    exact Option.isSome_iff_exists.mp hsome
  by_contra houtside
  simp only [List.mem_append, not_or] at houtside
  obtain ⟨⟨⟨hlowest, hversion⟩, harchitecture⟩, hfeatures⟩ := houtside
  have hnone : last? name (ofVersion p.version) = none := by
    refine last?_ofVersion_eq_none _ fun hmem => ?_
    rcases List.mem_append.mp hmem with hmem | hmem
    · exact hversion hmem
    · exact hfeatures (languageDefaults_subset hmem)
  rw [get?_predefined, last?_ofFeatures_eq_none p hfeatures,
    last?_ofArchitecture_eq_none _ harchitecture, hnone, last?_eq_none_iff.mpr hlowest] at hm
  cases hm

end Predefined

end BuildEnv
