import BuildEnv.Proofs.Toolset.Layers

/-!
# What a profile defines, name by name

The catalog is written down here a second time, by its names instead of its
layers.  Nine macros are everywhere; three tell the version of the release; five
stand for the architecture, and `_M_IX86_FP` for the floating point
instructions; all others stand for features.  Of each of these the table
`featureRows` lists the alternatives, those that override the others first.

* `Predefined.layered`: every profile defines what the tables say of its names,
  and no other name.
* `Predefined.predefined_layers`: besides, more features take no name away, and
  the full version changes nothing.
-/

namespace BuildEnv

namespace Predefined

/-- What every profile defines. -/
def everywhere : List Macro :=
  [.ofStrings "_INTEGRAL_MAX_BITS" "64",
    .ofStrings "_MSC_BUILD" "1",
    .ofStrings "__COUNTER__" "0",
    .ofStrings "__DATE__" "\"??? ?? ????\"",
    .ofStrings "__FILE__" "\"file\"",
    .ofStrings "__LINE__" "1",
    .ofStrings "__TIME__" "\"??:??:??\"",
    .ofStrings "__TIMESTAMP__" "\"??? ?? ???? ??:??:??\"",
    .flag "_WIN32"]

/-- How the compiler of a release tells its version. -/
structure VersionRow where
  toolset : Nat
  mscVer : String
  mscFullVer : String
  atlVer : String

/-- The releases and their versions. -/
def versionRows : List VersionRow :=
  [⟨100, "1600", "160040219", "0x0A00"⟩,
    ⟨110, "1700", "1700610301", "0x0B00"⟩,
    ⟨120, "1800", "180031101", "0x0C00"⟩,
    ⟨140, "1900", "190024215", "0x0E00"⟩,
    ⟨141, "1910", "191024629", "0x0E00"⟩,
    ⟨142, "1920", "192027508", "0x0E00"⟩,
    ⟨143, "1930", "193030705", "0x0E00"⟩]

/-- The row of the release of a version. -/
def versionRow? (version : Option ToolsetVersion) : Option VersionRow :=
  version.bind fun v => versionRows.find? fun row => row.toolset == v.number

/-- What is defined for one architecture only. -/
def architectureRows : List (Architecture × Macro) :=
  [(.x64, .flag "_WIN64"), (.x64, .ofStrings "_M_X64" "100"), (.x64, .ofStrings "_M_AMD64" "100"),
    (.arm, .ofStrings "_M_ARM" "7"), (.x86, .ofStrings "_M_IX86" "600")]

/-- A name that stands for features, with the features that each of its values
needs.  The first alternative whose features are all there counts. -/
structure FeatureRow where
  name : String
  alternatives : List (List Feature × Option String)

/-- The macro of a row for a profile, if one of its alternatives counts. -/
def FeatureRow.macro? (row : FeatureRow) (p : Profile) : Option Macro :=
  (row.alternatives.find? fun alternative => alternative.1.all p.features.has).map
    fun alternative => ⟨row.name.toList, alternative.2.map String.toList⟩

/-- The names that stand for features. -/
def featureRows : List FeatureRow :=
  [⟨"_OPENMP", [([.openMp], some "200203")]⟩,
    ⟨"__cplusplus_winrt", [([.winRt], some "201009")]⟩,
    ⟨"__cplusplus_cli", [([.clr], some "200406")]⟩,
    ⟨"_MANAGED", [([.clr], some "1")]⟩,
    ⟨"_M_CEE", [([.clr], some "001")]⟩,
    ⟨"_M_CEE_PURE", [([.clrPure], some "001")]⟩,
    ⟨"_M_CEE_SAFE", [([.clrSafe], some "001")]⟩,
    ⟨"_CPPUNWIND", [([.exceptions], none)]⟩,
    ⟨"_CPPRTTI", [([.rtti], none)]⟩,
    ⟨"_MT", [([.multithreadedRuntime], none)]⟩,
    ⟨"_DLL", [([.dynamicRuntime], none)]⟩,
    ⟨"_DEBUG", [([.debugRuntime], none)]⟩,
    ⟨"_VC_NODEFAULTLIB", [([.noDefaultLib], none)]⟩,
    ⟨"_WCHAR_T_DEFINED", [([.nativeWcharT], some "1")]⟩,
    ⟨"_NATIVE_WCHAR_T_DEFINED", [([.nativeWcharT], some "1")]⟩,
    ⟨"_CHAR_UNSIGNED", [([.unsignedChar], some "1")]⟩,
    ⟨"_Wp64", [([.wp64], none)]⟩,
    ⟨"__MSVC_RUNTIME_CHECKS", [([.runtimeChecks], none)]⟩,
    ⟨"__AVX__", [([.avx512], some "1"), ([.avx2], some "1"), ([.avx], some "1")]⟩,
    ⟨"__AVX2__", [([.avx512], some "1"), ([.avx2], some "1")]⟩,
    ⟨"__AVX512F__", [([.avx512], some "1")]⟩,
    ⟨"__AVX512CD__", [([.avx512], some "1")]⟩,
    ⟨"__AVX512BW__", [([.avx512], some "1")]⟩,
    ⟨"__AVX512DQ__", [([.avx512], some "1")]⟩,
    ⟨"__AVX512VL__", [([.avx512], some "1")]⟩,
    ⟨"_M_ARM_FP", [([.armFp], none)]⟩,
    ⟨"_MSVC_LANG", [([.cppLatest], some "202004L"), ([.cpp20], some "202002L"),
      ([.cpp17], some "201703L"), ([.cpp14], some "201402L")]⟩,
    ⟨"__cplusplus", [([.conformantCplusplus, .cppLatest], some "202004L"),
      ([.conformantCplusplus, .cpp20], some "202002L"),
      ([.conformantCplusplus, .cpp17], some "201703L"),
      ([.conformantCplusplus], some "201402L")]⟩]

/-- The language version of the compilers that tell one without being told it. -/
def languageDefault? (version : Option ToolsetVersion) (name : String) : Option Macro :=
  if version ∈ [some ⟨141⟩, some ⟨142⟩, some ⟨143⟩] then
    if name = "__cplusplus" then some (.ofStrings "__cplusplus" "199711L")
    else if name = "_MSVC_LANG" then some (.ofStrings "_MSVC_LANG" "201402L")
    else none
  else none

/-- All names of the catalog. -/
def catalogNames : List Text :=
  everywhere.map Macro.name ++
    ["_MSC_VER".toList, "_MSC_FULL_VER".toList, "_ATL_VER".toList] ++
    architectureRows.map (fun row => row.2.name) ++ ["_M_IX86_FP".toList] ++
    featureRows.map fun row => row.name.toList

/-- What a profile defines, name by name. -/
structure Layered (p : Profile) : Prop where
  names_nodup : p.predefined.names.Nodup
  lowest : ∀ m ∈ everywhere, p.predefined.get? m.name = some m
  /-- The version is told by the row of its release, and by no other. -/
  mscVer : p.predefined.get? "_MSC_VER".toList =
    (versionRow? p.version).map fun row => .ofStrings "_MSC_VER" row.mscVer
  mscFullVer : p.predefined.get? "_MSC_FULL_VER".toList =
    (versionRow? p.version).map fun row => .ofStrings "_MSC_FULL_VER" row.mscFullVer
  atlVer : p.predefined.get? "_ATL_VER".toList =
    (versionRow? p.version).map fun row => .ofStrings "_ATL_VER" row.atlVer
  architecture : ∀ row ∈ architectureRows,
    p.predefined.get? row.2.name = if p.architecture = row.1 then some row.2 else none
  floatingPoint : p.predefined.get? "_M_IX86_FP".toList =
    if p.architecture = .x86 then
      some (.ofStrings "_M_IX86_FP" (if p.features.has .fpSse then "1"
        else if p.features.has .fpIa32 then "0" else "2"))
    else none
  /-- The features decide, or else the language version of the release. -/
  feature : ∀ row ∈ featureRows,
    p.predefined.get? row.name.toList = (row.macro? p).or (languageDefault? p.version row.name)
  /-- The value is the one of the last rule that lists the name and whose features
  are all there. -/
  rule : ∀ name ∈ featureNames, name ≠ "_M_IX86_FP".toList → ∀ rule, lastRule? p name = some rule →
    ∃ m ∈ rule.macros, m.name = name ∧ p.predefined.get? name = some m
  /-- No other name occurs. -/
  names_subset : p.predefined.names ⊆ catalogNames

section Tables

/-- What stands everywhere is in the two lowest layers. -/
theorem everywhere_subset : everywhere ⊆ baseline ++ system := by
  decide

/-- A column of `versionRows` decides about its name if the releases agree with it. -/
theorem last?_ofVersion_eq_column (name : String) (column : VersionRow → String)
    (hrows : (Release.all.map fun r => (r.toolset, last? name.toList r.macros)) =
      versionRows.map fun row => (row.toolset, some (.ofStrings name (column row))))
    (version : Option ToolsetVersion) :
    last? name.toList (ofVersion version) =
      (versionRow? version).map fun row => .ofStrings name (column row) := by
  cases version with
  | none => rfl
  | some v =>
      have hfind := congrArg (List.find? fun row => row.1 == v.number) hrows
      rw [List.find?_map, List.find?_map] at hfind
      have hmacro := congrArg (Option.bind · Prod.snd) hfind
      simp only [Option.bind_map, Function.comp_def] at hmacro
      calc last? name.toList (ofVersion (some v))
          = (Release.ofToolset? v.number).bind fun r => last? name.toList r.macros := by
            rw [ofVersion_eq, release?, Option.bind_some]
            cases Release.ofToolset? v.number <;> rfl
        _ = (versionRow? (some v)).bind fun row => some (.ofStrings name (column row)) := hmacro
        _ = (versionRow? (some v)).map fun row => .ofStrings name (column row) :=
            Option.map_eq_bind.symm

/-- The macros of an architecture, each for this architecture only. -/
theorem last?_ofArchitecture (a : Architecture) : ∀ row ∈ architectureRows,
    row.2.name ∈ architectureNames ∧
      last? row.2.name (ofArchitecture a) = if a = row.1 then some row.2 else none := by
  cases a <;> decide

/-- A row of `featureRows` lists its alternatives as the rules do, the last one
first. -/
theorem rules_eq_alternatives : ∀ row ∈ featureRows,
    row.name.toList ∈ featureNames ∧ row.name.toList ≠ floatingPointName ∧
      ((featureRules.reverse.filter fun rule => rule.lists row.name.toList).map fun rule =>
          (rule.needs, last? row.name.toList rule.macros)) =
        row.alternatives.map fun alternative =>
          (alternative.1, some ⟨row.name.toList, alternative.2.map String.toList⟩) := by
  decide +kernel

/-- The names of the layers are those of the tables. -/
theorem layerNames_subset :
    (baseline ++ system).map Macro.name ++ versionNames ++
      floatingPointName :: architectureNames ++ featureNames ⊆ catalogNames := by
  decide +kernel

end Tables

/-- What the last rule says is the first alternative that counts. -/
theorem FeatureRow.macro?_eq {row : FeatureRow} (hrow : row ∈ featureRows) (p : Profile) :
    row.macro? p = (lastRule? p row.name.toList).bind fun rule =>
      last? row.name.toList rule.macros := by
  obtain ⟨-, -, hrules⟩ := rules_eq_alternatives row hrow
  have hfind := congrArg (List.find? fun alternative => alternative.1.all p.features.has) hrules
  rw [List.find?_map, List.find?_map, List.find?_filter] at hfind
  have hmacro := congrArg (Option.bind · Prod.snd) hfind
  simp only [Option.bind_map, Function.comp_def, Bool.decide_and, Bool.decide_eq_true] at hmacro
  rw [FeatureRow.macro?, lastRule?, hmacro, Option.map_eq_bind]
  rfl

/-- The releases of `languageDefault?` are those that tell the language. -/
theorem languageDefault?_eq (version : Option ToolsetVersion) (name : String) :
    languageDefault? version name =
      if hasLanguageDefaults version then last? name.toList Release.languageDefaults else none := by
  have hversion : version ∈ [some ⟨141⟩, some ⟨142⟩, some ⟨143⟩] ↔
      hasLanguageDefaults version := by
    cases version with
    | none => simp [hasLanguageDefaults]
    | some v =>
        obtain ⟨n⟩ := v
        simp [hasLanguageDefaults]
  simp only [languageDefault?, hversion, last?_languageDefaults, String.toList_inj]

/-- The tables say what every profile defines. -/
theorem layered (p : Profile) : Layered p where
  names_nodup := (MacroTable.Built.ofList _).nodup
  lowest m hm := get?_of_mem_lowest p (everywhere_subset hm)
  mscVer := by
    rw [get?_of_mem_versionNames p (by decide)]
    exact last?_ofVersion_eq_column "_MSC_VER" VersionRow.mscVer (by decide) p.version
  mscFullVer := by
    rw [get?_of_mem_versionNames p (by decide)]
    exact last?_ofVersion_eq_column "_MSC_FULL_VER" VersionRow.mscFullVer (by decide) p.version
  atlVer := by
    rw [get?_of_mem_versionNames p (by decide)]
    exact last?_ofVersion_eq_column "_ATL_VER" VersionRow.atlVer (by decide) p.version
  architecture row hrow := by
    obtain ⟨hname, hlast⟩ := last?_ofArchitecture p.architecture row hrow
    rw [get?_of_mem_architectureNames p hname, hlast]
  floatingPoint := by
    refine (get?_floatingPointName p).trans ?_
    split
    · split
      · rfl
      · split <;> rfl
    · rfl
  feature row hrow := by
    obtain ⟨hname, hother, -⟩ := rules_eq_alternatives row hrow
    rw [get?_of_mem_featureNames p hname hother, FeatureRow.macro?_eq hrow, languageDefault?_eq]
  rule name hname hother rule hrule := by
    have hfound := List.find?_some hrule
    have hlists : rule.lists name := (Bool.and_eq_true_iff.mp hfound).1
    obtain ⟨m, hm, hmname, hlast⟩ := exists_last?_of_lists hlists
    refine ⟨m, hm, hmname, ?_⟩
    rw [get?_of_mem_featureNames p hname hother, hrule, Option.bind_some, hlast, Option.some_or]
  names_subset := List.Subset.trans (names_predefined_subset p) layerNames_subset

/-- More features leave every rule in force. -/
theorem applies_insertAll {p : Profile} {rule : FeatureRule} (h : rule.applies p)
    (more : List Feature) :
    rule.applies { p with features := p.features.insertAll more } := by
  obtain ⟨harchitecture, hneeds⟩ := Bool.and_eq_true_iff.mp h
  refine Bool.and_eq_true_iff.mpr ⟨harchitecture, List.all_eq_true.mpr fun f hf => ?_⟩
  have hhas : p.features.has f := List.all_eq_true.mp hneeds f hf
  exact Bool.or_eq_true_iff.mpr (.inr hhas)

/-- More features take no name away. -/
theorem names_predefined_insertAll (p : Profile) (more : List Feature) :
    p.predefined.names ⊆
      ({ p with features := p.features.insertAll more } : Profile).predefined.names := by
  intro name hname
  obtain ⟨m, hm, rfl⟩ := List.mem_map.mp (mem_names_predefined.mp hname)
  refine mem_names_predefined.mpr (List.mem_map_of_mem ?_)
  rcases List.mem_append.mp hm with hm | hm
  · exact List.mem_append_left _ hm
  · refine List.mem_append_right _ ?_
    obtain ⟨rule, hrule, hm⟩ := List.mem_flatMap.mp hm
    obtain ⟨hmem, happlies⟩ := List.mem_filter.mp hrule
    exact List.mem_flatMap.mpr
      ⟨rule, List.mem_filter.mpr ⟨hmem, applies_insertAll happlies more⟩, hm⟩

/-- **What the compiler predefines.**  Every profile defines what its layers say.
More features take no name away, and the full version changes nothing. -/
theorem predefined_layers :
    (∀ p, Layered p) ∧
      (∀ (p : Profile) (more : List Feature), p.predefined.names ⊆
        ({ p with features := p.features.insertAll more } : Profile).predefined.names) ∧
      ∀ (p : Profile) (full : Option Text),
        ({ p with fullVersion := full } : Profile).predefined = p.predefined :=
  ⟨layered, names_predefined_insertAll, fun _ _ => rfl⟩

/-- A compiler of v142 for x64, with two language standards of which the later one
counts. -/
def conformantProfile : Profile where
  version := some ⟨142⟩
  fullVersion := some "19.29.30133".toList
  architecture := .x64
  features := .ofList [.openMp, .fpSse, .conformantCplusplus, .cpp17, .cpp20]

/-- One name of each layer.  The floating point instructions are those of another
architecture, and no feature asks for type information. -/
theorem predefined_layers_conformantProfile :
    conformantProfile.predefined.get? "_WIN32".toList = some (.flag "_WIN32") ∧
      conformantProfile.predefined.get? "_MSC_FULL_VER".toList =
        some (.ofStrings "_MSC_FULL_VER" "192027508") ∧
      conformantProfile.predefined.get? "_WIN64".toList = some (.flag "_WIN64") ∧
      conformantProfile.predefined.get? "_M_IX86_FP".toList = none ∧
      conformantProfile.predefined.get? "__cplusplus".toList =
        some (.ofStrings "__cplusplus" "202002L") ∧
      conformantProfile.predefined.get? "_CPPRTTI".toList = none ∧
      conformantProfile.predefined.names ⊆
        (Profile.predefined { conformantProfile with
          features := conformantProfile.features.insertAll [.rtti] }).names := by
  have hlayered := predefined_layers.1 conformantProfile
  refine ⟨hlayered.lowest (.flag "_WIN32") (by decide), hlayered.mscFullVer.trans (by decide),
    hlayered.architecture (.x64, .flag "_WIN64") (by decide),
    hlayered.floatingPoint, ?_, ?_, predefined_layers.2.1 conformantProfile [.rtti]⟩
  · exact hlayered.feature featureRows[27] (List.getElem_mem _)
  · exact hlayered.feature featureRows[8] (List.getElem_mem _)

end Predefined

end BuildEnv
