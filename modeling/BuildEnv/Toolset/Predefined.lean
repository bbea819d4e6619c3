import BuildEnv.Settings.MacroTable
import BuildEnv.Toolset.Profile

/-!
# Predefined macros

The macros that the compiler defines on its own, computed from a profile
without running the compiler.  They come in layers, each of which may
override the values of the ones before:

1. the baseline, which every profile has;
2. `_WIN32`, since the compiler targets no other system;
3. the macros of the release;
4. the macros of the architecture;
5. the macros of the features, by the rules of `featureRules`.

All the layers are tables.
-/

namespace BuildEnv

namespace Predefined

/-- Macros that depend on the time and place of the build.  Their values
cannot be known from a log, but the names have to exist. -/
def baseline : List Macro :=
  [.ofStrings "_INTEGRAL_MAX_BITS" "64",
    .ofStrings "_MSC_BUILD" "1",
    .ofStrings "__COUNTER__" "0",
    .ofStrings "__DATE__" "\"??? ?? ????\"",
    .ofStrings "__FILE__" "\"file\"",
    .ofStrings "__LINE__" "1",
    .ofStrings "__TIME__" "\"??:??:??\"",
    .ofStrings "__TIMESTAMP__" "\"??? ?? ???? ??:??:??\""]

/-- The macros of the target system. -/
def system : List Macro :=
  [.flag "_WIN32"]

/-- The macros of the release, none for an unknown one. -/
def ofVersion : Option ToolsetVersion → List Macro
  | none => []
  | some v => match Release.ofToolset? v.number with
    | none => []
    | some release => release.macros

/-- The macros of the architecture. -/
def ofArchitecture : Architecture → List Macro
  | .x86 => [.ofStrings "_M_IX86" "600", .ofStrings "_M_IX86_FP" "2"]
  | .x64 => [.flag "_WIN64", .ofStrings "_M_X64" "100", .ofStrings "_M_AMD64" "100"]
  | .arm => [.ofStrings "_M_ARM" "7"]
  | .unspecified => []

/-- Macros that are there when all of some features are, on one architecture
or on all. -/
structure FeatureRule where
  needs : List Feature
  only : Option Architecture
  macros : List Macro

/-- The rules of the features, in the order in which they apply. -/
def featureRules : List FeatureRule :=
  [⟨[.openMp], none, [.ofStrings "_OPENMP" "200203"]⟩,
    ⟨[.winRt], none, [.ofStrings "__cplusplus_winrt" "201009"]⟩,
    ⟨[.clr], none,
      [.ofStrings "__cplusplus_cli" "200406", .ofStrings "_MANAGED" "1", .ofStrings "_M_CEE" "001"]⟩,
    ⟨[.clrPure], none, [.ofStrings "_M_CEE_PURE" "001"]⟩,
    ⟨[.clrSafe], none, [.ofStrings "_M_CEE_SAFE" "001"]⟩,
    ⟨[.exceptions], none, [.flag "_CPPUNWIND"]⟩,
    ⟨[.rtti], none, [.flag "_CPPRTTI"]⟩,
    ⟨[.multithreadedRuntime], none, [.flag "_MT"]⟩,
    ⟨[.dynamicRuntime], none, [.flag "_DLL"]⟩,
    ⟨[.debugRuntime], none, [.flag "_DEBUG"]⟩,
    ⟨[.noDefaultLib], none, [.flag "_VC_NODEFAULTLIB"]⟩,
    ⟨[.nativeWcharT], none,
      [.ofStrings "_WCHAR_T_DEFINED" "1", .ofStrings "_NATIVE_WCHAR_T_DEFINED" "1"]⟩,
    ⟨[.unsignedChar], none, [.ofStrings "_CHAR_UNSIGNED" "1"]⟩,
    ⟨[.wp64], none, [.flag "_Wp64"]⟩,
    ⟨[.runtimeChecks], none, [.flag "__MSVC_RUNTIME_CHECKS"]⟩,
    ⟨[.avx], none, [.ofStrings "__AVX__" "1"]⟩,
    ⟨[.avx2], none, [.ofStrings "__AVX__" "1", .ofStrings "__AVX2__" "1"]⟩,
    ⟨[.avx512], none,
      [.ofStrings "__AVX__" "1", .ofStrings "__AVX2__" "1", .ofStrings "__AVX512F__" "1",
        .ofStrings "__AVX512CD__" "1", .ofStrings "__AVX512BW__" "1", .ofStrings "__AVX512DQ__" "1",
        .ofStrings "__AVX512VL__" "1"]⟩,
    ⟨[.armFp], none, [.flag "_M_ARM_FP"]⟩,
    ⟨[.fpIa32], some .x86, [.ofStrings "_M_IX86_FP" "0"]⟩,
    ⟨[.fpSse], some .x86, [.ofStrings "_M_IX86_FP" "1"]⟩,
    ⟨[.cpp14], none, [.ofStrings "_MSVC_LANG" "201402L"]⟩,
    ⟨[.cpp17], none, [.ofStrings "_MSVC_LANG" "201703L"]⟩,
    ⟨[.cpp20], none, [.ofStrings "_MSVC_LANG" "202002L"]⟩,
    ⟨[.cppLatest], none, [.ofStrings "_MSVC_LANG" "202004L"]⟩,
    ⟨[.conformantCplusplus], none, [.ofStrings "__cplusplus" "201402L"]⟩,
    ⟨[.conformantCplusplus, .cpp17], none, [.ofStrings "__cplusplus" "201703L"]⟩,
    ⟨[.conformantCplusplus, .cpp20], none, [.ofStrings "__cplusplus" "202002L"]⟩,
    ⟨[.conformantCplusplus, .cppLatest], none, [.ofStrings "__cplusplus" "202004L"]⟩]

/-- Whether a rule applies to a profile. -/
def FeatureRule.applies (rule : FeatureRule) (p : Profile) : Bool :=
  (match rule.only with
    | none => true
    | some a => a == p.architecture) && rule.needs.all p.features.has

/-- The macros of the rules that apply, in the order of the rules. -/
def ofFeatures (p : Profile) : List Macro :=
  (featureRules.filter fun rule => rule.applies p).flatMap FeatureRule.macros

/-- All the layers, one after the other. -/
def layers (p : Profile) : List Macro :=
  baseline ++ system ++ ofVersion p.version ++ ofArchitecture p.architecture ++ ofFeatures p

end Predefined

/-- The macros that the compiler predefines for a profile. -/
def Profile.predefined (p : Profile) : MacroTable :=
  .ofList (Predefined.layers p)

end BuildEnv
