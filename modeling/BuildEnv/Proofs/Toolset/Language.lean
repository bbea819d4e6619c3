import BuildEnv.Proofs.Toolset.Layers

/-!
# The language version

Two macros tell the version of the language, `__cplusplus` and `_MSVC_LANG`.
Their values come from different rules.  The rules of each stand in ascending order
of the versions, and the last one that applies decides, so that both macros tell
the highest version of the standards that are there (`foldl_max_filter`).

Without a standard `_MSVC_LANG` may be missing, and then it is the release that
defines it, if any does.  `__cplusplus` is always there if the compiler is told to
set it as the standard asks (`Predefined.tellsLanguage_predefined`).
-/

namespace BuildEnv

namespace Feature

/-- The version by which macros tell a language standard.  Any other feature leaves
the compiler at its default. -/
def languageVersion : Feature → Nat
  | cpp14 => 201402
  | cpp17 => 201703
  | cpp20 => 202002
  | cppLatest => 202004
  | _ => 201402

/-- The highest language version of some features, the default one if they name no
standard. -/
def highestLanguageVersion (features : List Feature) : Nat :=
  (features.map languageVersion).foldl max 201402

/-- The features that name no standard do not count. -/
theorem highestLanguageVersion_filter (features : List Feature) :
    highestLanguageVersion (features.filter languageStandards.contains) =
      highestLanguageVersion features := by
  have hfold : ∀ low, 201402 ≤ low →
      ((features.filter languageStandards.contains).map languageVersion).foldl max low =
        (features.map languageVersion).foldl max low := by
    induction features with
    | nil => exact fun _ _ => rfl
    | cons f rest ih =>
        intro low hlow
        by_cases hf : languageStandards.contains f
        · rw [List.filter_cons_of_pos hf, List.map_cons, List.map_cons, List.foldl_cons,
            List.foldl_cons, ih _ (Nat.le_trans hlow (Nat.le_max_left _ _))]
        · have hdefault : max low f.languageVersion = low := by
            have hversion : f.languageVersion = 201402 := by
              revert hf
              cases f <;> decide
            rw [hversion, Nat.max_eq_left hlow]
          rw [List.filter_cons_of_neg hf, List.map_cons, List.foldl_cons, hdefault, ih low hlow]
  exact hfold 201402 (Nat.le_refl _)

end Feature

/-- **The last of ascending heights is the highest.**  Of the steps that are kept, the
last one tells the maximum. -/
theorem foldl_max_filter {α : Type} (keep : α → Bool) (height : α → Nat) {low : Nat}
    {steps : List α} (hascending : (steps.map height).Pairwise (· ≤ ·))
    (hlow : ∀ step ∈ steps, low ≤ height step) :
    ((steps.filter keep).map height).foldl max low =
      ((steps.reverse.find? keep).map height).getD low := by
  induction steps using List.reverseRecOn with
  | nil => rfl
  | append_singleton steps step ih =>
      rw [List.map_append, List.pairwise_append] at hascending
      obtain ⟨hbefore, -, hstep⟩ := hascending
      have hfound := ih hbefore fun other hother => hlow other (List.mem_append_left _ hother)
      rw [List.filter_append, List.map_append, List.foldl_append, hfound, List.reverse_append,
        List.reverse_singleton, List.singleton_append, List.find?_cons]
      by_cases hkeep : keep step
      · have hle : ((steps.reverse.find? keep).map height).getD low ≤ height step := by
          cases hlast : steps.reverse.find? keep with
          | none => exact hlow step (List.mem_append_right _ (List.mem_singleton_self _))
          | some other =>
              have hother : other ∈ steps := List.mem_reverse.mp (List.mem_of_find?_eq_some hlast)
              exact hstep _ (List.mem_map_of_mem hother) _ (List.mem_singleton_self _)
        simp [hkeep, hle]
      · simp [hkeep]

namespace Predefined

/-- The macro that the language standard defines. -/
def cplusplusName : Text := "__cplusplus".toList

/-- The macro that tells the language version in any case. -/
def msvcLangName : Text := "_MSVC_LANG".toList

/-- How macros tell a language version. -/
def versionLiteral (version : Nat) : Text := Text.ofNat version ++ ['L']

/-- The macros of a table tell one language version: `__cplusplus` is there, and
`_MSVC_LANG` does not contradict it. -/
structure TellsLanguage (t : MacroTable) (version : Nat) : Prop where
  cplusplus : t.get? cplusplusName = some ⟨cplusplusName, some (versionLiteral version)⟩
  msvcLang : ∀ m, t.get? msvcLangName = some m → m.value = some (versionLiteral version)

/-- The rule by which a standard tells its version in a macro, if some other features
are there too. -/
def standardRule (name : Text) (others : List Feature) (f : Feature) : FeatureRule :=
  ⟨others ++ [f], none, [⟨name, some (versionLiteral f.languageVersion)⟩]⟩

section Tables

/-- The rules of `_MSVC_LANG` are those of the standards. -/
theorem listing_msvcLangName : featureRules.filter (fun rule => rule.lists msvcLangName) =
    Feature.languageStandards.map (standardRule msvcLangName []) :=
  rfl

/-- The default version has a rule of its own, which serves the lowest standard too. -/
theorem listing_cplusplusName : featureRules.filter (fun rule => rule.lists cplusplusName) =
    ⟨[.conformantCplusplus], none, [⟨cplusplusName, some (versionLiteral 201402)⟩]⟩ ::
      Feature.languageStandards.tail.map (standardRule cplusplusName [.conformantCplusplus]) :=
  rfl

/-- The standards are listed in the order of their versions, from the default on. -/
theorem languageVersion_ascending :
    (Feature.languageStandards.map Feature.languageVersion).Pairwise (· ≤ ·) ∧
      ∀ f ∈ Feature.languageStandards, 201402 ≤ f.languageVersion := by
  decide

end Tables

variable {p : Profile} {name : Text} {others : List Feature}

/-- The last rule may be sought among those that list the name. -/
theorem lastRule?_eq (p : Profile) (name : Text) :
    lastRule? p name = (featureRules.filter fun rule => rule.lists name).reverse.find? fun rule =>
      rule.needs.all p.features.has := by
  rw [lastRule?, ← List.filter_reverse, List.find?_filter]
  simp only [Bool.decide_and, Bool.decide_eq_true]

/-- Of the rules of some standards, the last one applies whose standard is there. -/
theorem find?_standardRule (hothers : ∀ f ∈ others, p.features.has f) (standards : List Feature) :
    ((standards.map (standardRule name others)).reverse.find? fun rule =>
        rule.needs.all p.features.has) =
      (standards.reverse.find? p.features.has).map (standardRule name others) := by
  have hneeds : ∀ f, (standardRule name others f).needs.all p.features.has = p.features.has f := by
    intro f
    have hall : others.all p.features.has := List.all_eq_true.mpr hothers
    simp [standardRule, hall]
  rw [← List.map_reverse, List.find?_map]
  congr 2
  funext f
  exact hneeds f

/-- The rule of a standard tells its version. -/
theorem last?_macros_standardRule (f : Feature) :
    last? name (standardRule name others f).macros =
      some ⟨name, some (versionLiteral f.languageVersion)⟩ := by
  simp [standardRule, last?]

/-- **The highest standard.** -/
theorem highestLanguageVersion_toList (s : FeatureSet) :
    Feature.highestLanguageVersion s.toList =
      ((Feature.languageStandards.reverse.find? s.has).map
        Feature.languageVersion).getD 201402 := by
  have hstandards : s.toList.filter Feature.languageStandards.contains =
      Feature.languageStandards.filter s.has := by
    rw [FeatureSet.toList, List.filter_comm]
    rfl
  obtain ⟨hascending, hlow⟩ := languageVersion_ascending
  rw [← Feature.highestLanguageVersion_filter, hstandards]
  exact foldl_max_filter s.has Feature.languageVersion hascending hlow

/-- The lowest standard tells what the compiler tells without one. -/
theorem highestLanguageVersion_toList_eq_tail (s : FeatureSet) :
    Feature.highestLanguageVersion s.toList =
      ((Feature.languageStandards.tail.reverse.find? s.has).map
        Feature.languageVersion).getD 201402 := by
  have hsplit : Feature.languageStandards.reverse =
      Feature.languageStandards.tail.reverse ++ [.cpp14] := rfl
  rw [highestLanguageVersion_toList, hsplit, List.find?_append]
  cases Feature.languageStandards.tail.reverse.find? s.has with
  | some f => rfl
  | none => cases hlowest : s.has .cpp14 <;> simp [hlowest, Feature.languageVersion]

/-- `__cplusplus` tells the highest version of the standards, if the compiler is told to
set it. -/
theorem get?_cplusplusName (h : p.features.has .conformantCplusplus) :
    p.predefined.get? cplusplusName =
      some ⟨cplusplusName,
        some (versionLiteral (Feature.highestLanguageVersion p.features.toList))⟩ := by
  have hothers : ∀ f ∈ [Feature.conformantCplusplus], p.features.has f := by
    intro f hf
    rwa [List.mem_singleton.mp hf]
  have hrule := lastRule?_eq p cplusplusName
  rw [listing_cplusplusName, List.reverse_cons, List.find?_append,
    find?_standardRule hothers] at hrule
  rw [get?_of_mem_featureNames p (by decide) (by decide), hrule,
    highestLanguageVersion_toList_eq_tail]
  cases Feature.languageStandards.tail.reverse.find? p.features.has with
  | some f =>
      rw [Option.map_some, Option.some_or, Option.bind_some, last?_macros_standardRule]
      rfl
  | none => simp [h, last?]

/-- `_MSVC_LANG` tells the highest version of the standards, if it is there. -/
theorem value_of_get?_msvcLangName {m : Macro} (hm : p.predefined.get? msvcLangName = some m) :
    m.value = some (versionLiteral (Feature.highestLanguageVersion p.features.toList)) := by
  have hothers : ∀ f ∈ ([] : List Feature), p.features.has f := fun _ hf =>
    absurd hf List.not_mem_nil
  have hrule := lastRule?_eq p msvcLangName
  rw [listing_msvcLangName, find?_standardRule hothers] at hrule
  rw [get?_of_mem_featureNames p (by decide) (by decide), hrule] at hm
  rw [highestLanguageVersion_toList]
  cases hfound : Feature.languageStandards.reverse.find? p.features.has with
  | some f =>
      rw [hfound, Option.map_some, Option.bind_some, last?_macros_standardRule] at hm
      obtain rfl := Option.some.inj hm
      rfl
  | none =>
      rw [hfound, last?_languageDefaults] at hm
      split at hm
      · obtain rfl := Option.some.inj hm
        rfl
      · cases hm

/-- **The two macros agree.**  If the compiler is told to set `__cplusplus`, it tells the
highest version of the standards that are there. -/
theorem tellsLanguage_predefined (h : p.features.has .conformantCplusplus) :
    TellsLanguage p.predefined (Feature.highestLanguageVersion p.features.toList) where
  cplusplus := get?_cplusplusName h
  msvcLang _ hm := value_of_get?_msvcLangName hm

end Predefined

end BuildEnv
