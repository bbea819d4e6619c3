import BuildEnv.Proofs.Switch.Decision
import Mathlib.Data.List.Induction

/-!
# The last switch of a group counts

Language standards exclude each other, and so do instruction sets.  Run-time
type information, the wide character type, the conforming `__cplusplus` and
exceptions are turned on by some switches and off by others.  In each of these
groups the last switch that is met (`marked`) decides alone
(`Invocation.features_lastSwitch`): no other switch touches the group, and what
stands before leaves no trace.

The letters of an exception switch tell something only if `s` or `a` is among
them; of each letter the last one counts, and a dash behind it turns it off
(`Invocation.exceptionModel_eq_some_true_iff`).
-/

namespace BuildEnv

namespace Switch

/-- The last of the switches of a group, among all that are there. -/
def lastOf (group names : List Text) : Option Text :=
  (names.filter group.contains).getLast?

/-- The last decision of a list is the one of its last member that decides. -/
theorem getLast?_filterMap_iff (choose : Text → Option Bool) (names : List Text) :
    ((names.filterMap choose).getLast?).getD false = true ↔
      ∃ name, (names.filter fun name => (choose name).isSome).getLast? = some name ∧
        choose name = some true := by
  induction names using List.reverseRecOn with
  | nil => simp
  | append_singleton names name ih =>
      cases hchoice : choose name with
      | none => simpa [hchoice] using ih
      | some choice => simp [hchoice]

/-- Of two opposite switches the last one decides. -/
theorem getLast?_choose?_iff (on off : Text) (names : List Text) :
    ((names.filterMap (choose? [on] [off])).getLast?).getD false = true ↔
      lastOf [on, off] names = some on := by
  have hgroup : ∀ name, (choose? [on] [off] name).isSome = [on, off].contains name := by
    intro name
    rw [Bool.eq_iff_iff, isSome_choose?]
    simp
  rw [getLast?_filterMap_iff]
  simp only [hgroup, choose?_eq_some_true_iff, List.mem_singleton]
  exact ⟨fun ⟨_, hlast, hname⟩ => hname ▸ hlast, fun hlast => ⟨on, hlast, rfl⟩⟩

end Switch

namespace Invocation

open Switch Switch.Dialect

/-! ### The letters of the exception switch -/

/-- The last place of a letter has no dash behind it. -/
def LetterOn (letter : Char) (letters : Text) : Prop :=
  ∃ before after, letters = before ++ letter :: after ∧ letter ∉ after ∧ after.head? ≠ some '-'

/-- The switch says something about exceptions. -/
def tellsExceptions (name : Text) : Bool :=
  name == "GX".toList || name == "GX-".toList ||
    (argument? "EH".toList name).any fun letters => letters.contains 's' || letters.contains 'a'

/-- The switch turns exceptions on. -/
def TurnsExceptionsOn (name : Text) : Prop :=
  name = "GX".toList ∨
    ∃ letters, argument? "EH".toList name = some letters ∧
      (LetterOn 's' letters ∨ LetterOn 'a' letters)

/-- An earlier letter does not count if the letter comes again. -/
theorem letterOn_cons_of_mem {letter c : Char} {letters : Text} (h : letter ∈ letters) :
    LetterOn letter (c :: letters) ↔ LetterOn letter letters := by
  constructor
  · rintro ⟨before, after, hletters, hafter, hdash⟩
    cases before with
    | nil =>
        obtain ⟨-, rfl⟩ := List.cons.inj hletters
        exact absurd h hafter
    | cons b before => exact ⟨before, after, (List.cons.inj hletters).2, hafter, hdash⟩
  · rintro ⟨before, after, rfl, hafter, hdash⟩
    exact ⟨c :: before, after, rfl, hafter, hdash⟩

/-- A last letter is on unless a dash follows it. -/
theorem letterOn_cons_of_notMem {letter c : Char} {letters : Text} (h : letter ∉ letters) :
    LetterOn letter (c :: letters) ↔ c = letter ∧ letters.head? ≠ some '-' := by
  constructor
  · rintro ⟨before, after, hletters, hafter, hdash⟩
    cases before with
    | nil =>
        obtain ⟨rfl, rfl⟩ := List.cons.inj hletters
        exact ⟨rfl, hdash⟩
    | cons b before =>
        obtain ⟨-, rfl⟩ := List.cons.inj hletters
        exact absurd (List.mem_append_right _ List.mem_cons_self) h
  · rintro ⟨rfl, hdash⟩
    exact ⟨[], letters, rfl, h, hdash⟩

/-- A dash in front of letters belongs to none of them. -/
theorem letterState_dash {letter : Char} (hletter : letter ≠ '-') (letters : Text) :
    letterState letter ('-' :: letters) = letterState letter letters := by
  induction letters with
  | nil => simp [letterState, Ne.symm hletter]
  | cons d rest ih =>
      rw [letterState]
      by_cases hd : d = '-'
      · subst hd
        rw [ih]
        cases letterState letter rest <;> simp [Ne.symm hletter]
      · cases letterState letter (d :: rest) <;> simp [hd, Ne.symm hletter]

/-- The state of a letter, one letter after the other. -/
theorem letterState_cons {letter : Char} (hletter : letter ≠ '-') (c : Char) (letters : Text) :
    letterState letter (c :: letters) =
      (letterState letter letters).or
        (if c = letter then some (letters.head? != some '-') else none) := by
  cases letters with
  | nil => by_cases hc : c = letter <;> simp [letterState, hc]
  | cons d rest =>
      have hlater : (if d = '-' then letterState letter rest else letterState letter (d :: rest)) =
          letterState letter (d :: rest) := by
        split
        · next hd => rw [hd, letterState_dash hletter]
        · rfl
      rw [letterState, hlater]
      cases hrest : letterState letter (d :: rest) with
      | none => by_cases hc : c = letter <;> simp [hc, bne]
      | some state => rfl

/-- **One letter.**  It has a state exactly if it occurs, and the state is that
of its last place. -/
theorem letterState_spec {letter : Char} (hletter : letter ≠ '-') (letters : Text) :
    ((letterState letter letters).isSome ↔ letter ∈ letters) ∧
      (letterState letter letters = some true ↔ LetterOn letter letters) := by
  induction letters with
  | nil =>
      refine ⟨by simp [letterState], by simp [letterState], ?_⟩
      rintro ⟨before, after, hletters, -⟩
      cases before <;> cases hletters
  | cons c letters ih =>
      obtain ⟨hsome, hon⟩ := ih
      rw [letterState_cons hletter]
      by_cases hmem : letter ∈ letters
      · obtain ⟨state, hstate⟩ := Option.isSome_iff_exists.mp (hsome.mpr hmem)
        rw [letterOn_cons_of_mem hmem, ← hon, hstate]
        simp [hmem]
      · have hnone : letterState letter letters = none := by
          simpa [hmem] using hsome
        rw [letterOn_cons_of_notMem hmem, hnone]
        by_cases hc : c = letter
        · simp [hc]
        · simp [hc, Ne.symm hc, hmem]

/-- **The letters of the exception switch** say something if `s` or `a` is among
them. -/
theorem isSome_exceptionModel (letters : Text) :
    (exceptionModel letters).isSome = (letters.contains 's' || letters.contains 'a') := by
  have hs := (letterState_spec (by decide : 's' ≠ '-') letters).1
  have ha := (letterState_spec (by decide : 'a' ≠ '-') letters).1
  rw [Bool.eq_iff_iff, Bool.or_eq_true, List.contains_iff_mem, List.contains_iff_mem, ← hs, ← ha]
  unfold exceptionModel
  cases letterState 's' letters <;> cases letterState 'a' letters <;> simp

/-- They turn exceptions on if the last `s` or the last `a` is on. -/
theorem exceptionModel_eq_some_true_iff (letters : Text) :
    exceptionModel letters = some true ↔ LetterOn 's' letters ∨ LetterOn 'a' letters := by
  have hs := (letterState_spec (by decide : 's' ≠ '-') letters).2
  have ha := (letterState_spec (by decide : 'a' ≠ '-') letters).2
  rw [← hs, ← ha]
  unfold exceptionModel
  cases letterState 's' letters with
  | none => cases letterState 'a' letters <;> simp
  | some s => cases letterState 'a' letters <;> cases s <;> simp

/-- **What the letters say** is a matter of the last `s` and the last `a` alone.
Without both they say nothing; else exceptions are on exactly if one of the two is
there and has no dash behind it. -/
theorem exceptionModel_lastLetters (letters : Text) :
    (exceptionModel letters = none ↔ 's' ∉ letters ∧ 'a' ∉ letters) ∧
      ∀ on, exceptionModel letters = some on ↔
        ('s' ∈ letters ∨ 'a' ∈ letters) ∧
          (on = true ↔ LetterOn 's' letters ∨ LetterOn 'a' letters) := by
  have hsome : (exceptionModel letters).isSome ↔ 's' ∈ letters ∨ 'a' ∈ letters := by
    rw [isSome_exceptionModel, Bool.or_eq_true, List.contains_iff_mem, List.contains_iff_mem]
  constructor
  · rw [← Option.not_isSome_iff_eq_none, hsome, not_or]
  · intro on
    rw [← hsome, ← exceptionModel_eq_some_true_iff]
    cases exceptionModel letters with
    | none => simp
    | some said => cases said <;> cases on <;> simp

/-! ### The groups -/

/-- The language standard of a name. -/
def standardNamed? (name : Text) : Option Feature :=
  List.lookup name [("c++14".toList, .cpp14), ("c++17".toList, .cpp17), ("c++20".toList, .cpp20),
    ("c++latest".toList, .cppLatest)]

/-- The instruction set of a name, if it has predefined macros. -/
def instructionSetNamed? (name : Text) : Option Feature :=
  List.lookup name [("IA32".toList, .fpIa32), ("SSE".toList, .fpSse), ("AVX".toList, .avx),
    ("AVX2".toList, .avx2), ("AVX512".toList, .avx512), ("ARMv7VE".toList, .armFp),
    ("VFPv4".toList, .armFp)]

/-- The first entry of a name is what a look-up finds. -/
theorem find?_named_eq_lookup (entries : List (String × Feature)) (name : Text) :
    (entries.find? fun entry => entry.1.toList == name).map (·.2) =
      (entries.map fun entry => (entry.1.toList, entry.2)).lookup name := by
  induction entries with
  | nil => rfl
  | cons entry rest ih =>
      rw [List.find?_cons, List.map_cons, List.lookup_cons, ← ih, Bool.beq_comm]
      cases name == entry.1.toList <;> rfl

/-- The standards of the switches are the named ones. -/
theorem languageStandard?_eq : languageStandard? = standardNamed? :=
  funext fun name => find?_named_eq_lookup _ name

/-- The instruction sets of the switches are the named ones. -/
theorem instructionSet?_eq : instructionSet? = instructionSetNamed? :=
  funext fun name => find?_named_eq_lookup _ name

/-- What the name of a switch says about exceptions. -/
def exceptionChoice? (name : Text) : Option Bool :=
  (choose? ["GX".toList] ["GX-".toList] name).or
    ((argument? "EH".toList name).bind exceptionModel)

/-- A switch with letters is none of the two without. -/
theorem choose?_of_argument? {name letters : Text}
    (h : argument? "EH".toList name = some letters) :
    choose? ["GX".toList] ["GX-".toList] name = none := by
  obtain ⟨rfl, -⟩ := argument?_eq_some_iff.mp h
  simp [choose?]

/-- A choice about exceptions is made by the switches that tell about them. -/
theorem isSome_exceptionChoice? (name : Text) :
    (exceptionChoice? name).isSome = tellsExceptions name := by
  have hbare : (choose? ["GX".toList] ["GX-".toList] name).isSome =
      (name == "GX".toList || name == "GX-".toList) := by
    rw [Bool.eq_iff_iff, isSome_choose?]
    simp
  rw [exceptionChoice?, tellsExceptions, Option.isSome_or, hbare]
  cases argument? "EH".toList name with
  | none => rfl
  | some letters => rw [Option.bind_some, Option.any_some, isSome_exceptionModel]

/-- Exceptions are chosen by the switches that turn them on. -/
theorem exceptionChoice?_eq_some_true_iff (name : Text) :
    exceptionChoice? name = some true ↔ TurnsExceptionsOn name := by
  unfold exceptionChoice? TurnsExceptionsOn
  cases hname : argument? "EH".toList name with
  | none => simp [choose?_eq_some_true_iff]
  | some letters =>
      have hbare := choose?_of_argument? hname
      have hne : name ≠ "GX".toList := fun h => by simp [choose?, h] at hbare
      rw [hbare, Option.none_or, Option.bind_some, exceptionModel_eq_some_true_iff]
      simp only [hne, false_or, Option.some.injEq, exists_eq_left']

/-- The switches `/GX` and `/EH` govern exceptions, and no others do. -/
theorem governs_exceptions : Governs .exceptions exceptionChoice? where
  alone := by decide
  told rule hrule hconcerns name next found haccept := by
    have hrules : ∀ rule ∈ msvcTable, rule.meaning.concerns .exceptions →
        (rule.switch = '/' :: "EH".toList ∧ rule.shape = .glued ∧ rule.meaning = .exceptionModel) ∨
        (rule.shape = .bare ∧ rule.meaning.turns? ≠ none ∧
          rule.meaning.turns? = choose? ["GX".toList] ["GX-".toList] rule.switch.tail) := by
      decide
    rcases hrules rule hrule hconcerns with ⟨hswitch, hshape, hmeaning⟩ | ⟨hshape, hsome, hturns⟩
    · obtain ⟨letters, hname, hfound, hletters⟩ := Rule.of_accept?_glued hswitch hshape haccept
      rw [exceptionChoice?, choose?_of_argument? hname, hname]
      intro features
      rw [hfound, hmeaning, hletters]
      cases hmodel : exceptionModel letters with
      | none => simp [updateFeatures, hmodel]
      | some on =>
          cases on <;>
            simp [updateFeatures, hmodel, FeatureSet.insertAll, FeatureSet.eraseAll]
    · obtain ⟨on, hon⟩ := Option.ne_none_iff_exists'.mp hsome
      obtain ⟨hswitch, hdecides⟩ := Rule.decides_bare hshape hconcerns hon haccept
      rw [hon, hswitch, List.tail_cons] at hturns
      rw [exceptionChoice?, ← hturns, Option.some_or]
      exact hdecides
  known name choice hchoice := by
    have hnames : ∀ name ∈ ["GX".toList] ++ ["GX-".toList], ∃ rule ∈ msvcTable,
        rule.meaning.concerns .exceptions ∧ rule.shape = .bare ∧ rule.switch = '/' :: name := by
      decide
    have hglued : ⟨.glued, '/' :: "EH".toList, .exceptionModel⟩ ∈ msvcTable := by decide
    by_cases hbare : (choose? ["GX".toList] ["GX-".toList] name).isSome
    · obtain ⟨rule, hrule, hconcerns, hshape, hswitch⟩ := hnames name (isSome_choose?.mp hbare)
      refine ⟨rule, hrule, hconcerns, fun next => ?_⟩
      rw [← hswitch]
      exact ⟨_, Rule.accept?_bare hshape next⟩
    · rw [exceptionChoice?, Option.not_isSome_iff_eq_none.mp hbare, Option.none_or] at hchoice
      obtain ⟨letters, hname, -⟩ := Option.bind_eq_some_iff.mp hchoice
      obtain ⟨rfl, hletters⟩ := argument?_eq_some_iff.mp hname
      exact ⟨_, hglued, rfl, fun next => ⟨_, Rule.accept?_glued rfl hletters next⟩⟩

/-- In a group the last switch decides which of the features is there. -/
theorem getLast?_argument?_iff (switch : Text) (named? : Text → Option Feature) (f : Feature)
    (names : List Text) :
    ((names.filterMap fun name => (argument? switch name).bind fun argument =>
        some (decide (named? argument = some f))).getLast?).getD false = true ↔
      (names.filterMap (argument? switch)).getLast?.bind named? = some f := by
  have hmap : (names.filterMap fun name => (argument? switch name).bind fun argument =>
      some (decide (named? argument = some f))) =
        (names.filterMap (argument? switch)).map fun argument =>
          decide (named? argument = some f) := by
    simp only [List.map_filterMap, Option.map_eq_bind]
    rfl
  rw [hmap, List.getLast?_map]
  cases (names.filterMap (argument? switch)).getLast? <;> simp

/-- **A group of which a switch names one member.**  Of the group, only the member
is there that the last switch names. -/
theorem filter_toList_group {group : List Feature} {switch : Text}
    {named? : Text → Option Feature}
    (hnamed : ∀ argument g, named? argument = some g → g ∈ group)
    (hgoverns : ∀ f ∈ group, Governs f fun name => (argument? switch name).bind fun argument =>
      some (decide (named? argument = some f))) (words : List Text) :
    (ofWords .msvc words).features.toList.filter group.contains =
      (((marked words).filterMap (argument? switch)).getLast?.bind named?).toList := by
  have hhas : ∀ f ∈ group, (ofWords .msvc words).features.has f = true ↔
      ((marked words).filterMap (argument? switch)).getLast?.bind named? = some f := by
    intro f hf
    rw [(hgoverns f hf).has_ofWords, getLast?_argument?_iff]
  have hmem : ∀ g, ((marked words).filterMap (argument? switch)).getLast?.bind named? =
      some g → g ∈ group := by
    intro g hg
    obtain ⟨argument, -, hargument⟩ := Option.bind_eq_some_iff.mp hg
    exact hnamed argument g hargument
  generalize ((marked words).filterMap (argument? switch)).getLast?.bind named? = chosen
    at hhas hmem
  have hfilter : ∀ f ∈ Feature.all,
      (group.contains f && (ofWords .msvc words).features.has f) = decide (chosen = some f) := by
    intro f _
    rw [Bool.eq_iff_iff, Bool.and_eq_true, List.contains_iff_mem, decide_eq_true_iff]
    exact ⟨fun ⟨hf, h⟩ => (hhas f hf).mp h, fun h => ⟨hmem f h, (hhas f (hmem f h)).mpr h⟩⟩
  rw [FeatureSet.toList, List.filter_filter, List.filter_congr hfilter]
  cases chosen with
  | none => rfl
  | some g => cases g <;> rfl

/-- A feature that one switch turns on and another one off. -/
theorem has_iff_lastOf {f : Feature} {on off : Text} (h : Governs f (choose? [on] [off]))
    (words : List Text) :
    (ofWords .msvc words).features.has f ↔ lastOf [on, off] (marked words) = some on := by
  rw [h.has_ofWords, getLast?_choose?_iff]

/-- **The last switch of a group counts.**  At most one language standard is there,
the one that the last `/std:` names, and at most one instruction set, the one that
the last `/arch:` names.  Of a pair of switches the last one decides, and about
exceptions the last switch that tells something about them. -/
theorem features_lastSwitch (words : List Text) :
    (ofWords .msvc words).features.toList.filter Feature.languageStandards.contains =
        (((marked words).filterMap (argument? "std:".toList)).getLast?.bind
          standardNamed?).toList ∧
      (ofWords .msvc words).features.toList.filter Feature.instructionSets.contains =
        (((marked words).filterMap (argument? "arch:".toList)).getLast?.bind
          instructionSetNamed?).toList ∧
      ((ofWords .msvc words).features.has .rtti ↔
        lastOf ["GR".toList, "GR-".toList] (marked words) = some "GR".toList) ∧
      ((ofWords .msvc words).features.has .nativeWcharT ↔
        lastOf ["Zc:wchar_t".toList, "Zc:wchar_t-".toList] (marked words) =
          some "Zc:wchar_t".toList) ∧
      ((ofWords .msvc words).features.has .conformantCplusplus ↔
        lastOf ["Zc:__cplusplus".toList, "Zc:__cplusplus-".toList] (marked words) =
          some "Zc:__cplusplus".toList) ∧
      ((ofWords .msvc words).features.has .exceptions ↔
        ∃ name, ((marked words).filter tellsExceptions).getLast? = some name ∧
          TurnsExceptionsOn name) := by
  refine ⟨?_, ?_, ?_, ?_, ?_, ?_⟩
  · have hgoverns := governs_group "std:".toList .languageStandard
      (fun _ _ => mem_languageStandards) (fun _ _ => rfl) (by decide) rfl (by decide)
    rw [← languageStandard?_eq]
    exact filter_toList_group (fun _ _ => mem_languageStandards) hgoverns words
  · have hgoverns := governs_group "arch:".toList .instructionSet
      (fun _ _ => mem_instructionSets) (fun _ _ => rfl) (by decide) rfl (by decide)
    rw [← instructionSet?_eq]
    exact filter_toList_group (fun _ _ => mem_instructionSets) hgoverns words
  · exact has_iff_lastOf (governs_choose? (by decide) (by decide)) words
  · exact has_iff_lastOf (governs_choose? (by decide) (by decide)) words
  · exact has_iff_lastOf (governs_choose? (by decide) (by decide)) words
  · rw [governs_exceptions.has_ofWords, getLast?_filterMap_iff]
    simp only [isSome_exceptionChoice?, exceptionChoice?_eq_some_true_iff]

/-- Two standards before the linker part and one in it, a switch that is the argument
of another one, and two switches about exceptions. -/
def overriding : List Text :=
  ["/std:c++17".toList, "/GX-".toList, "/I".toList, "/GR".toList, "-std:c++20".toList,
    "/arch:AVX2".toList, "-EHs-a".toList, "/link".toList, "/std:c++14".toList]

/-- The later standard stays, the argument says nothing, and the later one of the two
switches turns exceptions on. -/
theorem features_lastSwitch_overriding :
    (ofWords .msvc overriding).features.toList.filter Feature.languageStandards.contains =
        [.cpp20] ∧
      ¬ (ofWords .msvc overriding).features.has .rtti ∧
      (ofWords .msvc overriding).features.has .exceptions := by
  have hmarked : marked overriding =
      ["std:c++17".toList, "GX-".toList, "I".toList, "std:c++20".toList, "arch:AVX2".toList,
        "EHs-a".toList] := by
    decide
  obtain ⟨hstandards, -, hrtti, -, -, hexceptions⟩ := features_lastSwitch overriding
  rw [hmarked] at hstandards hrtti hexceptions
  refine ⟨hstandards.trans (by decide), ?_, ?_⟩
  · rw [hrtti]
    decide
  · rw [hexceptions]
    refine ⟨"EHs-a".toList, by decide, .inr ⟨"s-a".toList, by decide, .inr ?_⟩⟩
    exact ⟨"s-".toList, [], rfl, List.not_mem_nil, by decide⟩

end Invocation

end BuildEnv
