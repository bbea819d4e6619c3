import BuildEnv.Proofs.Switch.Met

/-!
# What a switch decides about a feature

A step of the walk leaves a feature as it is, or turns it on or off
(`Step.Decides`).  What it does depends on the word at which it stands and on
nothing else, so a whole walk leaves what the last word that decides has
decided (`Dialect.has_foldl_addStep`).

`Dialect.Governs` says which words decide about a feature.  It is a fact about
the rules that concern the feature: each of them decides as it is said, and each
word that is said to decide is taken by one of them.  Since no two rules take the
same word, no other switch touches the feature (`Dialect.Governs.decides_step`).
-/

namespace BuildEnv

namespace Switch

open Invocation

/-- A switch turns a feature on or off, or leaves it as it is. -/
def Match.Decides (found : Match) (f : Feature) (choice : Option Bool) : Prop :=
  ∀ features, (updateFeatures features found.meaning (found.argument.getD [])).has f =
    choice.getD (features.has f)

/-- A step turns a feature on or off, or leaves it as it is. -/
def Step.Decides (step : Step) (f : Feature) (choice : Option Bool) : Prop :=
  ∀ i : Invocation, (i.addStep step).features.has f = choice.getD (i.features.has f)

section Features

variable {f : Feature}

/-- What is found by its name in a group is in the group. -/
theorem mem_of_find?_named {entries : List (String × Feature)} {group : List Feature} {name : Text}
    {g : Feature}
    (h : (entries.find? fun entry => entry.1.toList == name).map (·.2) = some g)
    (hentries : ∀ entry ∈ entries, entry.2 ∈ group) : g ∈ group := by
  obtain ⟨entry, hentry, rfl⟩ := Option.map_eq_some_iff.mp h
  exact hentries entry (List.mem_of_find?_eq_some hentry)

/-- Every named instruction set is one of the group. -/
theorem mem_instructionSets {name : Text} {g : Feature} (h : instructionSet? name = some g) :
    g ∈ Feature.instructionSets :=
  mem_of_find?_named h (by decide)

theorem mem_languageStandards {name : Text} {g : Feature} (h : languageStandard? name = some g) :
    g ∈ Feature.languageStandards :=
  mem_of_find?_named h (by decide)

/-- Putting one member of a group in the place of all others. -/
theorem has_exchange {group : List Feature} {chosen : Option Feature}
    (hchosen : ∀ g, chosen = some g → g ∈ group) (features : FeatureSet) (f : Feature) :
    ((features.eraseAll group).insertAll chosen.toList).has f =
      if f ∈ group then decide (chosen = some f) else features.has f := by
  cases chosen with
  | none => by_cases hf : f ∈ group <;> simp [FeatureSet.insertAll, FeatureSet.eraseAll, hf]
  | some g =>
      have hg : g ∈ group := hchosen g rfl
      by_cases hf : f ∈ group
      · simp [FeatureSet.insertAll, FeatureSet.eraseAll, hf, eq_comm]
      · have hne : f ≠ g := fun h => hf (h ▸ hg)
        simp [FeatureSet.insertAll, FeatureSet.eraseAll, hf, hne]

/-- **A meaning that does not concern a feature** leaves it as it is. -/
theorem Match.decides_of_not_concerns {found : Match} (h : found.meaning.concerns f = false) :
    found.Decides f none := by
  intro features
  generalize found.argument.getD [] = argument
  unfold updateFeatures
  cases hmeaning : found.meaning with
  | exceptionModel =>
      have hf : f ≠ .exceptions := by simpa [Meaning.concerns, hmeaning] using h
      cases hmodel : exceptionModel argument with
      | none => rfl
      | some on => cases on <;> simp [FeatureSet.insertAll, FeatureSet.eraseAll, hf]
  | instructionSet =>
      have hf : f ∉ Feature.instructionSets := by simpa [Meaning.concerns, hmeaning] using h
      exact (has_exchange (fun _ => mem_instructionSets) features f).trans (if_neg hf)
  | languageStandard =>
      have hf : f ∉ Feature.languageStandards := by simpa [Meaning.concerns, hmeaning] using h
      exact (has_exchange (fun _ => mem_languageStandards) features f).trans (if_neg hf)
  | enables more =>
      have hf : f ∉ more := by simpa [Meaning.concerns, hmeaning] using h
      simp [FeatureSet.insertAll, hf]
  | disables fewer =>
      have hf : f ∉ fewer := by simpa [Meaning.concerns, hmeaning] using h
      simp [FeatureSet.eraseAll, hf]
  | _ => rfl

end Features

namespace Dialect

variable {d : Dialect} {word : Text} {next words : List Text} {f : Feature}

/-- The first value counts only if there is no later one. -/
theorem getLast?_filterMap_cons {α β : Type} (g : α → Option β) (a : α) (l : List α) (b : β) :
    (((a :: l).filterMap g).getLast?).getD b = ((l.filterMap g).getLast?).getD ((g a).getD b) := by
  cases ha : g a with
  | none => rw [List.filterMap_cons_none ha, Option.getD_none]
  | some c =>
      rw [List.filterMap_cons_some ha, List.getLast?_cons]
      rfl

/-- **The last decision counts.**  If every step decides about a feature by the
word at which it stands, the walk leaves what the last word decides, and else
what was there before. -/
theorem has_foldl_addStep {choose : Text → Option Bool}
    (hstep : ∀ word next, (msvc.step word next).Decides f ((unmarked? word).bind choose))
    (words : List Text) (i : Invocation) :
    ((msvc.walk words).foldl addStep i).features.has f =
      (((marked words).filterMap choose).getLast?).getD (i.features.has f) := by
  have hmarked : ∀ words, (marked words).filterMap choose =
      (met words).filterMap fun word => (unmarked? word).bind choose :=
    fun words => List.filterMap_filterMap
  rw [hmarked]
  induction words using msvc.walk_induction generalizing i with
  | nil => rfl
  | ends word next hends => rw [met_of_endsOptions hends, walk_cons, if_pos hends]; rfl
  | goes word next hgoes ih =>
      rw [met_of_goes hgoes, walk_cons, if_neg hgoes, List.foldl_cons, ih,
        getLast?_filterMap_cons, hstep word next i]

/-! ### The words that decide about a feature -/

/-- **The words that decide about a feature** are exactly those of the rules that
concern it.  Such rules have nothing to do with `/clr`. -/
structure Governs (f : Feature) (choose : Text → Option Bool) : Prop where
  alone : ∀ rule ∈ msvcTable, rule.meaning.concerns f → rule.meaning.concerns .clr = false
  told : ∀ rule ∈ msvcTable, rule.meaning.concerns f → ∀ name next found,
    rule.accept? ('/' :: name) next = some found → found.Decides f (choose name)
  known : ∀ name choice, choose name = some choice → ∃ rule ∈ msvcTable,
    rule.meaning.concerns f ∧ ∀ next, ∃ found, rule.accept? ('/' :: name) next = some found

/-- A word that is no switch decides nothing. -/
theorem decides_step_of_match?_eq_none (h : d.match? (word :: next) = none) :
    (d.step word next).Decides f none := by
  intro i
  by_cases hfile : word.head? = some '@'
  · rw [step, if_pos (by simpa using hfile)]
    rfl
  · rw [step_of_match?_eq_none hfile h]
    split <;> rfl

/-- A switch decides what its match does. -/
theorem decides_step_of_match? {found : Match} {choice : Option Bool}
    (hfile : word.head? ≠ some '@') (h : d.match? (word :: next) = some found)
    (hfound : found.Decides f choice) : (d.step word next).Decides f choice := by
  intro i
  rw [step, if_neg (by simpa using hfile), h]
  exact hfound i.features

/-- A word that decides is a switch, and its rule concerns the feature. -/
theorem Governs.exists_match? {choose : Text → Option Bool} (h : Governs f choose) {name : Text}
    {choice : Bool} (hchoice : choose name = some choice) (hword : unmarked? word = some name)
    (next : List Text) :
    ∃ found, msvc.match? (word :: next) = some found ∧ found.meaning.concerns f := by
  obtain ⟨rule, hrule, hconcerns, haccept⟩ := h.known name choice hchoice
  obtain ⟨found, haccept⟩ := haccept next
  obtain ⟨hmeaning, hshape⟩ := Rule.of_accept? haccept
  have hname : name ≠ [] := by
    have hlong : ∀ rule ∈ msvcTable, 2 ≤ rule.switch.length := by decide
    rintro rfl
    have hlength := hlong rule hrule
    rcases hshape with ⟨hswitch, -⟩ | ⟨argument, hswitch, -⟩
    · simp [← hswitch] at hlength
    · have hshort := congrArg List.length hswitch
      simp only [List.length_append, List.length_cons, List.length_nil] at hshort
      omega
  refine ⟨found, ?_, hmeaning ▸ hconcerns⟩
  exact match?_msvc (canonical?_eq_some_iff.mpr ⟨name, hname, hword, rfl⟩) hrule
    (h.alone rule hrule hconcerns) haccept

/-- **One step** decides about a feature by the word at which it stands. -/
theorem Governs.decides_step {choose : Text → Option Bool} (h : Governs f choose) (word : Text)
    (next : List Text) : (msvc.step word next).Decides f ((unmarked? word).bind choose) := by
  cases hmatch : msvc.match? (word :: next) with
  | none =>
      have hsilent : (unmarked? word).bind choose = none := by
        refine Option.eq_none_iff_forall_not_mem.mpr fun choice hchoice => ?_
        obtain ⟨name, hword, hchoice⟩ := Option.bind_eq_some_iff.mp hchoice
        obtain ⟨found, hfound, -⟩ := h.exists_match? hchoice hword next
        rw [hmatch] at hfound
        cases hfound
      rw [hsilent]
      exact decides_step_of_match?_eq_none hmatch
  | some found =>
      obtain ⟨switch, rule, hcanonical, hrule, haccept⟩ := exists_rule_of_match? hmatch
      obtain ⟨name, -, hword, rfl⟩ := canonical?_eq_some_iff.mp hcanonical
      refine decides_step_of_match? (head?_ne_of_unmarked? hword) hmatch ?_
      rw [hword, Option.bind_some]
      by_cases hconcerns : found.meaning.concerns f
      · rw [(Rule.of_accept? haccept).1] at hconcerns
        exact h.told rule hrule hconcerns name next found haccept
      · have hsilent : choose name = none := by
          refine Option.eq_none_iff_forall_not_mem.mpr fun choice hchoice => ?_
          obtain ⟨found', hfound', hconcerns'⟩ := h.exists_match? hchoice hword next
          rw [hmatch] at hfound'
          obtain rfl := Option.some.inj hfound'
          exact hconcerns hconcerns'
        rw [hsilent]
        exact Match.decides_of_not_concerns (by simpa using hconcerns)

/-- **A whole walk** leaves what the last word decides. -/
theorem Governs.has_ofWords {choose : Text → Option Bool} (h : Governs f choose)
    (words : List Text) :
    (ofWords .msvc words).features.has f =
      (((marked words).filterMap choose).getLast?).getD false :=
  has_foldl_addStep h.decides_step words empty

end Dialect

/-! ### The rules of a feature -/

/-- What a switch without argument does to the features that it concerns. -/
def Meaning.turns? : Meaning → Option Bool
  | .enables _ => some true
  | .disables _ => some false
  | _ => none

/-- The choice between switches that turn a feature on and switches that turn it
off. -/
def choose? (on off : List Text) (name : Text) : Option Bool :=
  if name ∈ on then some true else if name ∈ off then some false else none

/-- The argument that is glued to a switch, which is not empty. -/
def argument? (switch name : Text) : Option Text :=
  if switch <+: name ∧ switch ≠ name then some (name.drop switch.length) else none

/-- The argument of a switch is what follows its name, if anything does. -/
theorem argument?_eq_some_iff {switch name argument : Text} :
    argument? switch name = some argument ↔ name = switch ++ argument ∧ argument ≠ [] := by
  rw [argument?, Option.ite_none_right_eq_some, Option.some.injEq]
  constructor
  · rintro ⟨⟨⟨rest, rfl⟩, hne⟩, hrest⟩
    obtain rfl : rest = argument := by rwa [List.drop_left] at hrest
    exact ⟨rfl, by rintro rfl; exact hne (List.append_nil _).symm⟩
  · rintro ⟨rfl, hne⟩
    refine ⟨⟨List.prefix_append _ _, fun h => hne ?_⟩, List.drop_left⟩
    exact List.self_eq_append_right.mp h

/-- A choice is made by the names of both kinds, and by no others. -/
theorem isSome_choose? {on off : List Text} {name : Text} :
    (choose? on off name).isSome ↔ name ∈ on ++ off := by
  unfold choose?
  by_cases hon : name ∈ on
  · simp [hon]
  · by_cases hoff : name ∈ off <;> simp [hon, hoff]

/-- A feature is chosen by the names that turn it on. -/
theorem choose?_eq_some_true_iff {on off : List Text} {name : Text} :
    choose? on off name = some true ↔ name ∈ on := by
  unfold choose?
  by_cases hon : name ∈ on
  · simp [hon]
  · by_cases hoff : name ∈ off <;> simp [hon, hoff]

/-- A match that turns its feature on or off decides. -/
theorem Match.decides_of_turns? {found : Match} {f : Feature} {choice : Bool}
    (hconcerns : found.meaning.concerns f) (hturns : found.meaning.turns? = some choice) :
    found.Decides f (some choice) := by
  intro features
  unfold updateFeatures
  cases hmeaning : found.meaning with
  | enables more =>
      have hf : f ∈ more := by simpa [Meaning.concerns, hmeaning] using hconcerns
      obtain rfl : true = choice := by simpa [Meaning.turns?, hmeaning] using hturns
      simp [FeatureSet.insertAll, hf]
  | disables fewer =>
      have hf : f ∈ fewer := by simpa [Meaning.concerns, hmeaning] using hconcerns
      obtain rfl : false = choice := by simpa [Meaning.turns?, hmeaning] using hturns
      simp [FeatureSet.eraseAll, hf]
  | _ => simp [Meaning.turns?, hmeaning] at hturns

namespace Rule

variable {rule : Rule} {f : Feature} {name : Text} {next : List Text} {found : Match}

/-- A rule without an argument decides by its name alone. -/
theorem decides_bare (hshape : rule.shape = .bare) (hconcerns : rule.meaning.concerns f)
    {choice : Bool} (hturns : rule.meaning.turns? = some choice)
    (h : rule.accept? ('/' :: name) next = some found) :
    rule.switch = '/' :: name ∧ found.Decides f (some choice) := by
  obtain ⟨hmeaning, ⟨hswitch, -⟩ | ⟨_, -, -, hnot, -⟩⟩ := of_accept? h
  · rw [← hmeaning] at hconcerns hturns
    exact ⟨hswitch.symm, Match.decides_of_turns? hconcerns hturns⟩
  · exact absurd hshape hnot

/-- A rule with a glued argument is matched by its name with the argument behind. -/
theorem of_accept?_glued {switch : Text} (hrule : rule.switch = '/' :: switch)
    (hshape : rule.shape = .glued) (h : rule.accept? ('/' :: name) next = some found) :
    ∃ argument, argument? switch name = some argument ∧ found.meaning = rule.meaning ∧
      found.argument = some argument := by
  obtain ⟨hmeaning, ⟨-, hnot⟩ | ⟨argument, hname, hargument, -, hfound⟩⟩ := of_accept? h
  · exact absurd hshape hnot
  · rw [hrule] at hname
    refine ⟨argument, argument?_eq_some_iff.mpr ⟨?_, hargument⟩, hmeaning, hfound⟩
    exact (List.cons.inj hname).2

end Rule

namespace Dialect

variable {f : Feature}

/-- A feature that only switches without argument concern. -/
theorem governs_choose? {on off : List Text}
    (hrules : ∀ rule ∈ msvcTable, rule.meaning.concerns f →
      rule.meaning.concerns .clr = false ∧ rule.shape = .bare ∧
        rule.meaning.turns? = choose? on off rule.switch.tail ∧ rule.meaning.turns? ≠ none)
    (hnames : ∀ name ∈ on ++ off, ∃ rule ∈ msvcTable,
      rule.meaning.concerns f ∧ rule.shape = .bare ∧ rule.switch = '/' :: name) :
    Governs f (choose? on off) where
  alone rule hrule hconcerns := (hrules rule hrule hconcerns).1
  told rule hrule hconcerns name next found haccept := by
    obtain ⟨-, hshape, hchoose, hsome⟩ := hrules rule hrule hconcerns
    obtain ⟨choice, hturns⟩ := Option.ne_none_iff_exists'.mp hsome
    obtain ⟨hswitch, hdecides⟩ := Rule.decides_bare hshape hconcerns hturns haccept
    rw [hturns, hswitch, List.tail_cons] at hchoose
    rw [← hchoose]
    exact hdecides
  known name choice hchoice := by
    obtain ⟨rule, hrule, hconcerns, hshape, hswitch⟩ := hnames name
      (isSome_choose?.mp (Option.isSome_of_eq_some hchoice))
    refine ⟨rule, hrule, hconcerns, fun next => ?_⟩
    rw [← hswitch]
    exact ⟨_, Rule.accept?_bare hshape next⟩

/-- A feature that one switch with a glued argument concerns, and no other. -/
theorem governs_argument? {switch : Text} {meaning : Meaning} {choose : Text → Option Bool}
    (hrule : ⟨.glued, '/' :: switch, meaning⟩ ∈ msvcTable)
    (honly : ∀ rule ∈ msvcTable, rule.meaning.concerns f → rule = ⟨.glued, '/' :: switch, meaning⟩)
    (hconcerns : meaning.concerns f) (hclr : meaning.concerns .clr = false)
    (hdecides : ∀ found : Match, ∀ argument, found.meaning = meaning →
      found.argument = some argument → found.Decides f (choose argument)) :
    Governs f fun name => (argument? switch name).bind choose where
  alone rule hmem hc := by
    rw [honly rule hmem hc]
    exact hclr
  told rule hmem hc name next found haccept := by
    obtain rfl := honly rule hmem hc
    obtain ⟨argument, hname, hmeaning, hargument⟩ := Rule.of_accept?_glued rfl rfl haccept
    rw [hname, Option.bind_some]
    exact hdecides found argument hmeaning hargument
  known name choice hchoice := by
    obtain ⟨argument, hname, -⟩ := Option.bind_eq_some_iff.mp hchoice
    obtain ⟨rfl, hargument⟩ := argument?_eq_some_iff.mp hname
    exact ⟨_, hrule, hconcerns, fun next => ⟨_, Rule.accept?_glued rfl hargument next⟩⟩

/-- A group of features of which a switch names one member, which takes the place of
all others. -/
theorem governs_group (switch : Text) (meaning : Meaning) {group : List Feature}
    {named? : Text → Option Feature}
    (hnamed : ∀ argument g, named? argument = some g → g ∈ group)
    (hupdate : ∀ features argument, updateFeatures features meaning argument =
      (features.eraseAll group).insertAll (named? argument).toList)
    (hrule : ⟨.glued, '/' :: switch, meaning⟩ ∈ msvcTable) (hclr : meaning.concerns .clr = false)
    (honly : ∀ f ∈ group, meaning.concerns f ∧ ∀ rule ∈ msvcTable, rule.meaning.concerns f →
      rule = ⟨.glued, '/' :: switch, meaning⟩) :
    ∀ f ∈ group, Governs f fun name => (argument? switch name).bind fun argument =>
      some (decide (named? argument = some f)) := by
  intro f hf
  refine governs_argument? hrule (honly f hf).2 (honly f hf).1 hclr ?_
  intro found argument hmeaning hargument features
  rw [hmeaning, hargument, Option.getD_some, hupdate]
  exact (has_exchange (hnamed argument) features f).trans (if_pos hf)

end Dialect

end Switch

end BuildEnv
