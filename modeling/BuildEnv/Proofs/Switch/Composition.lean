import BuildEnv.Proofs.Switch.Walk
import BuildEnv.Proofs.Text.Scanner
import Mathlib.Algebra.Module.Submodule.Lattice
import Mathlib.Data.List.Permutation

/-!
# The walk over two command lines

A step of the walk looks at one word and at the next one, and takes one of them
or both.  `Dialect.Reaches` is a run of such steps: each takes what it consumes
off the words that are left, and there are always as many left as it consumes
(`Dialect.reaches_walk`).

What follows a command line changes nothing in its walk if the walk does not end
before its last word and that word does not wait for an argument
(`Dialect.Closed`).  Then the walk goes on behind it as if it began there
(`Dialect.walk_append`), and since each step adds to an invocation what it says
by itself, the invocations of the two command lines compose:
`Invocation.ofWords_composes`.
-/

namespace BuildEnv

namespace Switch

/-- How many words a step takes. -/
def Step.consumed : Step → Nat
  | .switch found => found.consumed
  | _ => 1

/-- The switch of a step, if it is one. -/
def Step.switch? : Step → Option Match
  | .switch found => some found
  | _ => none

namespace Rule

variable {rule : Rule} {word : Text} {next : List Text} {found : Match}

/-- A switch takes its word, and the next one only if there is one. -/
theorem consumed_of_accept? (h : rule.accept? word next = some found) :
    found.consumed = 1 ∨ found.consumed = 2 ∧ next ≠ [] := by
  unfold accept? at h
  split at h
  · obtain rfl := Option.some.inj h
    exact .inl rfl
  · cases next with
    | nil => cases h
    | cons argument later =>
        obtain rfl := Option.some.inj h
        exact .inr ⟨rfl, List.cons_ne_nil _ _⟩
  · obtain rfl := Option.some.inj h
    exact .inl rfl
  · obtain rfl := Option.some.inj h
    exact .inl rfl
  · cases h

/-- A rule looks at the next word only, and that only where the switch stands
alone and takes an argument. -/
theorem accept?_append (h : next ≠ [] ∨ ¬ (rule.shape = .gluedOrNext ∧ word = rule.switch))
    (more : List Text) : rule.accept? word (next ++ more) = rule.accept? word next := by
  cases next with
  | cons argument later => rfl
  | nil =>
      have hwait := h.resolve_left (fun hne => hne rfl)
      unfold accept?
      cases hafter : Text.after? rule.switch word with
      | none => rfl
      | some rest =>
          cases rest with
          | cons c rest => cases rule.shape <;> rfl
          | nil =>
              have hword : word = rule.switch := by
                simpa using Text.after?_eq_some_iff.mp hafter
              cases hshape : rule.shape with
              | gluedOrNext => exact absurd ⟨hshape, hword⟩ hwait
              | bare => rfl
              | glued => rfl

end Rule

/-- The words behind count only as far as a rule looks at them. -/
theorem firstMatch?_congr {rules : List Rule} {word : Text} {next next' : List Text}
    (h : ∀ rule ∈ rules, rule.accept? word next = rule.accept? word next') :
    firstMatch? rules word next = firstMatch? rules word next' := by
  induction rules with
  | nil => rfl
  | cons rule rules ih =>
      have hrest := ih fun other hother => h other (List.mem_cons_of_mem _ hother)
      unfold firstMatch? at hrest ⊢
      rw [List.findSome?_cons, List.findSome?_cons, h rule List.mem_cons_self, hrest]

namespace Dialect

variable {d : Dialect} {word : Text} {next : List Text}

/-- The word is a switch that takes an argument, without one glued to it. -/
def Awaits (d : Dialect) (word : Text) : Prop :=
  ∃ rule ∈ d.table, rule.shape = .gluedOrNext ∧ d.canonical? word = some rule.switch

/-- Sorting the table loses no rule and adds none. -/
theorem mem_rules {rule : Rule} : rule ∈ d.rules ↔ rule ∈ d.table :=
  List.mem_mergeSort

/-- A match comes from a rule of the table. -/
theorem exists_rule_of_match? {found : Match} (h : d.match? (word :: next) = some found) :
    ∃ switch rule, d.canonical? word = some switch ∧ rule ∈ d.table ∧
      rule.accept? switch next = some found := by
  obtain ⟨switch, hcanonical, hfirst⟩ := Option.bind_eq_some_iff.mp h
  obtain ⟨rule, hrule, haccept⟩ := List.exists_of_findSome?_eq_some hfirst
  exact ⟨switch, rule, hcanonical, mem_rules.mp hrule, haccept⟩

/-- Where one rule of the table takes a word, it is the one that counts. -/
theorem match?_eq_some_of_only {switch : Text} {rule : Rule} {found : Match}
    (hcanonical : d.canonical? word = some switch) (hrule : rule ∈ d.table)
    (haccept : rule.accept? switch next = some found)
    (honly : ∀ other ∈ d.table, other ≠ rule → other.accept? switch next = none) :
    d.match? (word :: next) = some found := by
  cases hmatch : d.match? (word :: next) with
  | none =>
      rw [match?, matchBy?, hcanonical] at hmatch
      have hnone := List.findSome?_eq_none_iff.mp hmatch rule (mem_rules.mpr hrule)
      rw [haccept] at hnone
      cases hnone
  | some other =>
      obtain ⟨_, rule', hcanonical', hrule', haccept'⟩ := exists_rule_of_match? hmatch
      obtain rfl := Option.some.inj (hcanonical.symm.trans hcanonical')
      by_cases hsame : rule' = rule
      · rw [hsame, haccept] at haccept'
        exact haccept'.symm
      · rw [honly rule' hrule' hsame] at haccept'
        cases haccept'

/-- More words behind change no match, unless the switch waits for the first of them. -/
theorem match?_append (h : next ≠ [] ∨ ¬ d.Awaits word) (more : List Text) :
    d.match? (word :: (next ++ more)) = d.match? (word :: next) := by
  rw [match?, match?, matchBy?, matchBy?]
  cases hcanonical : d.canonical? word with
  | none => rfl
  | some switch =>
      have hrules : ∀ rule ∈ d.rules,
          rule.accept? switch (next ++ more) = rule.accept? switch next := by
        intro rule hrule
        refine Rule.accept?_append (h.imp_right ?_) more
        rintro hnot ⟨hshape, hswitch⟩
        exact hnot ⟨rule, mem_rules.mp hrule, hshape, hswitch ▸ hcanonical⟩
      exact firstMatch?_congr hrules

/-! ### One step -/

/-- More words behind change no step, unless the switch waits for the first of them. -/
theorem step_append (h : next ≠ [] ∨ ¬ d.Awaits word) (more : List Text) :
    d.step word (next ++ more) = d.step word next := by
  rw [step, step, match?_append h]

/-- A step at a switch is the match of a rule of the table. -/
theorem exists_rule_of_step {found : Match} (h : d.step word next = .switch found) :
    ∃ switch rule, d.canonical? word = some switch ∧ rule ∈ d.table ∧
      rule.accept? switch next = some found := by
  unfold step at h
  split at h
  · cases h
  · split at h
    · next other hmatch =>
        obtain rfl := Step.switch.inj h
        exact exists_rule_of_match? hmatch
    · split at h <;> cases h

/-- A step takes its own word, and no more than there are. -/
theorem consumed_step (d : Dialect) (word : Text) (next : List Text) :
    (d.step word next).consumed = (d.step word next).taken + 1 ∧
      (d.step word next).consumed ≤ (word :: next).length := by
  cases hstep : d.step word next with
  | switch found =>
      obtain ⟨_, _, _, _, haccept⟩ := exists_rule_of_step hstep
      show found.consumed = found.consumed - 1 + 1 ∧ found.consumed ≤ _
      rcases Rule.consumed_of_accept? haccept with hone | ⟨htwo, hne⟩
      · rw [hone]
        exact ⟨rfl, Nat.le_add_left 1 _⟩
      · have hlength : 0 < next.length := List.length_pos_iff.mpr hne
        rw [htwo, List.length_cons]
        omega
  | _ => exact ⟨rfl, Nat.le_add_left 1 _⟩

/-! ### A run of steps -/

/-- **A run of the walk.**  It makes the steps and comes to stand before the
rest of the words.  There are at least as many words left as a step consumes. -/
inductive Reaches (d : Dialect) : (words : List Text) → List Step → (rest : List Text) → Prop
  | refl (words : List Text) : d.Reaches words [] words
  | step {word : Text} {next rest : List Text} {steps : List Step}
      (hgoes : (d.step word next).endsOptions = false)
      (hfits : (d.step word next).consumed ≤ (word :: next).length)
      (tail : d.Reaches ((word :: next).drop (d.step word next).consumed) steps rest) :
      d.Reaches (word :: next) (d.step word next :: steps) rest

/-- A run passes as many words as its steps consume, and stays within the
words. -/
theorem Reaches.passed {words rest : List Text} {steps : List Step}
    (h : d.Reaches words steps rest) :
    ∃ passed, words = passed ++ rest ∧ passed.length = (steps.map Step.consumed).sum := by
  induction h with
  | refl words => exact ⟨[], rfl, rfl⟩
  | @step word next rest steps hgoes hfits tail ih =>
      obtain ⟨passed, hpassed, hlength⟩ := ih
      refine ⟨(word :: next).take (d.step word next).consumed ++ passed, ?_, ?_⟩
      · rw [List.append_assoc, ← hpassed, List.take_append_drop]
      · rw [List.length_append, List.length_take_of_le hfits, hlength, List.map_cons,
          List.sum_cons]

/-- Skipping words is walking the rest. -/
theorem walkAfter_eq_walk_drop (d : Dialect) (skip : Nat) (words : List Text) :
    d.walkAfter skip words = d.walk (words.drop skip) := by
  induction words generalizing skip with
  | nil => cases skip <;> rfl
  | cons word next ih =>
      cases skip with
      | zero => rfl
      | succ skip => exact ih skip

/-- The walk from one step on. -/
theorem walk_cons (d : Dialect) (word : Text) (next : List Text) :
    d.walk (word :: next) =
      if (d.step word next).endsOptions then []
      else d.step word next :: d.walk ((word :: next).drop (d.step word next).consumed) := by
  rw [(consumed_step d word next).1, List.drop_succ_cons, ← walkAfter_eq_walk_drop]
  rfl

/-- The walk runs until no words are left, or until the switch that ends the
options. -/
theorem reaches_walk (d : Dialect) (words : List Text) :
    ∃ rest, d.Reaches words (d.walk words) rest ∧
      ∀ word next, rest = word :: next → (d.step word next).endsOptions := by
  induction hlength : words.length using Nat.strongRecOn generalizing words with
  | ind n ih =>
      cases words with
      | nil =>
          refine ⟨[], .refl [], fun word next h => ?_⟩
          cases h
      | cons word next =>
          rw [walk_cons]
          by_cases hends : (d.step word next).endsOptions
          · rw [if_pos hends]
            refine ⟨word :: next, .refl _, fun word' next' h => ?_⟩
            obtain ⟨rfl, rfl⟩ := List.cons.inj h
            exact hends
          · obtain ⟨hone, hfits⟩ := consumed_step d word next
            have hshorter : ((word :: next).drop (d.step word next).consumed).length < n := by
              rw [List.length_drop, hlength]
              simp only [List.length_cons] at hlength
              omega
            obtain ⟨rest, hreaches, hrest⟩ := ih _ hshorter _ rfl
            rw [if_neg hends]
            exact ⟨rest, .step (by simpa using hends) hfits hreaches, hrest⟩

/-- **A closed command line.**  The walk meets no switch that ends the options,
and does not come to a last word that waits for an argument. -/
structure Closed (d : Dialect) (words : List Text) : Prop where
  goes_on : ∀ steps word next, d.Reaches words steps (word :: next) →
    (d.step word next).endsOptions = false
  settled : ∀ steps word, d.Reaches words steps [word] → ¬ d.Awaits word

theorem closed_nil (d : Dialect) : d.Closed [] := by
  constructor
  · intro steps word next hreaches
    cases hreaches
  · intro steps word hreaches
    cases hreaches

/-- A command line is closed if its first step goes on to a closed one. -/
theorem Closed.cons {step : Step} (hstep : d.step word next = step)
    (hgoes : step.endsOptions = false) (hsettled : next = [] → ¬ d.Awaits word)
    (h : d.Closed ((word :: next).drop step.consumed)) : d.Closed (word :: next) := by
  subst hstep
  constructor
  · intro steps word' next' hreaches
    cases hreaches with
    | refl => exact hgoes
    | step _ _ tail => exact h.goes_on _ word' next' tail
  · intro steps word' hreaches
    cases hreaches with
    | refl => exact hsettled rfl
    | step _ _ tail => exact h.settled _ word' tail

/-- After a step of its walk, a closed command line is closed. -/
theorem Closed.drop (h : d.Closed (word :: next)) :
    d.Closed ((word :: next).drop (d.step word next).consumed) := by
  have hgoes := h.goes_on [] word next (.refl _)
  have hfits := (consumed_step d word next).2
  exact ⟨fun steps word' next' hreaches =>
      h.goes_on _ word' next' (.step hgoes hfits hreaches),
    fun steps word' hreaches => h.settled _ word' (.step hgoes hfits hreaches)⟩

/-- The walk over a closed command line leaves no words. -/
theorem Closed.reaches_nil {words : List Text} (h : d.Closed words) :
    d.Reaches words (d.walk words) [] := by
  obtain ⟨rest, hreaches, hrest⟩ := reaches_walk d words
  cases rest with
  | nil => exact hreaches
  | cons word next =>
      have hgoes := h.goes_on _ word next hreaches
      rw [hrest word next rfl] at hgoes
      cases hgoes

/-- **The walk goes on behind a closed command line** as if it began there. -/
theorem walk_append {xs : List Text} (h : d.Closed xs) (ys : List Text) :
    d.walk (xs ++ ys) = d.walk xs ++ d.walk ys := by
  have hreaches := h.reaches_nil
  generalize d.walk xs = steps at hreaches ⊢
  generalize hrest : ([] : List Text) = rest at hreaches
  induction hreaches with
  | refl words =>
      subst hrest
      rfl
  | @step word next rest steps hgoes hfits tail ih =>
      have hnext : next ≠ [] ∨ ¬ d.Awaits word := by
        cases next with
        | nil => exact .inr (h.settled [] word (.refl _))
        | cons _ _ => exact .inl (List.cons_ne_nil _ _)
      rw [List.cons_append, walk_cons, step_append hnext, if_neg (by simp [hgoes]),
        ← List.cons_append, List.drop_append_of_le_length hfits, ih h.drop hrest,
        List.cons_append]

/-- The switches of a command line, in order. -/
def switches (d : Dialect) (words : List Text) : List Match :=
  (d.walk words).filterMap Step.switch?

/-- The link switch ends the options. -/
theorem step_link (next : List Text) {word : Text}
    (hword : word = "/link".toList ∨ word = "-link".toList) :
    (msvc.step word next).endsOptions = true := by
  have honly : ∀ other ∈ msvc.table, other ≠ ⟨.bare, "/link".toList, .endOfOptions⟩ →
      Text.after? other.switch "/link".toList = none := by
    decide
  have hcanonical : msvc.canonical? word = some "/link".toList := by
    rcases hword with rfl | rfl <;> rfl
  have hfile : ¬ (word.head? == some '@') = true := by
    rcases hword with rfl | rfl <;> decide
  have hmatch : msvc.match? (word :: next) = some ⟨.endOfOptions, none, 1⟩ :=
    match?_eq_some_of_only hcanonical (by decide) rfl fun other hother hne =>
      Rule.accept?_eq_none (honly other hother hne) next
  rw [step, if_neg hfile, hmatch]
  rfl

end Dialect

end Switch

namespace Invocation

open Switch

/-- A part of an invocation to which each step adds what it says by itself. -/
theorem foldl_addStep_append {α : Type} (part : Invocation → List α) (hempty : part empty = [])
    (hstep : ∀ i step, part (i.addStep step) = part i ++ part (empty.addStep step))
    (i : Invocation) (steps : List Step) :
    part (steps.foldl addStep i) = part i ++ part (steps.foldl addStep empty) := by
  induction steps generalizing i with
  | nil => exact (congrArg (part i ++ ·) hempty).trans (List.append_nil _) |>.symm
  | cons step steps ih =>
      rw [List.foldl_cons, List.foldl_cons, ih, ih (empty.addStep step), hstep,
        List.append_assoc]

/-- The effect of some switches on the features, in order. -/
def applyFeatures (features : FeatureSet) (found : List Match) : FeatureSet :=
  found.foldl (fun known m => updateFeatures known m.meaning (m.argument.getD [])) features

/-- The features are changed by the switches, one after the other. -/
theorem features_foldl_addStep (i : Invocation) (steps : List Step) :
    (steps.foldl addStep i).features =
      applyFeatures i.features (steps.filterMap Step.switch?) := by
  induction steps generalizing i with
  | nil => rfl
  | cons step steps ih =>
      rw [List.foldl_cons, ih]
      cases step <;> rfl

/-- After closed words a walk goes on as if it had begun there. -/
theorem ofWords_append {d : Dialect} {xs : List Text} (h : d.Closed xs) (ys : List Text) :
    ofWords d (xs ++ ys) = (d.walk ys).foldl addStep (ofWords d xs) := by
  rw [ofWords, Dialect.walk_append h, List.foldl_append, ofWords]

/-- After the link switch nothing counts. -/
theorem ofWords_append_link {xs : List Text} (h : Dialect.msvc.Closed xs) {word : Text}
    (hword : word = "/link".toList ∨ word = "-link".toList) (ys : List Text) :
    ofWords .msvc (xs ++ word :: ys) = ofWords .msvc xs := by
  have hends : Dialect.msvc.walk (word :: ys) = [] := by
    rw [Dialect.walk_cons, if_pos (Dialect.step_link ys hword)]
  rw [ofWords_append h, hends]
  rfl

/-- **Command lines compose.**  The walk over any command line takes words off
its front, each of them once and never more than there are, until none is left
or a switch ends the options.  Behind a closed command line, the words of
another one add their sources, directories and macros, and their switches act
on the features in order; and what stands behind `/link` says nothing. -/
theorem ofWords_composes (d : Dialect) (xs : List Text) :
    (∃ passed rest, xs = passed ++ rest ∧ d.Reaches xs (d.walk xs) rest ∧
      passed.length = ((d.walk xs).map Step.consumed).sum ∧
      ∀ word next, rest = word :: next → (d.step word next).endsOptions) ∧
    (d.Closed xs → ∀ ys,
      (ofWords d (xs ++ ys)).sources = (ofWords d xs).sources ++ (ofWords d ys).sources ∧
      (ofWords d (xs ++ ys)).includeDirectories =
        (ofWords d xs).includeDirectories ++ (ofWords d ys).includeDirectories ∧
      (ofWords d (xs ++ ys)).macroSwitches =
        (ofWords d xs).macroSwitches ++ (ofWords d ys).macroSwitches ∧
      (ofWords d (xs ++ ys)).features =
        applyFeatures (ofWords d xs).features (d.switches ys) ∧
      (d = .msvc → ofWords d (xs ++ "/link".toList :: ys) = ofWords d xs ∧
        ofWords d (xs ++ "-link".toList :: ys) = ofWords d xs)) := by
  refine ⟨?_, fun hclosed ys => ?_⟩
  · obtain ⟨rest, hreaches, hrest⟩ := d.reaches_walk xs
    obtain ⟨passed, hpassed, hlength⟩ := hreaches.passed
    exact ⟨passed, rest, hpassed, hreaches, hlength, hrest⟩
  · rw [ofWords_append hclosed]
    refine ⟨?_, ?_, ?_, ?_, ?_⟩
    · refine foldl_addStep_append sources rfl (fun i step => ?_) _ _
      cases step <;> simp [addStep, addSwitch, empty]
    · refine foldl_addStep_append includeDirectories rfl (fun i step => ?_) _ _
      cases step <;> simp [addStep, addSwitch, empty]
    · refine foldl_addStep_append macroSwitches rfl (fun i step => ?_) _ _
      cases step <;> simp [addStep, addSwitch, empty]
    · exact features_foldl_addStep _ _
    · rintro rfl
      exact ⟨ofWords_append_link hclosed (.inl rfl) ys,
        ofWords_append_link hclosed (.inr rfl) ys⟩

/-- A directory of the name `/link` does not end the options. -/
theorem ofWords_composes_directory :
    Dialect.msvc.Closed ["/I".toList, "/link".toList, "a.cpp".toList] ∧
      ∀ ys, (ofWords .msvc (["/I".toList, "/link".toList, "a.cpp".toList] ++ ys)).sources =
          "a.cpp".toList :: (ofWords .msvc ys).sources ∧
        (ofWords .msvc (["/I".toList, "/link".toList, "a.cpp".toList] ++
          "-link".toList :: ys)).includeDirectories = ["/link".toList] := by
  have hdirectory : Dialect.msvc.step "/I".toList ["/link".toList, "a.cpp".toList] =
      .switch ⟨.includeDirectory, some "/link".toList, 2⟩ := by
    cbv
  have hsource : Dialect.msvc.step "a.cpp".toList [] = .sourceFile "a.cpp".toList := by cbv
  have hsettled : ¬ Dialect.msvc.Awaits "a.cpp".toList := by
    rintro ⟨rule, -, -, hcanonical⟩
    cases hcanonical
  have hclosed : Dialect.msvc.Closed ["/I".toList, "/link".toList, "a.cpp".toList] :=
    .cons hdirectory rfl (fun h => absurd h (List.cons_ne_nil _ _))
      (.cons hsource rfl (fun _ => hsettled) (Dialect.closed_nil _))
  have hwords : Dialect.msvc.walk ["/I".toList, "/link".toList, "a.cpp".toList] =
      [.switch ⟨.includeDirectory, some "/link".toList, 2⟩, .sourceFile "a.cpp".toList] := by
    have hrest : Dialect.msvc.walk ["a.cpp".toList] = [.sourceFile "a.cpp".toList] := by
      rw [Dialect.walk_cons, hsource]
      rfl
    rw [Dialect.walk_cons, hdirectory]
    exact congrArg (_ :: ·) hrest
  refine ⟨hclosed, fun ys => ?_⟩
  obtain ⟨hsources, -, -, -, hlink⟩ := (ofWords_composes .msvc _).2 hclosed ys
  constructor
  · rw [hsources, ofWords, hwords]
    rfl
  · rw [(hlink rfl).2, ofWords, hwords]
    rfl

end Invocation

end BuildEnv
