import BuildEnv.Proofs.Switch.Table

/-!
# The words that define and remove macros

Each dialect has one switch that defines a macro and one that removes it.  Both
take what is glued to them, or else the next word, for their argument
(`Switch.Dialect.argumentOf?`).  No other switch of the dialect takes their
words (`Switch.Dialect.accept?_eq_filter`), whatever the order of the rules.

`Invocation.macroSwitches_ofWords_cons` says what the explicit macros of a command
line are, word by word and from left to right.
-/

namespace BuildEnv

namespace Switch

/-- The argument of a switch that takes one. -/
theorem Rule.bind_accept? {rule : Rule} (hshape : rule.shape = .gluedOrNext) (word : Text)
    (next : List Text) :
    (rule.accept? word next).bind Match.argument =
      (Text.after? rule.switch word).bind fun
        | [] => next.head?
        | argument => some argument := by
  unfold accept?
  cases Text.after? rule.switch word with
  | none => rfl
  | some argument =>
      rw [hshape]
      cases argument with
      | cons c rest => rfl
      | nil => cases next <;> rfl

/-- A rule that asks for an argument matches with one. -/
theorem Rule.exists_argument {rule : Rule} {word : Text} {next : List Text} {found : Match}
    (hshape : rule.shape = .gluedOrNext) (h : rule.accept? word next = some found) :
    ∃ argument, found.argument = some argument := by
  unfold accept? at h
  rw [hshape] at h
  split at h
  · next heq => cases heq
  · cases next with
    | nil => cases h
    | cons argument later =>
        obtain rfl := Option.some.inj h
        exact ⟨argument, rfl⟩
  · obtain rfl := Option.some.inj h
    exact ⟨_, rfl⟩
  · next heq => cases heq
  · cases h

namespace Dialect

/-- The switch that defines a macro. -/
def defineSwitch : Dialect → Text
  | msvc => "/D".toList
  | gcc => "-D".toList

/-- The switch that removes a macro. -/
def undefineSwitch : Dialect → Text
  | msvc => "/U".toList
  | gcc => "-U".toList

/-- The argument of a switch at the front of some words: what is glued to it, or
else the next word. -/
def argumentOf? (d : Dialect) (switch word : Text) (next : List Text) : Option Text :=
  (d.canonical? word).bind fun canonical =>
    (Text.after? switch canonical).bind fun
      | [] => next.head?
      | argument => some argument

/-- What the word at the front says about macros. -/
def macrosAt (d : Dialect) (word : Text) (next : List Text) : List MacroSwitch :=
  (d.argumentOf? d.defineSwitch word next).toList.flatMap (Invocation.macroSwitchesOf .define) ++
    (d.argumentOf? d.undefineSwitch word next).toList.flatMap
      (Invocation.macroSwitchesOf .undefine)

/-- A rule that is apart from all others, and alone with its meaning. -/
structure Sole (d : Dialect) (rule : Rule) : Prop where
  mem : rule ∈ d.table
  apart : ∀ other ∈ d.table, other ≠ rule → rule.Apart other
  alone : ∀ other ∈ d.table, other.meaning = rule.meaning → other = rule

/-- Nothing else in the tables defines macros or begins like the switch that does. -/
theorem sole_define (d : Dialect) : d.Sole ⟨.gluedOrNext, d.defineSwitch, .define⟩ := by
  cases d with
  | msvc => exact ⟨by decide, by decide +kernel, by decide⟩
  | gcc => exact ⟨by decide, by decide +kernel, by decide⟩

theorem sole_undefine (d : Dialect) : d.Sole ⟨.gluedOrNext, d.undefineSwitch, .undefine⟩ := by
  cases d with
  | msvc => exact ⟨by decide, by decide +kernel, by decide⟩
  | gcc => exact ⟨by decide, by decide +kernel, by decide⟩

variable {d : Dialect} {rule : Rule}

/-- **A sole rule** takes a word exactly if the switch of the word has its
meaning. -/
theorem accept?_eq_filter (h : d.Sole rule) (word : Text) (next : List Text) :
    ((d.canonical? word).bind fun canonical => rule.accept? canonical next) =
      (d.match? (word :: next)).filter fun found => found.meaning = rule.meaning := by
  have honly : ∀ canonical found, d.canonical? word = some canonical →
      rule.accept? canonical next = some found → d.match? (word :: next) = some found := by
    intro canonical found hcanonical haccept
    refine match?_eq_some_of_only hcanonical h.mem haccept ?_
    intro other hother hne
    exact (h.apart other hother hne).accept?_eq_none haccept
  cases hmatch : d.match? (word :: next) with
  | none =>
      refine Option.bind_eq_none_iff.mpr ?_
      intro canonical hcanonical
      cases haccept : rule.accept? canonical next with
      | none => rfl
      | some found =>
          rw [honly canonical found hcanonical haccept] at hmatch
          cases hmatch
  | some found =>
      obtain ⟨canonical, other, hcanonical, hother, haccept⟩ := exists_rule_of_match? hmatch
      have hmeaning : found.meaning = other.meaning := (Rule.of_accept? haccept).1
      rw [hcanonical, Option.bind_some]
      by_cases hsame : other = rule
      · subst hsame
        rw [haccept, Option.filter_some, if_pos (decide_eq_true hmeaning)]
      · have hnone : rule.accept? canonical next = none := by
          cases hrule : rule.accept? canonical next with
          | none => rfl
          | some found' =>
              rw [(h.apart other hother hsame).accept?_eq_none hrule] at haccept
              cases haccept
        have hdiffers : ¬ found.meaning = rule.meaning := by
          intro heq
          exact hsame (h.alone other hother (hmeaning.symm.trans heq))
        rw [hnone, Option.filter_some, if_neg (by simpa using hdiffers)]

/-- The argument of a sole rule is the one of the switch, if the switch has its
meaning. -/
theorem argumentOf?_eq (h : d.Sole rule) (hshape : rule.shape = .gluedOrNext) (word : Text)
    (next : List Text) :
    d.argumentOf? rule.switch word next =
      ((d.match? (word :: next)).filter fun found => found.meaning = rule.meaning).bind
        Match.argument := by
  rw [← accept?_eq_filter h, Option.bind_assoc]
  simp only [Rule.bind_accept? hshape]
  rfl

end Dialect

/-- The explicit macros of a step. -/
def Step.macroSwitches : Step → List MacroSwitch
  | .switch found => Invocation.macroSwitchesOf found.meaning (found.argument.getD [])
  | _ => []

namespace Dialect

variable {d : Dialect}

/-- A match that defines or removes a macro has an argument. -/
theorem exists_argument_of_match? {rule : Rule} {word : Text} {next : List Text} {found : Match}
    (h : d.Sole rule) (hshape : rule.shape = .gluedOrNext)
    (hmatch : d.match? (word :: next) = some found) (hmeaning : found.meaning = rule.meaning) :
    ∃ argument, found.argument = some argument := by
  obtain ⟨canonical, other, -, hother, haccept⟩ := exists_rule_of_match? hmatch
  obtain rfl := h.alone other hother ((Rule.of_accept? haccept).1.symm.trans hmeaning)
  exact Rule.exists_argument hshape haccept

/-- A word that begins with `@` is no switch, so that the step is the switch that
the words begin with, if there is one. -/
theorem macroSwitches_step_of_match? (d : Dialect) (word : Text) (next : List Text) :
    (d.step word next).macroSwitches =
      (d.match? (word :: next)).toList.flatMap fun found =>
        Invocation.macroSwitchesOf found.meaning (found.argument.getD []) := by
  by_cases hfile : word.head? = some '@'
  · obtain ⟨rest, rfl⟩ := List.head?_eq_some_iff.mp hfile
    have hcanonical : d.canonical? ('@' :: rest) = none := by cases d <;> rfl
    rw [match?, matchBy?, hcanonical]
    rfl
  · cases hmatch : d.match? (word :: next) with
    | none =>
        rw [step_of_match?_eq_none hfile hmatch]
        split <;> rfl
    | some found =>
        rw [step, if_neg (by simpa using hfile), hmatch, Option.toList_some, List.flatMap_singleton]
        rfl

/-- **One word.**  The step at a word says about macros what the word does. -/
theorem macroSwitches_step (d : Dialect) (word : Text) (next : List Text) :
    (d.step word next).macroSwitches = d.macrosAt word next := by
  have hdefine := argumentOf?_eq d.sole_define rfl word next
  have hundefine := argumentOf?_eq d.sole_undefine rfl word next
  rw [macrosAt, hdefine, hundefine, macroSwitches_step_of_match?]
  cases hmatch : d.match? (word :: next) with
  | none => rfl
  | some found =>
      cases hmeaning : found.meaning with
      | define =>
          obtain ⟨argument, hargument⟩ :=
            exists_argument_of_match? d.sole_define rfl hmatch hmeaning
          simp [Option.filter_some, hmeaning, hargument]
      | undefine =>
          obtain ⟨argument, hargument⟩ :=
            exists_argument_of_match? d.sole_undefine rfl hmatch hmeaning
          simp [Option.filter_some, hmeaning, hargument]
      | _ => simp [Option.filter_some, hmeaning, Invocation.macroSwitchesOf]

/-- All words are read with the switches of GCC. -/
theorem endsOptions_gcc (word : Text) (next : List Text) :
    (gcc.step word next).endsOptions = false := by
  have htable : ∀ rule ∈ gcc.table, rule.meaning ≠ .endOfOptions := by decide
  cases hstep : gcc.step word next with
  | switch found =>
      obtain ⟨canonical, rule, -, hrule, haccept⟩ := exists_rule_of_step hstep
      have hmeaning : found.meaning = rule.meaning := (Rule.of_accept? haccept).1
      have hne := htable rule hrule
      simpa [Step.endsOptions, hmeaning] using hne
  | _ => rfl

end Dialect

end Switch

namespace Invocation

open Switch

/-- The macro switches of an invocation are those of its steps. -/
theorem macroSwitches_foldl_addStep (steps : List Step) :
    (steps.foldl addStep empty).macroSwitches = steps.flatMap Step.macroSwitches := by
  induction steps with
  | nil => rfl
  | cons step rest ih =>
      have happend := foldl_addStep_append macroSwitches rfl (fun i step => by
        cases step <;> simp [addStep, addSwitch, empty]) (empty.addStep step) rest
      have hstep : (empty.addStep step).macroSwitches = step.macroSwitches := by
        cases step <;> rfl
      rw [List.foldl_cons, happend, ih, hstep, List.flatMap_cons]

/-- **The explicit macros of a command line**, from left to right: those of the first
word, and then those of the words behind what its switch takes. -/
theorem macroSwitches_ofWords_cons (d : Dialect) (word : Text) (next : List Text) :
    (ofWords d (word :: next)).macroSwitches =
      if (d.step word next).endsOptions then []
      else d.macrosAt word next ++
        (ofWords d ((word :: next).drop (d.step word next).consumed)).macroSwitches := by
  simp only [ofWords, macroSwitches_foldl_addStep]
  rw [Dialect.walk_cons]
  split
  · rfl
  · rw [List.flatMap_cons, Dialect.macroSwitches_step]

end Invocation

end BuildEnv
