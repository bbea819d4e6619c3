import BuildEnv.Proofs.Switch.Table

/-!
# The words that a walk meets

A switch of the Microsoft compiler can stand at a word that is not the argument
of the switch before it, and that is not for the linker.  Which words these are
is said here without the rules and without the walk (`met`): nine switches take
the next word where no argument is glued to them, and one switch ends the
options.

The walk makes its steps at these words and at no others
(`Dialect.met_of_goes`, `Dialect.met_of_endsOptions`), since a step ends the
options at this one switch only (`Dialect.endsOptions_step_iff`), and takes two
words at these nine only (`Dialect.consumed_step_eq_two_iff`).
-/

namespace BuildEnv

namespace Switch

/-- The switches that take the next word for their argument, where none is glued to
them. -/
def awaiting : List Text :=
  ["I", "external:I", "D", "U", "FI", "AI", "FU", "Tp", "Tc"].map String.toList

/-- Whether the word is a switch whose argument is the next word. -/
def awaits (word : Text) : Bool :=
  (unmarked? word).any awaiting.contains

/-- The test for switches that wait for an argument. -/
theorem awaits_iff {word : Text} : awaits word ↔ ∃ name ∈ awaiting, unmarked? word = some name := by
  unfold awaits
  cases unmarked? word <;> simp

/-- The words at which a switch of the Microsoft compiler can stand, in order:
neither the arguments that switches take from the next word, nor what is for the
linker.  No rule and no walk are used to say it. -/
def met : List Text → List Text
  | [] => []
  | [word] => if unmarked? word = some "link".toList then [] else [word]
  | word :: argument :: later =>
    if unmarked? word = some "link".toList then []
    else if awaits word then word :: met later
    else word :: met (argument :: later)

/-- The switches that are met, without their marks. -/
def marked (words : List Text) : List Text :=
  (met words).filterMap unmarked?

/-- Before the linker part a word is met, and its argument is passed. -/
theorem met_cons {word : Text} {next : List Text} (h : unmarked? word ≠ some "link".toList) :
    met (word :: next) = word :: met (next.drop (if awaits word then 1 else 0)) := by
  cases next with
  | nil => rw [met, if_neg h, List.drop_nil, met]
  | cons argument later =>
      rw [met, if_neg h]
      split <;> rfl

/-- The linker is called by one rule. -/
theorem switch_eq_link_iff : ∀ rule ∈ msvcTable,
    rule.meaning = .endOfOptions → rule = ⟨.bare, "/link".toList, .endOfOptions⟩ := by
  decide

/-- The switches that await an argument have rules, and no other rules have such
switches. -/
theorem mem_awaiting_iff : (∀ rule ∈ msvcTable, rule.shape = .gluedOrNext →
      rule.switch.tail ∈ awaiting ∧ rule.switch = '/' :: rule.switch.tail) ∧
    ∀ name ∈ awaiting, ∃ rule ∈ msvcTable, rule.shape = .gluedOrNext ∧
      rule.switch = '/' :: name ∧ rule.meaning.concerns .clr = false := by
  decide

/-- A rule takes two words if its switch stands alone and awaits an argument. -/
theorem Rule.consumed_eq_two_iff {rule : Rule} {word : Text} {next : List Text} {found : Match}
    (h : rule.accept? word next = some found) :
    found.consumed = 2 ↔ rule.shape = .gluedOrNext ∧ word = rule.switch := by
  unfold accept? at h
  split at h
  · next hshape =>
    obtain rfl := Option.some.inj h
    simp [hshape]
  · next hafter hshape =>
    have hword : word = rule.switch := by simpa using Text.after?_eq_some_iff.mp hafter
    cases next with
    | nil => cases h
    | cons argument later =>
        obtain rfl := Option.some.inj h
        simp [hshape, hword]
  · next hafter hshape =>
    have hword : word ≠ rule.switch := by
      rintro rfl
      simpa using Text.after?_eq_some_iff.mp hafter
    obtain rfl := Option.some.inj h
    simp [hword]
  · next hshape =>
    obtain rfl := Option.some.inj h
    simp [hshape]
  · cases h

/-- A switch that stands alone takes the next word, if its rule says so. -/
theorem Rule.accept?_next {rule : Rule} (hshape : rule.shape = .gluedOrNext) (argument : Text)
    (later : List Text) :
    rule.accept? rule.switch (argument :: later) = some ⟨rule.meaning, some argument, 2⟩ := by
  have hafter : Text.after? rule.switch rule.switch = some [] :=
    Text.after?_eq_some_iff.mpr (List.append_nil _).symm
  simp only [accept?, hafter, hshape]

namespace Dialect

variable {word : Text} {next : List Text}

/-- **Where the options end**: at the switch for the linker. -/
theorem endsOptions_step_iff :
    (msvc.step word next).endsOptions ↔ unmarked? word = some "link".toList := by
  constructor
  · intro h
    cases hstep : msvc.step word next with
    | switch found =>
        obtain ⟨switch, rule, hcanonical, hrule, haccept⟩ := exists_rule_of_step hstep
        obtain ⟨name, -, hword, rfl⟩ := canonical?_eq_some_iff.mp hcanonical
        obtain ⟨hmeaning, hshape⟩ := Rule.of_accept? haccept
        have hends : rule.meaning = .endOfOptions := by
          rw [hstep] at h
          rw [← hmeaning]
          exact beq_iff_eq.mp h
        obtain rfl := switch_eq_link_iff rule hrule hends
        obtain ⟨hswitch, -⟩ | ⟨_, -, -, hbare, -⟩ := hshape
        · rw [hword, (List.cons.inj hswitch).2]
          rfl
        · exact absurd rfl hbare
    | _ =>
        rw [hstep] at h
        cases h
  · intro h
    refine step_link next ?_
    unfold unmarked? at h
    split at h
    · exact .inl (congrArg _ (Option.some.inj h))
    · exact .inr (congrArg _ (Option.some.inj h))
    · cases h

/-- **What a step takes**: two words, if the first one awaits an argument and there
is one. -/
theorem consumed_step_eq_two_iff :
    (msvc.step word next).consumed = 2 ↔ awaits word ∧ next ≠ [] := by
  rw [awaits_iff]
  constructor
  · intro h
    have hnext : next ≠ [] := by
      rintro rfl
      have hfits := (consumed_step msvc word []).2
      rw [h] at hfits
      cases Nat.le_of_succ_le_succ hfits
    refine ⟨?_, hnext⟩
    cases hstep : msvc.step word next with
    | switch found =>
        obtain ⟨switch, rule, hcanonical, hrule, haccept⟩ := exists_rule_of_step hstep
        obtain ⟨name, -, hword, rfl⟩ := canonical?_eq_some_iff.mp hcanonical
        rw [hstep] at h
        obtain ⟨hshape, hswitch⟩ := (Rule.consumed_eq_two_iff haccept).mp h
        have hname := (mem_awaiting_iff.1 rule hrule hshape).1
        rw [← hswitch, List.tail_cons] at hname
        exact ⟨name, hname, hword⟩
    | _ =>
        rw [hstep] at h
        cases h
  · rintro ⟨⟨name, hname, hword⟩, hnext⟩
    obtain ⟨rule, hrule, hshape, hswitch, hclr⟩ := mem_awaiting_iff.2 name hname
    obtain ⟨argument, later, rfl⟩ := List.exists_cons_of_ne_nil hnext
    have hcanonical : msvc.canonical? word = some rule.switch := by
      have hne : ∀ name ∈ awaiting, name ≠ [] := by decide
      exact canonical?_eq_some_iff.mpr ⟨name, hne name hname, hword, hswitch⟩
    have hmatch := match?_msvc hcanonical hrule hclr (Rule.accept?_next hshape argument later)
    rw [step, if_neg (by simpa using head?_ne_of_unmarked? hword), hmatch]
    rfl

/-- A step takes one word or two. -/
theorem consumed_step_eq (d : Dialect) (word : Text) (next : List Text) :
    (d.step word next).consumed = 1 ∨ (d.step word next).consumed = 2 := by
  cases hstep : d.step word next with
  | switch found =>
      obtain ⟨_, _, _, _, haccept⟩ := exists_rule_of_step hstep
      exact (Rule.consumed_of_accept? haccept).imp_right And.left
  | _ => exact .inl rfl

/-- Where the walk ends the options, no further word is met. -/
theorem met_of_endsOptions (h : (msvc.step word next).endsOptions) : met (word :: next) = [] := by
  have hlink := endsOptions_step_iff.mp h
  cases next <;> rw [met, if_pos hlink]

/-- Where the walk goes on, the word is met and then those from where the step ends. -/
theorem met_of_goes (h : ¬ (msvc.step word next).endsOptions) :
    met (word :: next) = word :: met ((word :: next).drop (msvc.step word next).consumed) := by
  have hrest : next.drop (if awaits word then 1 else 0) =
      (word :: next).drop (msvc.step word next).consumed := by
    by_cases htwo : awaits word ∧ next ≠ []
    · rw [if_pos htwo.1, consumed_step_eq_two_iff.mpr htwo]
      rfl
    · rw [(consumed_step_eq msvc word next).resolve_right (mt consumed_step_eq_two_iff.mp htwo)]
      by_cases hawaits : awaits word
      · obtain rfl : next = [] := not_not.mp fun hne => htwo ⟨hawaits, hne⟩
        exact List.drop_nil
      · rw [if_neg hawaits]
        rfl
  rw [met_cons (mt endsOptions_step_iff.mpr h), hrest]

/-- **Induction along the walk.** -/
theorem walk_induction (d : Dialect) {motive : List Text → Prop} (nil : motive [])
    (ends : ∀ word next, (d.step word next).endsOptions → motive (word :: next))
    (goes : ∀ word next, ¬ (d.step word next).endsOptions →
      motive ((word :: next).drop (d.step word next).consumed) → motive (word :: next))
    (words : List Text) : motive words := by
  induction hlength : words.length using Nat.strongRecOn generalizing words with
  | ind n ih =>
      cases words with
      | nil => exact nil
      | cons word next =>
          by_cases hends : (d.step word next).endsOptions
          · exact ends word next hends
          · refine goes word next hends (ih _ ?_ _ rfl)
            rw [(consumed_step d word next).1, List.drop_succ_cons, List.length_drop]
            simp only [List.length_cons] at hlength
            omega

end Dialect

end Switch

end BuildEnv
