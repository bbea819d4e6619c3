import BuildEnv.Proofs.Switch.Composition

/-!
# The rules of a table do not compete

Rules are tried with the longest switch first, but for nearly all of them the
order does not matter: two rules of the Microsoft table never take the same
word, unless both are about `/clr` (`msvcTable_apart`).  So a rule that takes a
word is the one that counts, whatever stands next to it in the table
(`Dialect.match?_msvc`).

The switches of this table are written with a slash or with a dash.
`unmarked?` takes the mark off, and a word without a mark is no switch.
-/

namespace BuildEnv

namespace Switch

namespace Rule

variable {rule other : Rule} {word : Text} {next : List Text} {found : Match}

/-- A rule takes its switch alone, or with an argument behind it. -/
theorem of_accept? (h : rule.accept? word next = some found) :
    found.meaning = rule.meaning ∧
      ((word = rule.switch ∧ rule.shape ≠ .glued) ∨
        ∃ argument, word = rule.switch ++ argument ∧ argument ≠ [] ∧ rule.shape ≠ .bare ∧
          found.argument = some argument) := by
  unfold accept? at h
  split at h
  · next hafter hshape =>
      obtain rfl := Option.some.inj h
      refine ⟨rfl, .inl ⟨?_, by simp [hshape]⟩⟩
      simpa using Text.after?_eq_some_iff.mp hafter
  · next hafter hshape =>
      cases next with
      | nil => cases h
      | cons argument later =>
          obtain rfl := Option.some.inj h
          refine ⟨rfl, .inl ⟨?_, by simp [hshape]⟩⟩
          simpa using Text.after?_eq_some_iff.mp hafter
  · next c rest hafter hshape =>
      obtain rfl := Option.some.inj h
      exact ⟨rfl, .inr ⟨c :: rest, Text.after?_eq_some_iff.mp hafter, List.cons_ne_nil _ _,
        by simp [hshape], rfl⟩⟩
  · next c rest hafter hshape =>
      obtain rfl := Option.some.inj h
      exact ⟨rfl, .inr ⟨c :: rest, Text.after?_eq_some_iff.mp hafter, List.cons_ne_nil _ _,
        by simp [hshape], rfl⟩⟩
  · cases h

/-- A rule without an argument takes its switch. -/
theorem accept?_bare (hshape : rule.shape = .bare) (next : List Text) :
    rule.accept? rule.switch next = some ⟨rule.meaning, none, 1⟩ := by
  have hafter : Text.after? rule.switch rule.switch = some [] :=
    Text.after?_eq_some_iff.mpr (List.append_nil _).symm
  simp only [accept?, hafter, hshape]

/-- A rule with a glued argument takes its switch with the argument behind. -/
theorem accept?_glued (hshape : rule.shape = .glued) {argument : Text} (hargument : argument ≠ [])
    (next : List Text) :
    rule.accept? (rule.switch ++ argument) next = some ⟨rule.meaning, some argument, 1⟩ := by
  obtain ⟨c, rest, rfl⟩ := List.exists_cons_of_ne_nil hargument
  have hafter : Text.after? rule.switch (rule.switch ++ c :: rest) = some (c :: rest) :=
    Text.after?_eq_some_iff.mpr rfl
  simp only [accept?, hafter, hshape]

/-- Whether the switch of a rule begins the one of another, so that the rule
takes what the other switch goes on with for an argument. -/
def covers (rule other : Rule) : Bool :=
  rule.shape ≠ .bare && (Text.after? rule.switch other.switch).isSome

/-- The rules have different switches, and neither takes the switch of the other
for its own with an argument. -/
def Apart (rule other : Rule) : Prop :=
  rule.switch ≠ other.switch ∧ rule.covers other = false ∧ other.covers rule = false

instance : Decidable (Apart rule other) :=
  inferInstanceAs (Decidable (_ ∧ _ ∧ _))

theorem Apart.symm (h : rule.Apart other) : other.Apart rule :=
  ⟨h.1.symm, h.2.2, h.2.1⟩

/-- If the switch of one rule begins the one of another, and they are apart, then
the shorter one stands alone in its words. -/
theorem Apart.not_accept?_append (h : rule.Apart other) {more : Text}
    (hmore : other.switch = rule.switch ++ more) (rest : Text) :
    rule.accept? (other.switch ++ rest) next = none := by
  cases haccept : rule.accept? (other.switch ++ rest) next with
  | none => rfl
  | some found =>
      have hne : more ≠ [] := by
        rintro rfl
        exact h.1 (by simpa using hmore.symm)
      have hbare : rule.shape = .bare := by
        have hcovers := h.2.1
        simpa [covers, Text.after?_eq_some_iff.mpr hmore] using hcovers
      obtain ⟨-, ⟨hword, -⟩ | ⟨_, -, -, hshape, -⟩⟩ := of_accept? haccept
      · have hnil : more ++ rest = [] := by
          simpa [hmore] using hword
        exact absurd (List.append_eq_nil_iff.mp hnil).1 hne
      · exact absurd hbare hshape

/-- Rules that are apart do not take the same word. -/
theorem Apart.accept?_eq_none (h : rule.Apart other) (hrule : rule.accept? word next = some found) :
    other.accept? word next = none := by
  have hbegin : ∀ {r : Rule} {m : Match}, r.accept? word next = some m →
      ∃ rest, word = r.switch ++ rest := by
    intro r m hr
    obtain ⟨-, ⟨hword, -⟩ | ⟨argument, hword, -⟩⟩ := of_accept? hr
    · exact ⟨[], by rw [hword, List.append_nil]⟩
    · exact ⟨argument, hword⟩
  cases hother : other.accept? word next with
  | none => rfl
  | some found' =>
      obtain ⟨rest, hword⟩ := hbegin hrule
      obtain ⟨rest', hword'⟩ := hbegin hother
      have hsame : rule.switch ++ rest = other.switch ++ rest' := hword.symm.trans hword'
      rcases List.append_eq_append_iff.mp hsame with ⟨more, hmore, -⟩ | ⟨more, hmore, -⟩
      · rw [hword', h.not_accept?_append hmore] at hrule
        cases hrule
      · rw [hword, h.symm.not_accept?_append hmore] at hother
        cases hother

end Rule

/-- Whether the meaning can change that a feature is there. -/
def Meaning.concerns (meaning : Meaning) (f : Feature) : Bool :=
  match meaning with
  | .exceptionModel => f == .exceptions
  | .instructionSet => Feature.instructionSets.contains f
  | .languageStandard => Feature.languageStandards.contains f
  | .enables more => more.contains f
  | .disables fewer => fewer.contains f
  | _ => false

/-- **No two rules take the same word**, but for those about `/clr`. -/
theorem msvcTable_apart : ∀ rule ∈ msvcTable, ∀ other ∈ msvcTable, rule ≠ other →
    rule.meaning.concerns .clr = false → rule.Apart other := by
  decide +kernel

/-- What follows the mark of a switch. -/
def unmarked? : Text → Option Text
  | '/' :: name => some name
  | '-' :: name => some name
  | _ => none

namespace Dialect

variable {d : Dialect} {word name : Text} {next : List Text}

/-- **A rule that takes a word is the one that counts.** -/
theorem match?_msvc {switch : Text} {rule : Rule} {found : Match}
    (hcanonical : msvc.canonical? word = some switch) (hrule : rule ∈ msvcTable)
    (hclr : rule.meaning.concerns .clr = false) (haccept : rule.accept? switch next = some found) :
    msvc.match? (word :: next) = some found := by
  refine match?_eq_some_of_only hcanonical hrule haccept fun other hother hne => ?_
  exact (msvcTable_apart rule hrule other hother hne.symm hclr).accept?_eq_none haccept

/-- A mark alone is no switch. -/
theorem canonical?_eq_some_iff {switch : Text} :
    msvc.canonical? word = some switch ↔
      ∃ name, name ≠ [] ∧ unmarked? word = some name ∧ switch = '/' :: name := by
  constructor
  · intro h
    unfold canonical? at h
    split at h
    · next c rest _ => exact ⟨c :: rest, List.cons_ne_nil _ _, rfl, (Option.some.inj h).symm⟩
    · next c rest _ => exact ⟨c :: rest, List.cons_ne_nil _ _, rfl, (Option.some.inj h).symm⟩
    · next hdialect => cases hdialect
    · cases h
  · rintro ⟨name, hname, hword, rfl⟩
    obtain ⟨c, rest, rfl⟩ := List.exists_cons_of_ne_nil hname
    unfold unmarked? at hword
    split at hword
    · obtain rfl := Option.some.inj hword
      rfl
    · obtain rfl := Option.some.inj hword
      rfl
    · cases hword

/-- A word with a mark is no name of a file with further words. -/
theorem head?_ne_of_unmarked? (h : unmarked? word = some name) : word.head? ≠ some '@' := by
  unfold unmarked? at h
  split at h
  · simp
  · simp
  · cases h

end Dialect

end Switch

end BuildEnv
