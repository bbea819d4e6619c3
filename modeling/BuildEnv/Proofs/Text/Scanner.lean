import BuildEnv.Text.Scanner
import Mathlib.Data.List.TakeWhile

/-!
# What texts are cut into

A text falls into the part that a reader takes and the rest.  The lemmas here
say so for a fixed beginning (`Text.after?_eq_some_iff`), for the blanks of both
ends (`Text.trimBy_eq_self`, `Text.trim_append_blanks`, `Text.trim_append_cons`) and
for the scanners: a fixed text in any case (`Scanner.anyCase_eq_some_iff`), a text
that may be missing and a run of characters (`Scanner.run1_eq_some_iff`).

Comparing in any case is comparing lower-case letters for all but the few
letters that a character beyond ASCII folds to (`Text.map_foldCase_eq_iff`).
-/

namespace BuildEnv

namespace Text

/-- One blank or more. -/
structure IsGap (gap : Text) : Prop where
  ne_nil : gap ≠ []
  blank : ∀ c ∈ gap, isBlank c

instance (gap : Text) : Decidable (IsGap gap) :=
  decidable_of_iff (gap ≠ [] ∧ gap.all isBlank)
    ⟨fun ⟨hne, hblank⟩ => ⟨hne, List.all_eq_true.mp hblank⟩,
      fun ⟨hne, hblank⟩ => ⟨hne, List.all_eq_true.mpr hblank⟩⟩

/-- What follows a beginning. -/
theorem after?_eq_some_iff {lead t rest : Text} :
    after? lead t = some rest ↔ t = lead ++ rest := by
  induction lead generalizing t with
  | nil => simp [after?]
  | cons a lead ih =>
      cases t with
      | nil => simp [after?]
      | cons c t =>
          by_cases h : a = c
          · simp [after?, h, ih]
          · simp [after?, h, Ne.symm h]

/-- Where neither of two texts begins the other, nothing that goes on with the one
begins with the other. -/
theorem after?_append_eq_none {s lead : Text} (h : after? s lead = none)
    (h' : after? lead s = none) (rest : Text) : after? s (lead ++ rest) = none := by
  cases hafter : after? s (lead ++ rest) with
  | none => rfl
  | some found =>
      have hsame : lead ++ rest = s ++ found := after?_eq_some_iff.mp hafter
      rcases List.append_eq_append_iff.mp hsame with ⟨more, hs, -⟩ | ⟨more, hlead, -⟩
      · rw [after?_eq_some_iff.mpr hs] at h'
        cases h'
      · rw [after?_eq_some_iff.mpr hlead] at h
        cases h

theorem dropWhile_eq_self {p : Char → Bool} {t : Text} (h : ∀ c, t.head? = some c → ¬ p c) :
    t.dropWhile p = t := by
  cases t with
  | nil => rfl
  | cons c rest => exact List.dropWhile_cons_of_neg (h c rfl)

theorem takeWhile_eq_nil {p : Char → Bool} {t : Text} (h : ∀ c, t.head? = some c → ¬ p c) :
    t.takeWhile p = [] := by
  cases t with
  | nil => rfl
  | cons c rest => exact List.takeWhile_cons_of_neg (h c rfl)

/-- Nothing is trimmed where both ends are to stay. -/
theorem trimBy_eq_self {p : Char → Bool} {t : Text} (hfirst : ∀ c, t.head? = some c → ¬ p c)
    (hlast : ∀ c, t.getLast? = some c → ¬ p c) : trimBy p t = t := by
  have hend : ∀ c, t.reverse.head? = some c → ¬ p c := by
    intro c hc
    rw [List.head?_reverse] at hc
    exact hlast c hc
  rw [trimBy, dropWhile_eq_self hfirst, dropWhileEnd, dropWhile_eq_self hend,
    List.reverse_reverse]

/-- A text keeps its ends if there are no blanks at them. -/
theorem trim_append_eq_self {first middle last : Text} (hfirst : ∀ c ∈ first, ¬ isBlank c)
    (hlast : ∀ c ∈ last, ¬ isBlank c) (hfirst_ne : first ≠ []) (hlast_ne : last ≠ []) :
    trim (first ++ middle ++ last) = first ++ middle ++ last := by
  refine trimBy_eq_self (fun c hc => hfirst c ?_) fun c hc => hlast c ?_
  · obtain ⟨d, rest, rfl⟩ := List.exists_cons_of_ne_nil hfirst_ne
    obtain rfl : d = c := Option.some.inj hc
    exact List.mem_cons_self
  · obtain ⟨rest, d, rfl⟩ : ∃ rest d, last = rest ++ [d] :=
      ⟨_, _, (List.dropLast_concat_getLast hlast_ne).symm⟩
    rw [← List.append_assoc, List.getLast?_concat] at hc
    obtain rfl : d = c := Option.some.inj hc
    exact List.mem_append_right _ (List.mem_singleton_self d)

/-- An ending whose characters all pass the test is taken away as a whole. -/
theorem dropWhileEnd_append_of_pos {p : Char → Bool} {t after : Text} (h : ∀ c ∈ after, p c) :
    dropWhileEnd p (t ++ after) = dropWhileEnd p t := by
  have hreverse : ∀ c ∈ after.reverse, p c := fun c hc => h c (List.mem_reverse.mp hc)
  rw [dropWhileEnd, dropWhileEnd, List.reverse_append, List.dropWhile_append_of_pos hreverse]

/-- What stands before a character that fails the test is kept. -/
theorem dropWhileEnd_append_cons {p : Char → Bool} {c : Char} (hc : ¬ p c) (t rest : Text) :
    dropWhileEnd p (t ++ c :: rest) = t ++ c :: dropWhileEnd p rest := by
  rw [dropWhileEnd, dropWhileEnd, List.reverse_append, List.reverse_cons, List.append_assoc,
    List.dropWhile_append]
  by_cases hrest : (rest.reverse.dropWhile p).isEmpty
  · have hnil : rest.reverse.dropWhile p = [] := List.isEmpty_iff.mp hrest
    simp [hnil, hc]
  · rw [if_neg hrest]
    simp

/-- Blanks around a text are trimmed with it. -/
theorem trim_append_blanks {before after : Text} (hbefore : ∀ c ∈ before, isBlank c)
    (hafter : ∀ c ∈ after, isBlank c) (t : Text) : trim (before ++ t ++ after) = trim t := by
  rw [trim, trim, trimBy, trimBy, List.append_assoc, List.dropWhile_append_of_pos hbefore,
    List.dropWhile_append]
  by_cases ht : (t.dropWhile isBlank).isEmpty
  · have hnil : after.dropWhile isBlank = [] := List.dropWhile_eq_nil_iff.mpr hafter
    rw [if_pos ht, hnil, List.isEmpty_iff.mp ht]
  · rw [if_neg ht, dropWhileEnd_append_of_pos hafter]

/-- A text that begins with no blank keeps its front up to any character that is none. -/
theorem trim_append_cons {first : Text} {c : Char} (hfirst : ∀ d ∈ first, ¬ isBlank d)
    (hc : ¬ isBlank c) (rest : Text) :
    trim (first ++ c :: rest) = first ++ c :: dropWhileEnd isBlank rest := by
  have hfront : ∀ d, (first ++ c :: rest).head? = some d → ¬ isBlank d := by
    intro d hd
    cases first with
    | nil => exact Option.some.inj hd ▸ hc
    | cons a more => exact Option.some.inj hd ▸ hfirst a List.mem_cons_self
  rw [trim, trimBy, dropWhile_eq_self hfront, dropWhileEnd_append_cons hc]

/-- A blank is not a character that is none. -/
theorem ne_of_isBlank {c x : Char} (h : isBlank c) (hx : isBlank x = false) : c ≠ x := by
  intro hsame
  rw [hsame, hx] at h
  cases h

/-- No blank is a capital letter. -/
theorem toLower_of_isBlank {c : Char} (h : isBlank c) : c.toLower = c := by
  have hcapital : ¬ (65 ≤ c.toNat ∧ c.toNat ≤ 90) := by
    simp only [isBlank, Bool.or_eq_true, Bool.and_eq_true, decide_eq_true_eq, beq_iff_eq] at h
    omega
  unfold Char.toLower
  exact dif_neg hcapital

/-- Blanks have no case. -/
theorem foldCase_of_isBlank {c : Char} (h : isBlank c) : foldCase c = c := by
  have hlong : c ≠ '\u017F' := ne_of_isBlank h (by decide)
  have hkelvin : c ≠ '\u212A' := ne_of_isBlank h (by decide)
  simp [foldCase, hlong, hkelvin, toLower_of_isBlank h]

/-- The two characters beyond ASCII matter for no other letters than their
own. -/
theorem foldCase_eq_iff {c x : Char} (hx : x ∉ ['s', 'k', '\u017F', '\u212A']) :
    foldCase c = x ↔ c.toLower = x := by
  simp only [List.mem_cons, List.not_mem_nil, or_false, not_or] at hx
  obtain ⟨hs, hk, hlong, hkelvin⟩ := hx
  unfold foldCase
  by_cases hc : c = '\u017F'
  · subst hc
    have hlower : Char.toLower '\u017F' = '\u017F' := by decide
    simp [hlower, Ne.symm hs, Ne.symm hlong]
  · by_cases hc' : c = '\u212A'
    · subst hc'
      have hlower : Char.toLower '\u212A' = '\u212A' := by decide
      simp [hlower, Ne.symm hk, Ne.symm hkelvin]
    · simp [hc, hc']

/-- A word without the letters s and k is folded as its ASCII letters are. -/
theorem map_foldCase_eq_iff {word lower : Text}
    (h : lower.all fun x => x ∉ ['s', 'k', '\u017F', '\u212A']) :
    word.map foldCase = lower ↔ lowerAscii word = lower := by
  unfold lowerAscii
  induction word generalizing lower with
  | nil => rfl
  | cons c word ih =>
      cases lower with
      | nil => simp
      | cons x lower =>
          obtain ⟨hx, hlower⟩ := Bool.and_eq_true_iff.mp h
          rw [List.map_cons, List.map_cons, List.cons.injEq, List.cons.injEq,
            foldCase_eq_iff (of_decide_eq_true hx), ih hlower]

end Text

namespace Scanner

variable {t rest : Text}

/-- A word is read in any case of its letters. -/
theorem anyCase_eq_some_iff {s : String} :
    anyCase s t = some ((), rest) ↔
      ∃ word, t = word ++ rest ∧ word.map Text.foldCase = s.toList := by
  unfold anyCase
  constructor
  · intro h
    simp only at h
    split at h
    · next hword =>
        have hrest : t.drop s.toList.length = rest := congrArg Prod.snd (Option.some.inj h)
        exact ⟨t.take s.toList.length, by rw [← hrest, List.take_append_drop], hword⟩
    · cases h
  · rintro ⟨word, rfl, hword⟩
    have hlength : s.toList.length = word.length := by rw [← hword, List.length_map]
    simp only [hlength, List.take_left, List.drop_left, if_pos hword]

/-- A word is not read where another letter stands. -/
theorem anyCase_cons_eq_none {s : String} {x c : Char} {lower : Text} (hs : s.toList = x :: lower)
    (hc : Text.foldCase c ≠ x) (rest : Text) : anyCase s (c :: rest) = none := by
  cases hread : anyCase s (c :: rest) with
  | none => rfl
  | some r =>
      obtain ⟨word, hword, hfold⟩ := anyCase_eq_some_iff.mp hread
      rw [hs] at hfold
      cases word with
      | nil => cases hfold
      | cons d word =>
          obtain ⟨rfl, -⟩ := List.cons.inj hword
          exact absurd (List.cons.inj hfold).1 hc

/-- A word is read as it stands. -/
theorem literal_eq_some_iff {s : String} :
    literal s t = some ((), rest) ↔ t = s.toList ++ rest := by
  simp [literal, Text.after?_eq_some_iff]

/-- A word is not read where another character stands. -/
theorem literal_cons_eq_none {s : String} {x c : Char} {lower : Text} (hs : s.toList = x :: lower)
    (hc : c ≠ x) (rest : Text) : literal s (c :: rest) = none := by
  cases hread : literal s (c :: rest) with
  | none => rfl
  | some r =>
      have hword := literal_eq_some_iff.mp hread
      rw [hs] at hword
      exact absurd (List.cons.inj hword).1 hc

theorem literal_append (s : String) (rest : Text) :
    literal s (s.toList ++ rest) = some ((), rest) :=
  literal_eq_some_iff.mpr rfl

theorem literal_singleton (s : String) (c : Char) (hs : s.toList = [c]) (rest : Text) :
    literal s (c :: rest) = some ((), rest) := by
  rw [← List.singleton_append, ← hs]
  exact literal_append s rest

theorem optional_of_some {α : Type} {x : Scanner α} {a : α} (h : x t = some (a, rest)) :
    Scanner.optional x t = some (some a, rest) := by
  rw [Scanner.optional, h]

theorem optional_of_none {α : Type} {x : Scanner α} (h : x t = none) :
    Scanner.optional x t = some (none, t) := by
  rw [Scanner.optional, h]

/-- An optional part takes a part of the text, or nothing. -/
theorem append_of_optional {x : Scanner Unit} {found : Option Unit} {p : Text → Prop}
    (hx : ∀ rest, x t = some ((), rest) → ∃ word, t = word ++ rest ∧ p word)
    (h : Scanner.optional x t = some (found, rest)) :
    ∃ word, t = word ++ rest ∧ (word = [] ∨ p word) := by
  cases hfound : x t with
  | none =>
      rw [optional_of_none hfound] at h
      obtain ⟨-, rfl⟩ := Prod.mk.inj (Option.some.inj h)
      exact ⟨[], rfl, .inl rfl⟩
  | some r =>
      rw [optional_of_some hfound] at h
      obtain ⟨-, rfl⟩ := Prod.mk.inj (Option.some.inj h)
      obtain ⟨word, hword, hp⟩ := hx r.2 hfound
      exact ⟨word, hword, .inr hp⟩

/-- A run is as long as it can be, and not empty. -/
theorem run1_eq_some_iff {p : Char → Bool} {found : Text} :
    run1 p t = some (found, rest) ↔
      t = found ++ rest ∧ found ≠ [] ∧ (∀ c ∈ found, p c) ∧
        ∀ c, rest.head? = some c → ¬ p c := by
  unfold run1
  constructor
  · intro h
    split at h
    · cases h
    · next hsome =>
        obtain ⟨rfl, rfl⟩ := Prod.mk.inj (Option.some.inj h)
        refine ⟨List.takeWhile_append_dropWhile.symm, by simpa using hsome,
          List.all_eq_true.mp List.all_takeWhile, fun c hc => ?_⟩
        have hnot := List.head?_dropWhile_not p t
        rw [hc] at hnot
        simpa using hnot
  · rintro ⟨rfl, hne, hall, hrest⟩
    rw [List.takeWhile_append_of_pos hall, List.dropWhile_append_of_pos hall,
      Text.takeWhile_eq_nil hrest, Text.dropWhile_eq_self hrest, List.append_nil,
      if_neg (by simpa using hne)]

/-- A run ends at the first character that does not belong to it. -/
theorem run1_append_cons {p : Char → Bool} {found : Text} (hne : found ≠ [])
    (hall : ∀ c ∈ found, p c) {c : Char} (hc : ¬ p c) (rest : Text) :
    run1 p (found ++ c :: rest) = some (found, c :: rest) :=
  run1_eq_some_iff.mpr ⟨rfl, hne, hall, fun _ hd => Option.some.inj hd ▸ hc⟩

/-- A given number of characters is read if they all belong to the kind. -/
theorem count_eq_some_iff {p : Char → Bool} {n : Nat} {found : Text} :
    count p n t = some (found, rest) ↔ t = found ++ rest ∧ found.length = n ∧ ∀ c ∈ found, p c := by
  unfold count
  constructor
  · intro h
    split at h
    · next hfound =>
        obtain ⟨rfl, rfl⟩ := Prod.mk.inj (Option.some.inj h)
        obtain ⟨hlength, hall⟩ := Bool.and_eq_true_iff.mp hfound
        exact ⟨(List.take_append_drop n t).symm, of_decide_eq_true hlength,
          List.all_eq_true.mp hall⟩
    · cases h
  · rintro ⟨rfl, rfl, hall⟩
    rw [List.take_left, List.drop_left]
    exact if_pos (by simpa using hall)

/-! ### One scanner after the other -/

section Sequence

variable {α β : Type} {x : Scanner α} {f : α → Scanner β}

theorem bind_of_some {a : α} (h : x t = some (a, rest)) : (x >>= f) t = f a rest := by
  simp only [bind, StateT.bind, h, Option.bind_some]

theorem bind_of_none (h : x t = none) : (x >>= f) t = none := by
  simp only [bind, StateT.bind, h, Option.bind_none]

/-- What a scanner reads at the front of a text is what it reads first. -/
theorem first?_of_front {a : α} (h : x t = some (a, rest)) : first? x t = some a := by
  cases t with
  | nil => exact congrArg (Option.map Prod.fst) h
  | cons c t => rw [first?, firstAfter?, h]

end Sequence

end Scanner

end BuildEnv
