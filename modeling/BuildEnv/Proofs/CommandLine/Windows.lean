import BuildEnv.CommandLine.Windows
import BuildEnv.Proofs.Text.Scanner

/-!
# Cutting a Windows command line at a blank

The scanner never looks back at the words it has finished (`Scan.step_onto`).
A blank outside of quotes finishes the word in progress and leaves nothing
pending, so that the scanner goes on as it started, on top of finished words
(`Scan.step_blank`).  Hence a command line falls apart at such a blank into
two command lines: `Windows.split_append_blank`.

A blank inside of quotes grows the word in progress (`Scan.Grows`), and so does
a run of backslashes.  Hence a command line falls apart at exactly the blanks
outside of quotes, and the backslashes before such a blank are literal:
`Windows.split_append_blank_iff`.
-/

namespace BuildEnv

namespace CommandLine

namespace Windows

namespace Scan

/-- The scanner with finished words before its own. -/
def onto (s : Scan) (earlier : List Text) : Scan :=
  { s with words := s.words ++ earlier }

theorem settle_onto (s : Scan) (earlier : List Text) (n : Nat) :
    (s.onto earlier).settle n = (s.settle n).onto earlier := by
  unfold settle
  show (if s.slashes = 0 then _ else _) = _
  split <;> rfl

theorem endWord_onto (s : Scan) (earlier : List Text) :
    (s.onto earlier).endWord = s.endWord.onto earlier := by
  obtain ⟨words, word, slashes, quoted⟩ := s
  cases word <;> rfl

theorem quote_onto (s : Scan) (earlier : List Text) :
    (s.onto earlier).quote = s.quote.onto earlier := by
  unfold quote
  show (if s.slashes % 2 = 1 then ((s.onto earlier).settle _).put '"' else _) = _
  rw [settle_onto]
  split <;> rfl

/-- A step keeps the words that were finished before. -/
theorem step_onto (s : Scan) (earlier : List Text) (c : Char) :
    (s.onto earlier).step c = (s.step c).onto earlier := by
  unfold step
  split
  · rfl
  · split
    · exact quote_onto s earlier
    · show (if Text.isBlank c && !s.quoted then _ else _) = _
      rw [settle_onto]
      split
      · exact endWord_onto _ earlier
      · rfl

theorem foldl_step_onto (s : Scan) (earlier : List Text) (t : Text) :
    t.foldl step (s.onto earlier) = (t.foldl step s).onto earlier := by
  induction t generalizing s with
  | nil => rfl
  | cons c rest ih => rw [List.foldl_cons, List.foldl_cons, step_onto, ih]

theorem finish_onto (s : Scan) (earlier : List Text) :
    (s.onto earlier).finish = earlier.reverse ++ s.finish := by
  unfold finish
  rw [settle_onto, endWord_onto]
  exact List.reverse_append

/-- A blank outside of quotes leaves nothing pending. -/
theorem step_blank {s : Scan} (hquoted : s.quoted = false) {c : Char} (hc : Text.isBlank c) :
    s.step c = start.onto s.finish.reverse := by
  have hslash : c ≠ '\\' := Text.ne_of_isBlank hc (by decide)
  have hquote : c ≠ '"' := Text.ne_of_isBlank hc (by decide)
  rw [step, if_neg hslash, if_neg hquote, if_pos (by simp [hc, hquoted]), finish,
    List.reverse_reverse]
  obtain ⟨words, word, slashes, quoted⟩ := s
  obtain rfl : quoted = false := hquoted
  unfold settle
  by_cases hslashes : slashes = 0
  · subst hslashes
    cases word <;> rfl
  · rw [if_neg hslashes]
    rfl

/-- The word in progress if the text ended here, last character first. -/
def pending (s : Scan) : Option Text :=
  (s.settle s.slashes).word

/-- The word at the end of the text is what was read of it and the backslashes after
that. -/
theorem getD_pending (s : Scan) :
    s.pending.getD [] = List.replicate s.slashes '\\' ++ s.word.getD [] := by
  unfold pending settle
  split
  · next hslashes => rw [hslashes, List.replicate_zero, List.nil_append]
  · rfl

/-- The end of the text only adds the word that is not finished yet. -/
theorem finish_eq (s : Scan) :
    s.finish = s.words.reverse ++ (s.pending.map List.reverse).toList := by
  have hwords : (s.settle s.slashes).words = s.words := by
    unfold settle
    split <;> rfl
  unfold finish endWord pending
  cases (s.settle s.slashes).word with
  | none => simp [hwords]
  | some w => simp [hwords]

/-- From one scanner to another one, some text has come to the word in
progress and nothing else has happened. -/
structure Grows (s : Scan) (more : Text) (r : Scan) : Prop where
  words : r.words = s.words
  pending : r.pending = some (more.reverse ++ s.pending.getD [])

/-- The last word has grown, or it is new. -/
theorem Grows.finish {s r : Scan} {more : Text} (h : s.Grows more r) :
    ∃ front word, (s.finish = front ++ [word] ∨ s.finish = front ∧ word = []) ∧
      r.finish = front ++ [word ++ more] := by
  have hr : r.finish = s.words.reverse ++ [(s.pending.getD []).reverse ++ more] := by
    rw [finish_eq, h.words, h.pending]
    simp
  refine ⟨s.words.reverse, (s.pending.getD []).reverse, ?_, hr⟩
  rw [finish_eq]
  cases s.pending with
  | none => exact .inr ⟨List.append_nil _, rfl⟩
  | some w => exact .inl rfl

/-- More text in the last word makes for other words. -/
theorem Grows.finish_ne {s r : Scan} {more : Text} (h : s.Grows more r) (hmore : more ≠ []) :
    r.finish ≠ s.finish := by
  obtain ⟨front, word, hold, hgrown⟩ := h.finish
  intro hsame
  rw [hgrown] at hsame
  rcases hold with hold | ⟨hold, -⟩
  · rw [hold] at hsame
    simp [hmore] at hsame
  · rw [hold] at hsame
    simp at hsame

/-- Backslashes wait for what follows them. -/
theorem foldl_step_replicate (s : Scan) (n : Nat) :
    (List.replicate n '\\').foldl step s = { s with slashes := s.slashes + n } := by
  induction n generalizing s with
  | zero => rfl
  | succ n ih =>
      have hstep : s.step '\\' = { s with slashes := s.slashes + 1 } := if_pos rfl
      have hcount : s.slashes + 1 + n = s.slashes + (n + 1) := by omega
      rw [List.replicate_succ, List.foldl_cons, hstep, ih, hcount]

/-- Backslashes belong to the word that they stand in. -/
theorem grows_slashes (s : Scan) (n : Nat) :
    s.Grows (List.replicate (n + 1) '\\') { s with slashes := s.slashes + (n + 1) } := by
  refine ⟨rfl, ?_⟩
  have hpending : ({ s with slashes := s.slashes + (n + 1) } : Scan).pending =
      some (List.replicate (s.slashes + (n + 1)) '\\' ++ s.word.getD []) := by
    simp [pending, settle]
  have hcount : s.slashes + (n + 1) = n + 1 + s.slashes := by omega
  rw [hpending, getD_pending, List.reverse_replicate, hcount,
    ← List.replicate_append_replicate, List.append_assoc]

/-- A blank in quotes belongs to the word that it stands in. -/
theorem grows_quoted_blank {s : Scan} (hquoted : s.quoted = true) {c : Char}
    (hc : Text.isBlank c) : s.Grows [c] (s.step c) := by
  have hslash : c ≠ '\\' := Text.ne_of_isBlank hc (by decide)
  have hquote : c ≠ '"' := Text.ne_of_isBlank hc (by decide)
  have hstep : s.step c = (s.settle s.slashes).put c := by
    rw [step, if_neg hslash, if_neg hquote, if_neg (by simp [hquoted])]
  rw [hstep]
  by_cases hslashes : s.slashes = 0
  · constructor <;> simp [hslashes, pending, settle, put]
  · constructor <;> simp [hslashes, pending, settle, put]

end Scan

/-- **A command line falls apart at a blank** outside of quotes, whatever
stands on both sides of it. -/
theorem split_append_blank {t : Text} (ht : (scan t).quoted = false) {c : Char}
    (hc : Text.isBlank c) (u : Text) : split (t ++ c :: u) = split t ++ split u := by
  have hscan : scan (t ++ c :: u) = (scan u).onto (split t).reverse := by
    unfold scan
    rw [List.foldl_append, List.foldl_cons]
    show u.foldl Scan.step ((scan t).step c) = _
    rw [Scan.step_blank ht hc]
    exact Scan.foldl_step_onto .start _ u
  rw [split, hscan, Scan.finish_onto, List.reverse_reverse]
  rfl

/-- Blanks before the first word do not count. -/
theorem split_gap_append {gap : Text} (hgap : ∀ c ∈ gap, Text.isBlank c) (t : Text) :
    split (gap ++ t) = split t := by
  induction gap with
  | nil => rfl
  | cons c rest ih =>
      have hcut := split_append_blank (t := []) rfl (hgap c List.mem_cons_self) (rest ++ t)
      exact hcut.trans (ih fun d hd => hgap d (List.mem_cons_of_mem _ hd))

/-- **Where a command line falls apart.**  A blank makes two command lines of
one, with any text after it, exactly if it stands outside of quotes.  The
backslashes before such a blank are literal: they stand at the end of the last
word before it, or are a word. -/
theorem split_append_blank_iff (t : Text) {c : Char} (hc : Text.isBlank c) :
    ((∀ u, split (t ++ c :: u) = split t ++ split u) ↔ (scan t).quoted = false) ∧
      ((scan t).quoted = false → ∀ n, ∃ front word,
        (split t = front ++ [word] ∨ split t = front ∧ word = []) ∧
        ∀ u, split (t ++ List.replicate (n + 1) '\\' ++ c :: u) =
          front ++ (word ++ List.replicate (n + 1) '\\') :: split u) := by
  refine ⟨⟨fun h => ?_, fun h => split_append_blank h hc⟩, fun h n => ?_⟩
  · cases hquoted : (scan t).quoted with
    | false => rfl
    | true =>
        have hsame : ((scan t).step c).finish = (scan t).finish := by
          have hnil := h []
          rw [split, scan, List.foldl_append] at hnil
          exact hnil.trans (List.append_nil _)
        have hgrows := Scan.grows_quoted_blank hquoted hc
        exact absurd hsame (hgrows.finish_ne (List.cons_ne_nil c []))
  · have hscan : scan (t ++ List.replicate (n + 1) '\\') =
        { scan t with slashes := (scan t).slashes + (n + 1) } := by
      rw [scan, List.foldl_append]
      exact Scan.foldl_step_replicate (scan t) (n + 1)
    obtain ⟨front, word, hold, hgrown⟩ := (Scan.grows_slashes (scan t) n).finish
    rw [← hscan] at hgrown
    have hopen : (scan (t ++ List.replicate (n + 1) '\\')).quoted = false := by
      rw [hscan]
      exact h
    refine ⟨front, word, hold, fun u => ?_⟩
    have hsplit : split (t ++ List.replicate (n + 1) '\\') =
        front ++ [word ++ List.replicate (n + 1) '\\'] := hgrown
    rw [split_append_blank hopen hc, hsplit, List.append_assoc]
    rfl

/-- Quotes and an odd run of backslashes before the blank. -/
theorem split_append_blank_iff_space :
    Text.isBlank ' ' ∧
      (∀ u, split ("/I\"my files\" a\\".toList ++ ' ' :: u) =
        ["/Imy files".toList, "a\\".toList] ++ split u) ∧
      ¬ ∀ u, split ("/I\"my".toList ++ ' ' :: u) = split "/I\"my".toList ++ split u := by
  have hblank : Text.isBlank ' ' := by decide
  have hwords : split "/I\"my files\" a\\".toList =
      ["/Imy files".toList, "a\\".toList] := by
    decide
  have hopen : (scan "/I\"my files\" a\\".toList).quoted = false := by decide
  have hclosed : (scan "/I\"my".toList).quoted = true := by decide
  refine ⟨hblank, fun u => ?_, fun h => ?_⟩
  · rw [(split_append_blank_iff _ hblank).1.mpr hopen, hwords]
  · have hnot := (split_append_blank_iff _ hblank).1.mp h
    rw [hclosed] at hnot
    cases hnot

end Windows

end CommandLine

end BuildEnv
