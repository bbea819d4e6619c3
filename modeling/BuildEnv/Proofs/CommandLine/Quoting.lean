import BuildEnv.Proofs.CommandLine.Windows

/-!
# Quoting words for a Windows command line

Any list of words can be written as one command line.  Each word stands in
double quotes, a double quote in it has a backslash before it, and the
backslashes that would otherwise be taken for marks of a quote are doubled:
`Windows.enquote`, with one rule for each place of a run of backslashes
(`escape_replicate`, `escape_replicate_quote`, `escape_replicate_cons`).

Between the quotes the scanner reads the word back, whatever its characters
(`Scan.foldl_step_escapeAfter`).  Hence splitting undoes quoting:
`Windows.split_quotedLine`.
-/

namespace BuildEnv

namespace CommandLine

namespace Windows

/-- What stands between the quotes for the rest of a word, where the run of `n`
backslashes before it has not been written yet: that depends on what follows
the run. -/
def escapeAfter : (n : Nat) → Text → Text
  | n, [] => List.replicate (2 * n) '\\'
  | n, c :: rest =>
    if c = '\\' then escapeAfter (n + 1) rest
    else if c = '"' then List.replicate (2 * n + 1) '\\' ++ '"' :: escapeAfter 0 rest
    else List.replicate n '\\' ++ c :: escapeAfter 0 rest

/-- What stands between the quotes for a word. -/
def escape (word : Text) : Text :=
  escapeAfter 0 word

/-- A word in double quotes. -/
def enquote (word : Text) : Text :=
  '"' :: (escape word ++ ['"'])

/-- Backslashes wait for what follows them. -/
theorem escapeAfter_replicate (m n : Nat) (rest : Text) :
    escapeAfter m (List.replicate n '\\' ++ rest) = escapeAfter (m + n) rest := by
  induction n generalizing m with
  | zero => rfl
  | succ n ih =>
      have hcount : m + 1 + n = m + (n + 1) := by omega
      rw [List.replicate_succ, List.cons_append, escapeAfter, if_pos rfl, ih, hcount]

/-- Backslashes at the end are doubled. -/
theorem escape_replicate (n : Nat) :
    escape (List.replicate n '\\') = List.replicate (2 * n) '\\' := by
  have hrun := escapeAfter_replicate 0 n []
  rwa [List.append_nil, Nat.zero_add] at hrun

/-- Backslashes before a double quote are doubled, and there is one more for
the quote. -/
theorem escape_replicate_quote (n : Nat) (rest : Text) :
    escape (List.replicate n '\\' ++ '"' :: rest) =
      List.replicate (2 * n + 1) '\\' ++ '"' :: escape rest := by
  rw [escape, escapeAfter_replicate, Nat.zero_add, escapeAfter, if_neg (by decide), if_pos rfl,
    escape]

/-- All else is kept. -/
theorem escape_replicate_cons (n : Nat) {c : Char} (hslash : c ≠ '\\') (hquote : c ≠ '"')
    (rest : Text) :
    escape (List.replicate n '\\' ++ c :: rest) =
      List.replicate n '\\' ++ c :: escape rest := by
  rw [escape, escapeAfter_replicate, Nat.zero_add, escapeAfter, if_neg hslash, if_neg hquote,
    escape]

namespace Scan

variable (words : List Text) (word : Text) (n : Nat)

/-- After an even run of backslashes a quote opens or closes, and half of the run is
left. -/
theorem quote_even (quoted : Bool) :
    (⟨words, some word, 2 * n, quoted⟩ : Scan).quote =
      ⟨words, some (List.replicate n '\\' ++ word), 0, !quoted⟩ := by
  have heven : ¬ 2 * n % 2 = 1 := by omega
  have hhalf : 2 * n / 2 = n := by omega
  simp only [quote, heven, if_false, hhalf, settle]
  by_cases hn : n = 0
  · subst hn
    rfl
  · rw [if_neg (by omega)]
    rfl

/-- After an odd run of backslashes a quote is text, and half of the run is left. -/
theorem quote_odd (quoted : Bool) :
    (⟨words, some word, 2 * n + 1, quoted⟩ : Scan).quote =
      ⟨words, some ('"' :: (List.replicate n '\\' ++ word)), 0, quoted⟩ := by
  have hodd : (2 * n + 1) % 2 = 1 := by omega
  have hhalf : (2 * n + 1) / 2 = n := by omega
  simp only [quote, hodd, if_true, hhalf, settle, Nat.succ_ne_zero, if_false]
  rfl

/-- Between quotes a blank is a character like others. -/
theorem step_quoted {c : Char} (hslash : c ≠ '\\') (hquote : c ≠ '"') :
    (⟨words, some word, n, true⟩ : Scan).step c =
      ⟨words, some (c :: (List.replicate n '\\' ++ word)), 0, true⟩ := by
  rw [step, if_neg hslash, if_neg hquote, if_neg (by simp), settle]
  by_cases hn : n = 0
  · subst hn
    rfl
  · rw [if_neg hn]
    rfl

/-- Between quotes the scanner reads back what was escaped, and the quote after
it closes. -/
theorem foldl_step_escapeAfter (t : Text) :
    (escapeAfter n t ++ ['"']).foldl step ⟨words, some word, 0, true⟩ =
      ⟨words, some (t.reverse ++ (List.replicate n '\\' ++ word)), 0, false⟩ := by
  induction t generalizing n word with
  | nil =>
      rw [escapeAfter, List.foldl_append, foldl_step_replicate, Nat.zero_add]
      exact quote_even words word n true
  | cons c rest ih =>
      have hreverse : ∀ w : Text, (c :: rest).reverse ++ w = rest.reverse ++ c :: w := by
        intro w
        rw [List.reverse_cons, List.append_assoc]
        rfl
      rw [escapeAfter, hreverse]
      by_cases hslash : c = '\\'
      · subst hslash
        rw [if_pos rfl, ih, List.replicate_succ]
        rfl
      rw [if_neg hslash]
      by_cases hquote : c = '"'
      · subst hquote
        rw [if_pos rfl, List.append_assoc, List.foldl_append, foldl_step_replicate,
          Nat.zero_add, List.cons_append, List.foldl_cons]
        show List.foldl step (quote ⟨words, some word, 2 * n + 1, true⟩) _ = _
        rw [quote_odd, ih]
        rfl
      · rw [if_neg hquote, List.append_assoc, List.foldl_append, foldl_step_replicate,
          Nat.zero_add, List.cons_append, List.foldl_cons]
        show List.foldl step (step ⟨words, some word, n, true⟩ c) _ = _
        rw [step_quoted words word n hslash hquote, ih]
        rfl

end Scan

/-- A quoted word is scanned as one word that is still open, outside of quotes. -/
theorem scan_enquote (word : Text) : scan (enquote word) = ⟨[], some word.reverse, 0, false⟩ := by
  have hopen : Scan.start.step '"' = ⟨[], some [], 0, true⟩ := rfl
  rw [scan, enquote, List.foldl_cons, hopen, escape, Scan.foldl_step_escapeAfter]
  simp

/-- A quoted word is split into itself. -/
theorem split_enquote (word : Text) : split (enquote word) = [word] := by
  rw [split, scan_enquote]
  show [word.reverse.reverse] = [word]
  rw [List.reverse_reverse]

/-- A command line of quoted words, with one blank or more between every
two. -/
inductive QuotedLine : (words : List Text) → (line : Text) → Prop
  | nil : QuotedLine [] []
  | single (word : Text) : QuotedLine [word] (enquote word)
  | cons {word gap next : Text} {words : List Text} {line : Text} (hgap : Text.IsGap gap)
      (rest : QuotedLine (next :: words) line) :
      QuotedLine (word :: next :: words) (enquote word ++ gap ++ line)

/-- **Splitting undoes quoting**, for any words, with any blanks between
them. -/
theorem split_quotedLine {words : List Text} {line : Text} (h : QuotedLine words line) :
    split line = words := by
  induction h with
  | nil => rfl
  | single word => exact split_enquote word
  | @cons word gap next words line hgap rest ih =>
      obtain ⟨hne, hblank⟩ := hgap
      cases gap with
      | nil => exact absurd rfl hne
      | cons c gap =>
          have hclosed : (scan (enquote word)).quoted = false := by rw [scan_enquote]
          have hgap : ∀ d ∈ gap, Text.isBlank d := fun d hd =>
            hblank d (List.mem_cons_of_mem c hd)
          calc split (enquote word ++ c :: gap ++ line)
              = split (enquote word ++ c :: (gap ++ line)) := by
                rw [List.append_assoc]
                rfl
            _ = split (enquote word) ++ split (gap ++ line) :=
                split_append_blank hclosed (hblank c List.mem_cons_self) _
            _ = word :: next :: words := by
                rw [split_enquote, split_gap_append hgap, ih]
                rfl

/-- An empty word, blanks and a quote after a backslash, and a backslash at the
end. -/
theorem split_quotedLine_three :
    QuotedLine ["".toList, "say \\\"hé\"".toList, "C:\\my dir\\".toList]
        "\"\"\t \"say \\\\\\\"hé\\\"\" \"C:\\my dir\\\\\"".toList ∧
      split "\"\"\t \"say \\\\\\\"hé\\\"\" \"C:\\my dir\\\\\"".toList =
        ["".toList, "say \\\"hé\"".toList, "C:\\my dir\\".toList] := by
  have hwide : Text.IsGap "\t ".toList := by decide
  have hspace : Text.IsGap " ".toList := by decide
  have hline : QuotedLine ["".toList, "say \\\"hé\"".toList, "C:\\my dir\\".toList]
      "\"\"\t \"say \\\\\\\"hé\\\"\" \"C:\\my dir\\\\\"".toList :=
    .cons hwide (.cons hspace (.single _))
  exact ⟨hline, split_quotedLine hline⟩

end Windows

end CommandLine

end BuildEnv
