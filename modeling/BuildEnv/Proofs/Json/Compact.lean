import BuildEnv.Proofs.Json.Element
import BuildEnv.Proofs.Text.Scanner

/-!
# Values on one line

A value that is written on one line is an element of an array, wherever JSON can
write it: its numerals are well formed and in the range of double precision, and no
more arrays and objects are in each other than the reader allows
(`Json.Standard.isElement_compact`).

Numerals are the only values whose text is neither a fixed word nor delimited.  A
well-formed numeral is read back from its text (`Numeral.WellFormed.ofText?_text`),
which is one word.
-/

namespace BuildEnv

namespace Numeral

/-- A numeral of JSON: digits stand wherever they have to. -/
structure WellFormed (n : Numeral) : Prop where
  whole : isWhole n.whole
  fraction : ∀ c ∈ n.fraction, c.isDigit
  exponent : ∀ e, n.exponent = some e → e.2 ≠ [] ∧ ∀ c ∈ e.2, c.isDigit

variable {n : Numeral}

/-- Digits before a point: at least one. -/
theorem isDigit_of_isWhole {t : Text} (h : isWhole t) : t ≠ [] ∧ ∀ c ∈ t, c.isDigit := by
  unfold isWhole at h
  split at h
  · exact ⟨List.cons_ne_nil _ _, List.forall_mem_singleton.mpr (by decide)⟩
  · cases h
  · simpa [List.isEmpty_eq_false_iff] using h

theorem signedDigits_of_isDigit {t : Text} (h : ∀ c ∈ t, c.isDigit) :
    signedDigits t = (false, t) := by
  unfold signedDigits
  split
  · exact absurd (h '-' List.mem_cons_self) (by decide)
  · exact absurd (h '+' List.mem_cons_self) (by decide)
  · rfl

/-- Digits end at the first character that is none. -/
theorem takeWhile_isDigit_append {digits rest : Text} (h : ∀ c ∈ digits, c.isDigit)
    (hrest : ∀ c, rest.head? = some c → ¬ c.isDigit) :
    (digits ++ rest).takeWhile Char.isDigit = digits ∧
      (digits ++ rest).dropWhile Char.isDigit = rest := by
  rw [List.takeWhile_append_of_pos h, List.dropWhile_append_of_pos h,
    Text.takeWhile_eq_nil hrest, Text.dropWhile_eq_self hrest, List.append_nil]
  exact ⟨rfl, rfl⟩

/-- What an exponent begins with. -/
theorem head?_exponentText {e : Option (Bool × Text)} {c : Char}
    (h : (exponentText e).head? = some c) : c = 'e' := by
  cases e with
  | none => cases h
  | some e => exact (Option.some.inj h).symm

/-- The exponent is read back. -/
theorem WellFormed.exponent?_exponentText (h : n.WellFormed) :
    exponent? (exponentText n.exponent) = some n.exponent := by
  cases hexp : n.exponent with
  | none => rfl
  | some e =>
      obtain ⟨negative, digits⟩ := e
      obtain ⟨hne, hdigits⟩ := h.exponent _ hexp
      have hsigned : signedDigits ((if negative then ['-'] else []) ++ digits) =
          (negative, digits) := by
        cases negative with
        | true => rfl
        | false => exact signedDigits_of_isDigit hdigits
      rw [exponentText, List.cons_append, exponent?, hsigned]
      simpa [hne] using hdigits

/-- What is written behind the digits before the point. -/
def afterWholeText (n : Numeral) : Text :=
  (if n.fraction.isEmpty then [] else '.' :: n.fraction) ++ exponentText n.exponent

/-- Behind the whole part comes the fraction or the exponent, if anything. -/
theorem head?_afterWholeText {c : Char} (h : n.afterWholeText.head? = some c) :
    c = '.' ∨ c = 'e' := by
  by_cases hfraction : n.fraction = []
  · have hexp : (exponentText n.exponent).head? = some c := by
      simpa [afterWholeText, hfraction] using h
    exact .inr (head?_exponentText hexp)
  · have hpoint : '.' = c := by simpa [afterWholeText, hfraction] using h
    exact .inl hpoint.symm

/-- What follows the digits before the point is read back. -/
theorem WellFormed.afterWhole?_afterWholeText (h : n.WellFormed) :
    afterWhole? n.negative n.whole n.afterWholeText = some n := by
  have hexp := h.exponent?_exponentText
  by_cases hfraction : n.fraction = []
  · have htext : n.afterWholeText = exponentText n.exponent := by
      simp [afterWholeText, hfraction]
    rw [htext]
    unfold afterWhole?
    split
    · next t ht =>
        have hpoint : '.' = 'e' := head?_exponentText (e := n.exponent) (by rw [ht]; rfl)
        cases hpoint
    · rw [hexp, Option.map_some, ← hfraction]
  · have hnot : ∀ c, (exponentText n.exponent).head? = some c → ¬ c.isDigit := by
      intro c hc
      rw [head?_exponentText hc]
      decide
    obtain ⟨htake, hdrop⟩ := takeWhile_isDigit_append h.fraction hnot
    have htext : n.afterWholeText = '.' :: (n.fraction ++ exponentText n.exponent) := by
      simp [afterWholeText, hfraction]
    rw [htext, afterWhole?, htake, hdrop, hexp, if_neg (by simpa using hfraction)]
    rfl

/-- **A numeral is read back** from its text. -/
theorem WellFormed.ofText?_text (h : n.WellFormed) : ofText? n.text = some n := by
  obtain ⟨hne, hdigits⟩ := isDigit_of_isWhole h.whole
  have hunsigned : unsigned? n.negative (n.whole ++ n.afterWholeText) = some n := by
    have hnot : ∀ c, n.afterWholeText.head? = some c → ¬ c.isDigit := by
      intro c hc
      rcases head?_afterWholeText hc with rfl | rfl <;> decide
    obtain ⟨htake, hdrop⟩ := takeWhile_isDigit_append hdigits hnot
    rw [unsigned?, htake, hdrop, if_pos h.whole, h.afterWhole?_afterWholeText]
  have htext : n.text = (if n.negative then ['-'] else []) ++ (n.whole ++ n.afterWholeText) := by
    simp only [text, afterWholeText, List.append_assoc]
  rw [htext]
  cases hsign : n.negative with
  | true =>
      rw [hsign] at hunsigned
      exact hunsigned
  | false =>
      rw [hsign] at hunsigned
      unfold ofText?
      split
      · next t ht =>
          have hminus : '-' ∈ n.whole := by
            obtain ⟨c, rest, hwhole⟩ := List.exists_cons_of_ne_nil hne
            rw [hwhole] at ht ⊢
            obtain rfl : c = '-' := (List.cons.inj ht).1
            exact List.mem_cons_self
          exact absurd (hdigits '-' hminus) (by decide)
      · exact hunsigned

/-- The text of a numeral is one word. -/
theorem WellFormed.isWordChar_of_mem_text (h : n.WellFormed) {c : Char} (hc : c ∈ n.text) :
    Json.Lexer.isWordChar c := by
  have hdigit : c.isDigit → Json.Lexer.isWordChar c := by
    intro hc
    simp [Json.Lexer.isWordChar, Char.isAlphanum, hc]
  have hexp : c ∈ exponentText n.exponent → Json.Lexer.isWordChar c := by
    intro hc
    cases hexp : n.exponent with
    | none =>
        rw [hexp] at hc
        cases hc
    | some e =>
        rw [hexp] at hc
        obtain ⟨negative, digits⟩ := e
        have hdigits := (h.exponent _ hexp).2
        cases negative with
        | true =>
            rcases List.mem_cons.mp hc with rfl | hc
            · decide
            rcases List.mem_cons.mp hc with rfl | hc
            · decide
            exact hdigit (hdigits c hc)
        | false =>
            rcases List.mem_cons.mp hc with rfl | hc
            · decide
            exact hdigit (hdigits c hc)
  simp only [text, List.mem_append] at hc
  rcases hc with ((hc | hc) | hc) | hc
  · split at hc
    · rw [List.mem_singleton.mp hc]
      decide
    · cases hc
  · exact hdigit ((isDigit_of_isWhole h.whole).2 c hc)
  · split at hc
    · cases hc
    · rcases List.mem_cons.mp hc with rfl | hc
      · decide
      · exact hdigit (h.fraction c hc)
  · exact hexp hc

end Numeral

namespace Json

/-- Values that JSON can write, with arrays and objects in each other up to some
depth. -/
inductive Standard : Nat → Json → Prop
  | null (d : Nat) : Standard d null
  | bool (d : Nat) (b : Bool) : Standard d (bool b)
  | number (d : Nat) {n : Numeral} (hform : n.WellFormed) (hfinite : n.isFinite) :
      Standard d (number n)
  | string (d : Nat) (t : Text) : Standard d (string t)
  | array {d : Nat} {items : List Json} (h : ∀ v ∈ items, Standard d v) :
      Standard (d + 1) (array items)
  | object {d : Nat} {fields : List (Text × Json)} (h : ∀ f ∈ fields, Standard d f.2) :
      Standard (d + 1) (object fields)

/-- Texts, and arrays and objects of them, have the standard form. -/
theorem Textual.standard {d : Nat} {v : Json} (h : Textual d v) : Standard d v := by
  induction h with
  | string d t => exact .string d t
  | array _ ih => exact .array ih
  | object _ ih => exact .object ih

section Lexing

/-- What does not go on behind its end is ended by every mark. -/
theorem Lexes.ends {t : Text} {tokens : List Token} (h : Lexes t tokens) : Ends t tokens :=
  fun _ _ hmark => h.append hmark.lexes

/-- Tokens may stand in front of a text that waits for its end. -/
theorem Lexes.append_ends {s t : Text} {as bs : List Token} (hs : Lexes s as) (ht : Ends t bs) :
    Ends (s ++ t) (as ++ bs) := by
  intro c token hmark
  rw [List.append_assoc, List.append_assoc]
  exact hs.append (ht hmark)

/-- Where no other token begins, a character of words begins a word. -/
theorem step_isWordChar {c : Char} (hc : Lexer.isWordChar c) (before : List Token) :
    Lexer.step ⟨before, .between⟩ c = some ⟨before, .word [c]⟩ := by
  show Lexer.stepBetween before c = _
  unfold Lexer.stepBetween
  split
  case h_8 =>
    have hblank : Lexer.isBlank c = false := by
      rw [Lexer.isBlank]
      refine Bool.eq_false_iff.mpr fun hblank => ?_
      simp only [Bool.or_eq_true, beq_iff_eq] at hblank
      rcases hblank with ((rfl | rfl) | rfl) | rfl <;> exact absurd hc (by decide)
    rw [hblank, if_neg Bool.false_ne_true, if_pos hc]
  all_goals exact absurd hc (by decide)

/-- **A word** is one token as soon as a mark ends it. -/
theorem ends_word {word : Text} {token : Token} (hne : word ≠ [])
    (hword : ∀ c ∈ word, Lexer.isWordChar c) (htoken : Token.ofWord? word = some token) :
    Ends word [token] := by
  intro c mark hmark before
  have hgather : ∀ (t letters : Text), (∀ c ∈ t, Lexer.isWordChar c) →
      t.foldlM Lexer.step ⟨before, .word letters⟩ =
        some ⟨before, .word (t.reverse ++ letters)⟩ := by
    intro t
    induction t with
    | nil => exact fun _ _ => rfl
    | cons c rest ih =>
        intro letters h
        have hstep : Lexer.step ⟨before, .word letters⟩ c = some ⟨before, .word (c :: letters)⟩ :=
          if_pos (h c List.mem_cons_self)
        rw [foldlM_cons_of_some hstep, ih _ fun d hd => h d (List.mem_cons_of_mem _ hd)]
        simp
  have hwhole : word.foldlM Lexer.step ⟨before, .between⟩ = some ⟨before, .word word.reverse⟩ := by
    obtain ⟨first, rest, rfl⟩ := List.exists_cons_of_ne_nil hne
    rw [foldlM_cons_of_some (step_isWordChar (hword first List.mem_cons_self) before),
      hgather rest [first] fun d hd => hword d (List.mem_cons_of_mem _ hd), List.reverse_cons]
  have hend : Lexer.step ⟨before, .word word.reverse⟩ c =
      some ⟨mark :: token :: before, .between⟩ := by
    simp only [Lexer.step, hmark.not_word, Bool.false_eq_true, if_false, List.reverse_reverse,
      htoken]
    exact hmark.step _
  rw [foldlM_append_of_some hwhole]
  exact foldlM_cons_of_some hend

/-- A numeral that is in the range is one token. -/
theorem ofWord?_text {n : Numeral} (hform : n.WellFormed) (hfinite : n.isFinite) :
    Token.ofWord? n.text = some (.number n) := by
  have hread := hform.ofText?_text
  have hother : ∀ {word : Text}, Numeral.ofText? word = none → n.text ≠ word := by
    rintro _ hnone rfl
    rw [hread] at hnone
    cases hnone
  rw [Token.ofWord?, if_neg (hother (by decide)), if_neg (hother (by decide)),
    if_neg (hother (by decide)), hread]
  exact if_pos hfinite

/-- A numeral waits for its end, since more digits could follow. -/
theorem ends_number {n : Numeral} (hform : n.WellFormed) (hfinite : n.isFinite) :
    Ends n.text [.number n] := by
  have hne : n.text ≠ [] := by
    have hwhole := (Numeral.isDigit_of_isWhole hform.whole).1
    simp [Numeral.text, hwhole]
  exact ends_word hne (fun c hc => hform.isWordChar_of_mem_text hc) (ofWord?_text hform hfinite)

/-- Items with commas between them wait for the end of the last one. -/
theorem ends_compactItems {items : List Json} (h : ∀ v ∈ items, Ends v.compact v.tokens)
    (hne : items ≠ []) : Ends (compactItems items) (itemTokens items) := by
  induction items with
  | nil => exact absurd rfl hne
  | cons v rest ih =>
      have hv := h v List.mem_cons_self
      cases rest with
      | nil => exact hv
      | cons w rest =>
          have hrest := ih (fun x hx => h x (List.mem_cons_of_mem _ hx)) (List.cons_ne_nil _ _)
          have hwhole := (hv mark_comma).append_ends hrest
          rwa [List.append_assoc, List.append_assoc] at hwhole

/-- Fields with commas between them wait for the end of the last value. -/
theorem ends_compactFields {fields : List (Text × Json)}
    (h : ∀ f ∈ fields, Ends f.2.compact f.2.tokens) (hne : fields ≠ []) :
    Ends (compactFields fields) (fieldTokens fields) := by
  induction fields with
  | nil => exact absurd rfl hne
  | cons f rest ih =>
      obtain ⟨key, v⟩ := f
      have hcolon : Lexes [':'] [.colon] := .mark fun _ => rfl
      have hf : Ends (quoted key ++ ':' :: v.compact) (.string key :: .colon :: v.tokens) :=
        (lexes_quoted key).append_ends (hcolon.append_ends (h (key, v) List.mem_cons_self))
      cases rest with
      | nil => exact hf
      | cons g rest =>
          have hrest := ih (fun x hx => h x (List.mem_cons_of_mem _ hx)) (List.cons_ne_nil _ _)
          have hwhole := (hf mark_comma).append_ends hrest
          simpa [compactFields, fieldTokens] using hwhole

/-- **The text on one line** is gathered into the tokens of the value. -/
theorem Standard.ends_compact {d : Nat} {v : Json} (h : Standard d v) :
    Ends v.compact v.tokens := by
  induction h with
  | null d => exact ends_word (by decide) (List.all_eq_true.mp (by decide)) rfl
  | bool d b => cases b <;> exact ends_word (by decide) (List.all_eq_true.mp (by decide)) rfl
  | number d hform hfinite => exact ends_number hform hfinite
  | string d t => exact (lexes_quoted t).ends
  | @array d items h ih =>
      have hopen : Lexes ['['] [.openArray] := .mark fun _ => rfl
      by_cases hitems : items = []
      · subst hitems
        exact (hopen.append mark_closeArray.lexes).ends
      · exact (hopen.append (ends_compactItems ih hitems mark_closeArray)).ends
  | @object d fields h ih =>
      have hopen : Lexes ['\x7b'] [.openObject] := .mark fun _ => rfl
      by_cases hfields : fields = []
      · subst hfields
        exact (hopen.append mark_closeObject.lexes).ends
      · exact (hopen.append (ends_compactFields ih hfields mark_closeObject)).ends

end Lexing

/-- **The tokens of a value** are read as the value. -/
theorem Standard.reads_tokens {d : Nat} {v : Json} (h : Standard d v) : Reads v.tokens v d := by
  induction h with
  | null d => rintro frames place - (rfl | rfl) <;> rfl
  | bool d b => rintro frames place - (rfl | rfl) <;> rfl
  | number d _ _ => rintro frames place - (rfl | rfl) <;> rfl
  | string d t => exact reads_string t d
  | array _ ih => exact reads_array ih
  | object _ ih => exact reads_object ih

/-- What is read wherever there is room is read as an item. -/
theorem Reads.readsItem {tokens : List Token} {v : Json} {d : Nat} (h : Reads tokens v d)
    (hd : d < maxDepth) : ReadsItem tokens v :=
  fun done place hplace => h [.array done] place (by simp; omega) hplace

/-- **A value on one line** is an element, if there is room for it in an array. -/
theorem Standard.isElement_compact {d : Nat} {v : Json} (h : Standard d v) (hd : d < maxDepth) :
    IsElement v.compact v :=
  h.ends_compact.isElement (h.reads_tokens.readsItem hd)

end Json

end BuildEnv
