import BuildEnv.Proofs.Settings.MacroLine
import BuildEnv.Proofs.Text.Scanner

/-!
# What texts define macros

A definition is a name (`Macro.IsName`), or a name, a mark and a value
(`Macro.Definition`).  Blanks around it do not count, and all else is refused for
what stands before its first mark (`Macro.IsHead`): nothing at all, or a blank.

* `Macro.parse_eq_ok_iff`: the texts that are read, and what they are read as.
* `Macro.parse_eq_error_iff`: the others, and why they are refused.
* `Macro.eq_of_text_eq`: macros with the same line differ in nothing but an empty value
  and none.
* `Macro.parse_grammar`: all of this together.
-/

namespace BuildEnv

namespace Macro

/-- A text that can be the name of a definition. -/
structure IsName (n : Text) : Prop where
  ne_nil : n ≠ []
  no_blank : ∀ c ∈ n, ¬ Text.isBlank c
  no_mark : ∀ c ∈ n, c ≠ '=' ∧ c ≠ '#'

/-- The test for names. -/
theorem isName_iff {n : Text} :
    IsName n ↔ n ≠ [] ∧ n.all fun c => !Text.isBlank c && !isValueMark c := by
  simp only [List.all_eq_true, Bool.and_eq_true, Bool.not_eq_true', isValueMark,
    Bool.or_eq_false_iff, beq_eq_false_iff_ne]
  constructor
  · rintro ⟨hne, hblank, hmark⟩
    exact ⟨hne, fun c hc => ⟨Bool.eq_false_iff.mpr (hblank c hc), hmark c hc⟩⟩
  · rintro ⟨hne, hall⟩
    exact ⟨hne, fun c hc => Bool.eq_false_iff.mp (hall c hc).1, fun c hc => (hall c hc).2⟩

instance (n : Text) : Decidable (IsName n) :=
  decidable_of_iff _ isName_iff.symm

/-- The part of a text before its first mark, which is all of it where there is none. -/
structure IsHead (t head : Text) : Prop where
  no_mark : ∀ c ∈ head, c ≠ '=' ∧ c ≠ '#'
  split : t = head ∨ ∃ s rest, (s = '=' ∨ s = '#') ∧ t = head ++ s :: rest

/-- The definitions of a macro. -/
inductive Definition : Text → Macro → Prop
  | flag {n : Text} (hn : IsName n) : Definition n ⟨n, none⟩
  | valued {n : Text} {s : Char} (hn : IsName n) (hs : s = '=' ∨ s = '#') (v : Text) :
      Definition (n ++ s :: v) ⟨n, some v⟩

section Head

variable {t head : Text} {c : Char}

theorem isValueMark_iff : isValueMark c ↔ c = '=' ∨ c = '#' := by
  simp [isValueMark]

theorem not_isBlank_of_mark (h : c = '=' ∨ c = '#') : ¬ Text.isBlank c := by
  rcases h with rfl | rfl <;> decide

/-- Every text has a head. -/
theorem exists_isHead (t : Text) : ∃ head, IsHead t head := by
  induction t with
  | nil => exact ⟨[], by simp, .inl rfl⟩
  | cons c t ih =>
      by_cases hc : c = '=' ∨ c = '#'
      · exact ⟨[], by simp, .inr ⟨c, t, hc, rfl⟩⟩
      · obtain ⟨head, hmark, hsplit⟩ := ih
        refine ⟨c :: head, ?_, ?_⟩
        · intro d hd
          rcases List.mem_cons.mp hd with rfl | hd
          · exact not_or.mp hc
          · exact hmark d hd
        · rcases hsplit with rfl | ⟨s, rest, hs, rfl⟩
          · exact .inl rfl
          · exact .inr ⟨s, rest, hs, rfl⟩

/-- The head is what a reader takes up to a mark. -/
theorem IsHead.takeWhile_eq (h : IsHead t head) :
    t.takeWhile (fun c => !isValueMark c) = head := by
  have hplain : ∀ c ∈ head, (!isValueMark c) = true := by
    intro c hc
    simpa [isValueMark] using h.no_mark c hc
  rcases h.split with rfl | ⟨s, rest, hs, rfl⟩
  · exact List.takeWhile_eq_self_iff.mpr hplain
  · rw [List.takeWhile_append_of_pos hplain]
    simp [isValueMark_iff.mpr hs]

/-- The scan for a mark goes past the head. -/
theorem IsHead.dropWhile_eq (h : IsHead t head) :
    t.dropWhile (fun c => !isValueMark c) = t.drop head.length := by
  have hcut : head ++ t.dropWhile (fun c => !isValueMark c) = t := by
    rw [← h.takeWhile_eq]
    exact List.takeWhile_append_dropWhile
  exact (List.drop_left' rfl).symm.trans (congrArg (List.drop head.length) hcut)

end Head

section Parse

variable {raw head : Text} {m : Macro}

/-- **Reading follows the head** of the trimmed text. -/
theorem parse_of_isHead (h : IsHead (Text.trim raw) head) :
    parse raw =
      if head = [] then .error (.emptyName (Text.trim raw))
      else if head.any Text.isBlank then .error (.blankInName (Text.trim raw))
      else .ok ⟨head, ((Text.trim raw).drop head.length).tail?⟩ := by
  unfold parse
  simp only [h.takeWhile_eq, h.dropWhile_eq, List.isEmpty_iff]

/-- What is defined has a name. -/
theorem Definition.isName {t : Text} (h : Definition t m) : IsName m.name := by
  cases h with
  | flag hn => exact hn
  | valued hn hs v => exact hn

/-- The head of a definition is its name. -/
theorem Definition.isHead {t : Text} (h : Definition t m) : IsHead t m.name := by
  cases h with
  | flag hn => exact ⟨hn.no_mark, .inl rfl⟩
  | @valued n s hn hs v => exact ⟨hn.no_mark, .inr ⟨s, v, hs, rfl⟩⟩

/-- What follows the name of a definition is its value. -/
theorem Definition.value_eq {t : Text} (h : Definition t m) :
    (t.drop m.name.length).tail? = m.value := by
  cases h with
  | flag hn => simp
  | valued hn hs v => simp

/-- **Definitions are read**, and nothing else is. -/
theorem parse_eq_ok_iff : parse raw = .ok m ↔ Definition (Text.trim raw) m := by
  constructor
  · intro h
    obtain ⟨head, hhead⟩ := exists_isHead (Text.trim raw)
    rw [parse_of_isHead hhead] at h
    split at h
    · cases h
    · next hne =>
      split at h
      · cases h
      · next hblank =>
        have hname : IsName head := by
          refine ⟨hne, ?_, hhead.no_mark⟩
          intro c hc hcblank
          exact hblank (List.any_eq_true.mpr ⟨c, hc, hcblank⟩)
        obtain rfl := Except.ok.inj h
        rcases hhead.split with heq | ⟨s, rest, hs, heq⟩
        · rw [heq, List.drop_length]
          exact .flag hname
        · rw [heq, List.drop_left]
          exact .valued hname hs rest
  · intro h
    have hname := h.isName
    have hblank : ¬ m.name.any Text.isBlank := by
      rw [List.any_eq_true]
      rintro ⟨c, hc, hcblank⟩
      exact hname.no_blank c hc hcblank
    rw [parse_of_isHead h.isHead, if_neg hname.ne_nil, if_neg hblank, h.value_eq]

/-- **Refusals** are due to the head: there is none, or a blank is in it. -/
theorem parse_eq_error_iff (h : IsHead (Text.trim raw) head) {e : ParseError} :
    parse raw = .error e ↔
      head = [] ∧ e = .emptyName (Text.trim raw) ∨
        head ≠ [] ∧ (∃ c ∈ head, Text.isBlank c) ∧ e = .blankInName (Text.trim raw) := by
  rw [parse_of_isHead h, ← List.any_eq_true]
  by_cases hne : head = []
  · rw [if_pos hne]
    constructor
    · intro he
      exact .inl ⟨hne, (Except.error.inj he).symm⟩
    · rintro (⟨-, rfl⟩ | ⟨hne', -, -⟩)
      · rfl
      · exact absurd hne hne'
  · rw [if_neg hne]
    by_cases hblank : head.any Text.isBlank
    · rw [if_pos hblank]
      constructor
      · intro he
        exact .inr ⟨hne, hblank, (Except.error.inj he).symm⟩
      · rintro (⟨hne', -⟩ | ⟨-, -, rfl⟩)
        · exact absurd hne' hne
        · rfl
    · rw [if_neg hblank]
      constructor
      · intro he
        cases he
      · rintro (⟨hne', -⟩ | ⟨-, hblank', -⟩)
        · exact absurd hne' hne
        · exact absurd hblank' hblank

/-- A text is read exactly if its head is a name. -/
theorem exists_parse_iff (h : IsHead (Text.trim raw) head) :
    (∃ m, parse raw = .ok m) ↔ head ≠ [] ∧ ∀ c ∈ head, ¬ Text.isBlank c := by
  rw [parse_of_isHead h]
  by_cases hne : head = []
  · simp [hne]
  · by_cases hblank : head.any Text.isBlank
    · rw [if_neg hne, if_pos hblank]
      simpa [hne] using hblank
    · rw [if_neg hne, if_neg hblank]
      simpa [hne] using hblank

end Parse

/-! ### Texts that are given in parts -/

section Parts

variable {n : Text}

/-- A name has no blanks to trim. -/
theorem IsName.trim_eq (hn : IsName n) : Text.trim n = n := by
  refine Text.trimBy_eq_self ?_ ?_
  · intro c hc
    exact hn.no_blank c (List.mem_of_mem_head? hc)
  · intro c hc
    exact hn.no_blank c (List.mem_of_getLast? hc)

/-- Of a definition with a value only the end is trimmed. -/
theorem IsName.trim_valued (hn : IsName n) {s : Char} (hs : s = '=' ∨ s = '#') (v : Text) :
    Text.trim (n ++ s :: v) = n ++ s :: Text.dropWhileEnd Text.isBlank v :=
  Text.trim_append_cons hn.no_blank (not_isBlank_of_mark hs) v

/-- A name alone is read as a macro without a value. -/
theorem parse_flag (hn : IsName n) : parse n = .ok ⟨n, none⟩ := by
  rw [parse_eq_ok_iff, hn.trim_eq]
  exact .flag hn

/-- A name, a mark and a value are read, up to the blanks at the end. -/
theorem parse_valued (hn : IsName n) {s : Char} (hs : s = '=' ∨ s = '#') (v : Text) :
    parse (n ++ s :: v) = .ok ⟨n, some (Text.dropWhileEnd Text.isBlank v)⟩ := by
  rw [parse_eq_ok_iff, hn.trim_valued hs]
  exact .valued hn hs _

/-- All of a text that counts is what trimming leaves. -/
theorem parse_congr {raw raw' : Text} (h : Text.trim raw = Text.trim raw') :
    parse raw = parse raw' := by
  unfold parse
  rw [h]

end Parts

/-! ### Lines -/

/-- The line of a macro keeps the text of its value. -/
@[simp]
theorem getD_value_shown (m : Macro) : m.shown.value.getD [] = m.value.getD [] := by
  unfold shown
  split
  · next hvalue => rw [hvalue]; rfl
  · rfl

/-- **Equal lines.** -/
theorem eq_of_text_eq {m m' : Macro} (hm : m.HasPlainName) (hm' : m'.HasPlainName)
    (htext : m.text = m'.text) : m.name = m'.name ∧ m.value.getD [] = m'.value.getD [] := by
  have hshown : m.shown = m'.shown := by
    rw [← ofLine_text hm, ← ofLine_text hm', htext]
  constructor
  · simpa using congrArg name hshown
  · simpa using congrArg (fun m => m.value.getD []) hshown

/-- **Definitions and their lines.**  A text is read exactly if the head of what trimming
leaves is a name, and refused for an empty head or for a blank in it, with the trimmed text
in the error.  A name alone is read without a value, and one with a mark and a value with the
value up to its trailing blanks; blanks around a text do not count.  Macros that were read
and have the same line have the same name, and the same value but for an empty one and
none. -/
theorem parse_grammar :
    (∀ t, ∃ head, IsHead (Text.trim t) head ∧
      ((∃ m, parse t = .ok m) ↔ head ≠ [] ∧ ∀ c ∈ head, ¬ Text.isBlank c) ∧
      ∀ e, parse t = .error e ↔
        head = [] ∧ e = .emptyName (Text.trim t) ∨
          head ≠ [] ∧ (∃ c ∈ head, Text.isBlank c) ∧ e = .blankInName (Text.trim t)) ∧
    (∀ n, IsName n → parse n = .ok ⟨n, none⟩ ∧
      ∀ s v, s = '=' ∨ s = '#' →
        parse (n ++ s :: v) = .ok ⟨n, some (Text.dropWhileEnd Text.isBlank v)⟩) ∧
    (∀ before t after : Text, (∀ c ∈ before, Text.isBlank c) → (∀ c ∈ after, Text.isBlank c) →
      parse (before ++ t ++ after) = parse t) ∧
    ∀ t t' m m', parse t = .ok m → parse t' = .ok m' → m.text = m'.text →
      m.name = m'.name ∧ m.value.getD [] = m'.value.getD [] := by
  refine ⟨?_, ?_, ?_, ?_⟩
  · intro t
    obtain ⟨head, hhead⟩ := exists_isHead (Text.trim t)
    exact ⟨head, hhead, exists_parse_iff hhead, fun e => parse_eq_error_iff hhead⟩
  · intro n hn
    exact ⟨parse_flag hn, fun s v hs => parse_valued hn hs v⟩
  · intro before t after hbefore hafter
    exact parse_congr (Text.trim_append_blanks hbefore hafter t)
  · intro t t' m m' hm hm' htext
    exact eq_of_text_eq (hasPlainName_of_parse hm) (hasPlainName_of_parse hm') htext

/-- A value keeps its own marks and its leading blanks, and an empty one is shown like
none. -/
theorem parse_grammar_greeting :
    IsName "GREETING".toList ∧
      parse " GREETING# a=b\t ".toList = .ok ⟨"GREETING".toList, some " a=b".toList⟩ ∧
      ∃ m m', parse "EMPTY=".toList = .ok m ∧ parse "EMPTY".toList = .ok m' ∧ m ≠ m' ∧
        m.text = m'.text ∧ m.name = m'.name ∧ m.value.getD [] = m'.value.getD [] := by
  obtain ⟨-, hnames, hblanks, hlines⟩ := parse_grammar
  have hname : IsName "GREETING".toList := by decide
  have hvalued : parse "GREETING# a=b".toList = .ok ⟨"GREETING".toList, some " a=b".toList⟩ :=
    (hnames _ hname).2 '#' " a=b".toList (.inr rfl)
  have haround := hblanks " ".toList "GREETING# a=b".toList "\t ".toList
    (List.all_eq_true.mp (by decide)) (List.all_eq_true.mp (by decide))
  obtain ⟨hplain, hmarked⟩ := hnames "EMPTY".toList (by decide)
  have hempty : parse "EMPTY=".toList = .ok ⟨"EMPTY".toList, some []⟩ := hmarked '=' [] (.inl rfl)
  refine ⟨hname, haround.trans hvalued, _, _, hempty, hplain, by decide, rfl, ?_⟩
  exact hlines _ _ _ _ hempty hplain rfl

end Macro

end BuildEnv
