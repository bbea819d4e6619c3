import BuildEnv.Log.Marker
import BuildEnv.Proofs.Text.Scanner

/-!
# The search for a call of the compiler

A call is the name of the compiler, blanks, and the arguments up to the end of
the line (`Marker.IsCall`); a text is read as a call exactly if it consists of
these parts (`Marker.call?_eq_some_iff`).

A path can stand before the name.  So the search goes through the separators of
a line and takes the first one with a call behind it
(`Marker.callWithPath?_spec`), passing what has none (`Marker.callWithPath?_append`).
-/

namespace BuildEnv

namespace Marker

open Scanner

/-- The name of the compiler, in any case. -/
def IsCompilerWord (word : Text) : Prop :=
  Text.lowerAscii word = "cl".toList ∨ Text.lowerAscii word = "cl.exe".toList

/-- Arguments on one line, the first of which is a switch. -/
structure IsArguments (arguments : Text) : Prop where
  switch : ∃ c, arguments.head? = some c ∧ (c = '/' ∨ c = '-')
  one_line : '\n' ∉ arguments

/-- The parts of a call.  The quote of a quoted path can stand behind the
name. -/
structure IsCall (name gap arguments : Text) : Prop where
  name : ∃ word quote, IsCompilerWord word ∧ (quote = [] ∨ quote = ['"']) ∧ name = word ++ quote
  gap : Text.IsGap gap
  arguments : IsArguments arguments

/-! ### One call -/

variable {t word name gap arguments : Text}

theorem IsCompilerWord.ne_nil (h : IsCompilerWord word) : word ≠ [] := by
  rintro rfl
  rcases h with h | h <;> cases h

/-- The name of a compiler contains no separator. -/
theorem IsCompilerWord.not_isBeforeCompiler (h : IsCompilerWord word) :
    ∀ c ∈ word, ¬ isBeforeCompiler c := by
  intro c hc hseparator
  have hlower : c.toLower ∈ "cl.exe".toList := by
    have hmem : c.toLower ∈ Text.lowerAscii word := List.mem_map_of_mem hc
    rcases h with h | h
    · rw [h] at hmem
      exact List.mem_of_mem_take (i := 2) hmem
    · rwa [h] at hmem
  have hkept : c.toLower = c := by
    simp only [isBeforeCompiler, isPathSeparator, Bool.or_eq_true, beq_iff_eq] at hseparator
    rcases hseparator with ((rfl | rfl) | rfl) | hblank
    · decide
    · decide
    · decide
    · exact Text.toLower_of_isBlank hblank
  rw [hkept] at hlower
  have hletters : "cl.exe".toList.all fun d => !isBeforeCompiler d := by decide
  have hletter := List.all_eq_true.mp hletters c hlower
  rw [hseparator] at hletter
  cases hletter

/-- Blanks separate the compiler from what stands before it. -/
theorem isBeforeCompiler_of_isBlank {c : Char} (h : Text.isBlank c) : isBeforeCompiler c := by
  simp [isBeforeCompiler, h]

/-- The name of a compiler contains no blank. -/
theorem IsCompilerWord.not_isBlank (h : IsCompilerWord word) : ∀ c ∈ word, ¬ Text.isBlank c :=
  fun c hc hblank => h.not_isBeforeCompiler c hc (isBeforeCompiler_of_isBlank hblank)

/-- The name in a call is a word. -/
theorem IsCall.name_not_isBlank (h : IsCall name gap arguments) :
    name ≠ [] ∧ ∀ c ∈ name, ¬ Text.isBlank c := by
  obtain ⟨word, quote, hword, hquote, rfl⟩ := h.name
  refine ⟨fun hnil => hword.ne_nil (List.append_eq_nil_iff.mp hnil).1, fun c hc => ?_⟩
  rcases List.mem_append.mp hc with hc | hc
  · exact hword.not_isBlank c hc
  · rcases hquote with rfl | rfl
    · cases hc
    · obtain rfl := List.mem_singleton.mp hc
      decide

/-- The test for arguments. -/
theorem isArguments_iff : IsArguments arguments ↔
    ((arguments.head?.any fun c => c == '/' || c == '-') && !arguments.contains '\n') = true := by
  constructor
  · rintro ⟨⟨c, hc, hswitch⟩, hline⟩
    simp [hc, hswitch, hline]
  · intro h
    simp only [Bool.and_eq_true, Bool.not_eq_true', Option.any_eq_true, Bool.or_eq_true,
      beq_iff_eq, List.contains_eq_mem, decide_eq_false_iff_not] at h
    exact ⟨h.1, h.2⟩

instance (arguments : Text) : Decidable (IsArguments arguments) :=
  decidable_of_iff _ isArguments_iff.symm

/-- What `call?` reads, part by part. -/
theorem call?_eq_some_iff_read :
    call? t = some (name, arguments) ↔ ∃ afterStem ext afterWord quote rest gap,
      anyCase "cl" t = some ((), afterStem) ∧
      Scanner.optional (anyCase ".exe") afterStem = some (ext, afterWord) ∧
      Scanner.optional (literal "\"") afterWord = some (quote, rest) ∧
      run1 Text.isBlank rest = some (gap, arguments) ∧ IsArguments arguments ∧
      name = t.take (t.length - rest.length) := by
  unfold call?
  simp only [Option.bind_eq_bind, Option.bind_eq_some_iff, isArguments_iff]
  constructor
  · rintro ⟨⟨_, afterStem⟩, hstem, ⟨ext, afterWord⟩, hext, ⟨quote, rest⟩, hquote,
      ⟨gap, arguments'⟩, hgap, hfound⟩
    split at hfound
    · next hswitch =>
        obtain ⟨rfl, rfl⟩ := Prod.mk.inj (Option.some.inj hfound)
        exact ⟨afterStem, ext, afterWord, quote, rest, gap, hstem, hext, hquote, hgap, hswitch, rfl⟩
    · cases hfound
  · rintro ⟨afterStem, ext, afterWord, quote, rest, gap, hstem, hext, hquote, hgap, hswitch, rfl⟩
    exact ⟨_, hstem, _, hext, _, hquote, _, hgap, if_pos hswitch⟩

/-- What is read as a call consists of the parts of one. -/
theorem isCall_of_call? (h : call? t = some (name, arguments)) :
    ∃ gap, t = name ++ (gap ++ arguments) ∧ IsCall name gap arguments := by
  obtain ⟨afterStem, ext, afterWord, quote, rest, gap, hstem, hext, hquote, hgap, hswitch, hname⟩ :=
    call?_eq_some_iff_read.mp h
  obtain ⟨stem, rfl, hfold⟩ := anyCase_eq_some_iff.mp hstem
  obtain ⟨ext, rfl, hexe⟩ := append_of_optional (fun _ => anyCase_eq_some_iff.mp) hext
  obtain ⟨quote, rfl, hclose⟩ := append_of_optional (p := (· = "\"".toList))
    (fun _ h => ⟨_, literal_eq_some_iff.mp h, rfl⟩) hquote
  obtain ⟨rfl, hne, hblank, -⟩ := run1_eq_some_iff.mp hgap
  have hparts : stem ++ (ext ++ (quote ++ (gap ++ arguments))) =
      (stem ++ ext ++ quote) ++ (gap ++ arguments) := by
    simp only [List.append_assoc]
  have hlength : (stem ++ (ext ++ (quote ++ (gap ++ arguments)))).length -
      (gap ++ arguments).length = (stem ++ ext ++ quote).length := by
    simp only [List.length_append]
    omega
  rw [hlength, hparts, List.take_left] at hname
  subst hname
  have hcl : Text.lowerAscii stem = "cl".toList := (Text.map_foldCase_eq_iff (by decide)).mp hfold
  have hword : IsCompilerWord (stem ++ ext) := by
    rcases hexe with rfl | hexe
    · rw [List.append_nil]
      exact .inl hcl
    · have hlower : Text.lowerAscii ext = ".exe".toList :=
        (Text.map_foldCase_eq_iff (by decide)).mp hexe
      have happend : Text.lowerAscii (stem ++ ext) =
          Text.lowerAscii stem ++ Text.lowerAscii ext := List.map_append
      rw [hcl, hlower] at happend
      exact .inr happend
  exact ⟨gap, hparts, ⟨_, quote, hword, hclose, rfl⟩, ⟨hne, hblank⟩, hswitch⟩

/-- A word of the compiler, with or without its extension, is read up to its
end. -/
theorem read_compilerWord {word : Text} (hword : IsCompilerWord word) {c : Char}
    (hc : Text.isBlank c ∨ c = '"') (rest : Text) :
    ∃ afterStem ext, anyCase "cl" (word ++ c :: rest) = some ((), afterStem) ∧
      Scanner.optional (anyCase ".exe") afterStem = some (ext, c :: rest) := by
  rcases hword with hcl | hexe
  · have hfold : Text.foldCase c ≠ '.' := by
      rcases hc with hc | rfl
      · rw [Text.foldCase_of_isBlank hc]
        exact Text.ne_of_isBlank hc (by decide)
      · decide
    exact ⟨c :: rest, none,
      anyCase_eq_some_iff.mpr ⟨word, rfl, (Text.map_foldCase_eq_iff (by decide)).mpr hcl⟩,
      optional_of_none (anyCase_cons_eq_none rfl hfold rest)⟩
  · have hstem : Text.lowerAscii (word.take 2) = "cl".toList := by
      rw [Text.lowerAscii, List.map_take]
      exact congrArg (List.take 2) hexe
    have hext : Text.lowerAscii (word.drop 2) = ".exe".toList := by
      rw [Text.lowerAscii, List.map_drop]
      exact congrArg (List.drop 2) hexe
    refine ⟨word.drop 2 ++ c :: rest, some (), ?_, optional_of_some ?_⟩
    · refine anyCase_eq_some_iff.mpr
        ⟨word.take 2, ?_, (Text.map_foldCase_eq_iff (by decide)).mpr hstem⟩
      rw [← List.append_assoc, List.take_append_drop]
    · exact anyCase_eq_some_iff.mpr
        ⟨word.drop 2, rfl, (Text.map_foldCase_eq_iff (by decide)).mpr hext⟩

/-- **Calls.**  A text is read as a call if and only if it consists of the parts
of one, and these are found. -/
theorem call?_eq_some_iff :
    call? t = some (name, arguments) ↔
      ∃ gap, t = name ++ (gap ++ arguments) ∧ IsCall name gap arguments := by
  refine ⟨isCall_of_call?, ?_⟩
  rintro ⟨gap, rfl, ⟨word, quote, hword, hquote, rfl⟩, ⟨hne, hblank⟩, hswitch⟩
  have hgap : run1 Text.isBlank (gap ++ arguments) = some (gap, arguments) := by
    refine run1_eq_some_iff.mpr ⟨rfl, hne, hblank, fun c hc => ?_⟩
    obtain ⟨d, hd, hslash⟩ := hswitch.switch
    obtain rfl : d = c := Option.some.inj (hd.symm.trans hc)
    rcases hslash with rfl | rfl <;> decide
  obtain ⟨b, blanks, rfl⟩ := List.exists_cons_of_ne_nil hne
  have hb : Text.isBlank b := hblank b List.mem_cons_self
  have hname : ∀ rest : Text, word ++ quote =
      (word ++ quote ++ rest).take ((word ++ quote ++ rest).length - rest.length) := by
    intro rest
    rw [List.length_append, Nat.add_sub_cancel, List.take_left]
  rw [call?_eq_some_iff_read]
  rcases hquote with rfl | rfl
  · obtain ⟨afterStem, ext, hstem, hext⟩ := read_compilerWord hword (.inl hb) (blanks ++ arguments)
    have hquote : b ≠ '"' := Text.ne_of_isBlank hb (by decide)
    have hunquoted : literal "\"" (b :: (blanks ++ arguments)) = none :=
      literal_cons_eq_none rfl hquote _
    refine ⟨afterStem, ext, _, none, _, _, ?_, hext, optional_of_none hunquoted, hgap, hswitch,
      hname _⟩
    rw [List.append_nil]
    exact hstem
  · obtain ⟨afterStem, ext, hstem, hext⟩ :=
      read_compilerWord hword (.inr rfl) (b :: (blanks ++ arguments))
    refine ⟨afterStem, ext, _, some (), _, _, ?_, hext,
      optional_of_some (literal_eq_some_iff.mpr rfl), hgap, hswitch, hname _⟩
    rw [List.append_assoc]
    exact hstem

/-- A blank, a slash or a dash begins no call. -/
theorem call?_cons_eq_none {c : Char} (hc : Text.foldCase c ≠ 'c') (rest : Text) :
    call? (c :: rest) = none := by
  have hstem : anyCase "cl" (c :: rest) = none := anyCase_cons_eq_none rfl hc rest
  rw [call?, hstem]
  rfl

/-- No call begins with a blank or with a switch. -/
theorem call?_blanks_append {blanks : Text} (hblanks : ∀ c ∈ blanks, Text.isBlank c)
    (harguments : IsArguments arguments) : call? (blanks ++ arguments) = none := by
  cases blanks with
  | nil =>
      obtain ⟨c, hc, hslash⟩ := harguments.switch
      cases arguments with
      | nil => cases hc
      | cons d rest =>
          obtain rfl : d = c := Option.some.inj hc
          refine call?_cons_eq_none ?_ rest
          rcases hslash with rfl | rfl <;> decide
  | cons b blanks =>
      have hb := hblanks b List.mem_cons_self
      refine call?_cons_eq_none ?_ (blanks ++ arguments)
      rw [Text.foldCase_of_isBlank hb]
      exact Text.ne_of_isBlank hb (by decide)

/-! ### Calls behind a separator -/

/-- Behind `before`, which ends in a separator, a call stands in the text. -/
structure HasCall (t before name arguments : Text) : Prop where
  split : ∃ gap, t = before ++ (name ++ (gap ++ arguments)) ∧ IsCall name gap arguments
  separated : ∃ c, before.getLast? = some c ∧ isBeforeCompiler c

/-- The call of the text behind its first separator that has one. -/
structure FirstCall (t before name arguments : Text) : Prop
    extends HasCall t before name arguments where
  first : ∀ before' name' arguments', HasCall t before' name' arguments' →
    before.length ≤ before'.length

/-- A call of a line stands behind its first character, or it is a call of the rest. -/
theorem hasCall_cons {c : Char} {rest before name arguments : Text} :
    HasCall (c :: rest) before name arguments ↔
      (before = [c] ∧ isBeforeCompiler c ∧ call? rest = some (name, arguments)) ∨
        ∃ before', before = c :: before' ∧ HasCall rest before' name arguments := by
  constructor
  · rintro ⟨⟨gap, ht, hcall⟩, last, hlast, hseparator⟩
    cases before with
    | nil => cases hlast
    | cons d before =>
        obtain ⟨rfl, rfl⟩ := List.cons.inj ht
        cases before with
        | nil =>
            obtain rfl := Option.some.inj hlast
            exact .inl ⟨rfl, hseparator, call?_eq_some_iff.mpr ⟨gap, rfl, hcall⟩⟩
        | cons e before => exact .inr ⟨_, rfl, ⟨gap, rfl, hcall⟩, last, hlast, hseparator⟩
  · rintro (⟨rfl, hseparator, hcall⟩ | ⟨before, rfl, ⟨gap, rfl, hcall⟩, last, hlast, hseparator⟩)
    · obtain ⟨gap, rfl, hparts⟩ := call?_eq_some_iff.mp hcall
      exact ⟨⟨gap, rfl, hparts⟩, c, rfl, hseparator⟩
    · cases before with
      | nil => cases hlast
      | cons e before => exact ⟨⟨gap, rfl, hcall⟩, last, hlast, hseparator⟩

theorem not_hasCall_nil (before name arguments : Text) : ¬ HasCall [] before name arguments := by
  rintro ⟨⟨gap, ht, -⟩, c, hlast, -⟩
  obtain ⟨rfl, -⟩ := List.append_eq_nil_iff.mp ht.symm
  cases hlast

section Search

variable {c : Char} {lead rest before : Text}

/-- A call behind the first character is the first one. -/
theorem FirstCall.here (hseparator : isBeforeCompiler c)
    (hcall : call? rest = some (name, arguments)) : FirstCall (c :: rest) [c] name arguments := by
  refine ⟨hasCall_cons.mpr (.inl ⟨rfl, hseparator, hcall⟩), ?_⟩
  intro before' name' arguments' hother
  rcases hasCall_cons.mp hother with ⟨rfl, -⟩ | ⟨before', rfl, -⟩
  · exact Nat.le_refl 1
  · exact Nat.le_add_left 1 _

/-- Where no call stands behind the first character, the first call is that of the rest.
-/
theorem FirstCall.cons (hnone : isBeforeCompiler c → call? rest = none)
    (h : FirstCall rest before name arguments) :
    FirstCall (c :: rest) (c :: before) name arguments := by
  refine ⟨hasCall_cons.mpr (.inr ⟨before, rfl, h.toHasCall⟩), ?_⟩
  intro before' name' arguments' hother
  rcases hasCall_cons.mp hother with ⟨-, hseparator, hcall⟩ | ⟨before', rfl, hcall⟩
  · rw [hnone hseparator] at hcall
    cases hcall
  · exact Nat.succ_le_succ (h.first before' name' arguments' hcall)

/-- The search ends at a separator with a call behind it. -/
theorem callWithPath?_cons_of_call (hseparator : isBeforeCompiler c)
    (hcall : call? rest = some (name, arguments)) :
    callWithPath? lead (c :: rest) = some ((c :: lead).reverse ++ name, arguments) := by
  rw [callWithPath?, if_pos hseparator, hcall]

/-- The search goes on to the next character, within the line. -/
theorem callWithPath?_cons_of_none (hnone : isBeforeCompiler c → call? rest = none) :
    callWithPath? lead (c :: rest) =
      if c = '\n' then none else callWithPath? (c :: lead) rest := by
  have hhere : (if isBeforeCompiler c then call? rest else none) = none := by
    split
    · next hseparator => exact hnone hseparator
    · rfl
  rw [callWithPath?, hhere]

/-- **The search for a call** in a line finds the first one behind a separator,
and nothing if there is none. -/
theorem callWithPath?_spec (lead : Text) {t : Text} (hline : '\n' ∉ t) :
    (callWithPath? lead t = none ∧ ∀ before name arguments, ¬ HasCall t before name arguments) ∨
      ∃ before name arguments, FirstCall t before name arguments ∧
        callWithPath? lead t = some (lead.reverse ++ (before ++ name), arguments) := by
  induction t generalizing lead with
  | nil => exact .inl ⟨rfl, not_hasCall_nil⟩
  | cons c rest ih =>
      obtain ⟨hc, hrest⟩ := List.ne_and_not_mem_of_not_mem_cons hline
      by_cases hhere : ∃ name arguments, isBeforeCompiler c ∧ call? rest = some (name, arguments)
      · obtain ⟨name, arguments, hseparator, hcall⟩ := hhere
        refine .inr ⟨[c], name, arguments, .here hseparator hcall, ?_⟩
        rw [callWithPath?_cons_of_call hseparator hcall, List.reverse_cons, List.append_assoc]
      have hnone : isBeforeCompiler c → call? rest = none := by
        intro hseparator
        cases hcall : call? rest with
        | none => rfl
        | some found => exact absurd ⟨found.1, found.2, hseparator, hcall⟩ hhere
      rw [callWithPath?_cons_of_none hnone, if_neg (Ne.symm hc)]
      rcases ih (c :: lead) hrest with
        ⟨hsearch, hno⟩ | ⟨before, name, arguments, hfirst, hsearch⟩
      · refine .inl ⟨hsearch, fun before name arguments hcall => ?_⟩
        rcases hasCall_cons.mp hcall with ⟨-, hseparator, hcall⟩ | ⟨before, -, hcall⟩
        · exact hhere ⟨name, arguments, hseparator, hcall⟩
        · exact hno before name arguments hcall
      · refine .inr ⟨c :: before, name, arguments, hfirst.cons hnone, ?_⟩
        rw [hsearch, List.reverse_cons, List.append_assoc]
        rfl

/-- The search passes a part of a line behind no character of which a call
stands. -/
theorem callWithPath?_append {part : Text} (hline : '\n' ∉ part)
    (hnone : ∀ before c after, part = before ++ c :: after → isBeforeCompiler c →
      call? (after ++ rest) = none) :
    callWithPath? lead (part ++ rest) = callWithPath? (part.reverse ++ lead) rest := by
  induction part generalizing lead with
  | nil => rfl
  | cons c part ih =>
      obtain ⟨hc, hpart⟩ := List.ne_and_not_mem_of_not_mem_cons hline
      rw [List.cons_append, callWithPath?_cons_of_none (hnone [] c part rfl),
        if_neg (Ne.symm hc), List.reverse_cons, List.append_assoc]
      refine ih hpart fun before d after hsplit => hnone (c :: before) d after ?_
      rw [hsplit]
      rfl

/-- Where the search finds nothing, there is no call. -/
theorem not_hasCall_of_search {t : Text} (hline : '\n' ∉ t)
    (hsearch : callWithPath? [] t = none) (before name arguments : Text) :
    ¬ HasCall t before name arguments := by
  rcases callWithPath?_spec [] hline with ⟨-, hno⟩ | ⟨_, _, _, -, hfound⟩
  · exact hno before name arguments
  · rw [hsearch] at hfound
    cases hfound

end Search

end Marker

end BuildEnv
