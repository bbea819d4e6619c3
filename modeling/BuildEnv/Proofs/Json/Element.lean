import BuildEnv.Proofs.Json.Written

/-!
# Elements of an array

A text is an element of an array if it is read as the only one
(`Json.IsElement`).  Whatever its blanks and escapes are, it is then read as the
same element among others: elements with commas between them are read as the array
of their values (`Json.ofText?_arrayText`).

For the lexer this is so because it does not look back at the tokens that it has
gathered (`Json.Lexer.uniform_foldlM`), and because a comma ends a word as a bracket
does (`Json.Lexer.step_mark`).  For the reader it is so because an element lies on top
of the items before it, which no token of the element touches
(`Json.Retains.foldlM`).
-/

namespace BuildEnv

namespace Json

/-- The text of an array with some elements. -/
def arrayText (elements : List Text) : Text :=
  '[' :: Text.joinWith [','] elements ++ [']']

/-- **A text is an element** of an array.  What is nested too deep, or has a number
out of range, is none. -/
def IsElement (t : Text) (v : Json) : Prop :=
  ofText? (arrayText [t]) = some (.array [v])

/-- A character that is a token of its own and ends a word. -/
structure Mark (c : Char) (token : Token) : Prop where
  not_word : Lexer.isWordChar c = false
  step : ∀ before, Lexer.stepBetween before c = some ⟨token :: before, .between⟩

theorem Mark.lexes {c : Char} {token : Token} (h : Mark c token) : Lexes [c] [token] :=
  .mark h.step

theorem mark_comma : Mark ',' .comma := ⟨by decide, fun _ => rfl⟩

theorem mark_closeArray : Mark ']' .closeArray := ⟨by decide, fun _ => rfl⟩

theorem mark_closeObject : Mark '\x7d' .closeObject := ⟨by decide, fun _ => rfl⟩

/-- A text is gathered into tokens as soon as a mark ends it. -/
def Ends (t : Text) (tokens : List Token) : Prop :=
  ∀ ⦃c token⦄, Mark c token → Lexes (t ++ [c]) (tokens ++ [token])

namespace Lexer

/-! ### The tokens so far -/

/-- What a lexer does with its tokens so far: it fails whatever they are, or puts
some more on top of them. -/
def Uniform (f : List Token → Option Lexer) : Prop :=
  (∀ before, f before = none) ∨ ∃ new mode, ∀ before, f before = some ⟨new ++ before, mode⟩

variable {f : List Token → Option Lexer}

/-- A lexer that fails does so whatever came before. -/
theorem uniform_none : Uniform fun _ => none :=
  .inl fun _ => rfl

/-- A lexer may keep its tokens. -/
theorem uniform_keep (mode : Mode) : Uniform fun before => some ⟨before, mode⟩ :=
  .inr ⟨[], mode, fun _ => rfl⟩

/-- A lexer may put one token on top. -/
theorem uniform_push (token : Token) (mode : Mode) :
    Uniform fun before => some ⟨token :: before, mode⟩ :=
  .inr ⟨[token], mode, fun _ => rfl⟩

/-- Steps that are uniform in their tokens are so one after the other. -/
theorem Uniform.bind (h : Uniform f) {g : Mode → List Token → Option Lexer}
    (hg : ∀ mode, Uniform (g mode)) :
    Uniform fun before => (f before).bind fun l => g l.mode l.tokens := by
  rcases h with hnone | ⟨new, mode, hsome⟩
  · refine .inl fun before => ?_
    show (f before).bind _ = none
    rw [hnone, Option.bind_none]
  · rcases hg mode with hnone | ⟨more, mode', hmore⟩
    · refine .inl fun before => ?_
      show (f before).bind _ = none
      rw [hsome, Option.bind_some, hnone]
    · refine .inr ⟨more ++ new, mode', fun before => ?_⟩
      show (f before).bind _ = _
      rw [hsome, Option.bind_some, hmore, List.append_assoc]

/-- Between tokens the tokens so far do not count. -/
theorem uniform_stepBetween (c : Char) : Uniform fun before => stepBetween before c := by
  unfold stepBetween
  split
  case h_7 => exact uniform_keep _
  case h_8 =>
    split
    · exact uniform_keep _
    · split
      · exact uniform_keep _
      · exact uniform_none
  all_goals exact uniform_push _ _

/-- Within a string the tokens so far do not count. -/
theorem uniform_stepString (chars : Text) (escape : Escape) (c : Char) :
    Uniform fun before => stepString before chars escape c := by
  cases escape with
  | none =>
      simp only [stepString]
      split
      · exact uniform_push _ _
      · split
        · exact uniform_keep _
        · split
          · exact uniform_none
          · exact uniform_keep _
  | backslash =>
      simp only [stepString]
      split
      · exact uniform_keep _
      · cases simpleEscape? c with
        | none => exact uniform_none
        | some e => exact uniform_keep _
  | code digits high =>
      simp only [stepString]
      cases codeDigit chars digits high c with
      | none => exact uniform_none
      | some mode => exact uniform_keep mode
  | surrogate high =>
      simp only [stepString]
      split
      · exact uniform_keep _
      · exact uniform_none
  | surrogateBackslash high =>
      simp only [stepString]
      split
      · exact uniform_keep _
      · exact uniform_none

/-- **One character** is taken whatever the tokens so far are. -/
theorem uniform_step (mode : Mode) (c : Char) : Uniform fun before => step ⟨before, mode⟩ c := by
  cases mode with
  | between => exact uniform_stepBetween c
  | word letters =>
      simp only [step]
      split
      · exact uniform_keep _
      · cases Token.ofWord? letters.reverse with
        | none => exact uniform_none
        | some token =>
            exact (uniform_push token .between).bind fun _ => uniform_stepBetween c
  | string chars escape => exact uniform_stepString chars escape c

/-- **A text** is taken whatever the tokens so far are. -/
theorem uniform_foldlM (mode : Mode) (t : Text) :
    Uniform fun before => t.foldlM step ⟨before, mode⟩ := by
  induction t generalizing mode with
  | nil => exact uniform_keep mode
  | cons c rest ih => exact (uniform_step mode c).bind ih

/-- In a string, a closing bracket does not end the text. -/
theorem finish?_of_stepString {tokens : List Token} {chars : Text} {escape : Escape} {l : Lexer}
    (h : stepString tokens chars escape ']' = some l) : l.finish? = none := by
  cases escape with
  | none =>
      obtain rfl : Lexer.mk tokens (.string (']' :: chars) .none) = l := Option.some.inj h
      rfl
  | backslash => cases h
  | code digits high => cases h
  | surrogate high => cases h
  | surrogateBackslash high => cases h

/-- **What a bracket ends, every mark ends.** -/
theorem step_mark {mode : Mode} {before tokens : List Token} {l : Lexer}
    (hstep : step ⟨before, mode⟩ ']' = some l) (hfinish : l.finish? = some tokens) :
    ∃ more, tokens = before.reverse ++ more ++ [.closeArray] ∧
      ∀ {c token}, Mark c token → ∀ before,
        step ⟨before, mode⟩ c = some ⟨token :: (more.reverse ++ before), .between⟩ := by
  cases mode with
  | between =>
      obtain rfl : Lexer.mk (.closeArray :: before) .between = l := Option.some.inj hstep
      refine ⟨[], ?_, fun hmark before => hmark.step before⟩
      rw [List.append_nil, ← List.reverse_cons]
      exact (Option.some.inj hfinish).symm
  | word letters =>
      -- The word becomes a token now, and the mark is taken between two tokens.
      have hword : ∀ {c}, isWordChar c = false → ∀ before, step ⟨before, .word letters⟩ c =
          (Token.ofWord? letters.reverse).bind fun token => stepBetween (token :: before) c := by
        intro c hc before
        simp only [step, hc, Bool.false_eq_true, if_false]
        cases Token.ofWord? letters.reverse <;> rfl
      rw [hword mark_closeArray.not_word] at hstep
      obtain ⟨token, htoken, hlast⟩ := Option.bind_eq_some_iff.mp hstep
      obtain rfl : Lexer.mk (.closeArray :: token :: before) .between = l := Option.some.inj hlast
      refine ⟨[token], ?_, fun hmark before => ?_⟩
      · rw [← List.reverse_cons, ← List.reverse_cons]
        exact (Option.some.inj hfinish).symm
      · rw [hword hmark.not_word, htoken, Option.bind_some, hmark.step]
        rfl
  | string chars escape =>
      rw [finish?_of_stepString hstep] at hfinish
      cases hfinish

end Lexer

/-- **The tokens of an array with one item** are those of the item between brackets. -/
theorem tokens?_arrayText_singleton {t : Text} {tokens : List Token} :
    tokens? (arrayText [t]) = some tokens ↔
      ∃ more, Ends t more ∧ tokens = .openArray :: more ++ [.closeArray] := by
  have hopen : Lexes ['['] [.openArray] := .mark fun _ => rfl
  have hfold : (arrayText [t]).foldlM Lexer.step .start =
      (t ++ [']']).foldlM Lexer.step ⟨[.openArray], .between⟩ := foldlM_append_of_some (hopen [])
  rw [tokens?, hfold]
  constructor
  · intro h
    obtain ⟨l, hl, hfinish⟩ := Option.bind_eq_some_iff.mp h
    rw [List.foldlM_append] at hl
    obtain ⟨l', hl', hclose⟩ := Option.bind_eq_some_iff.mp hl
    rcases Lexer.uniform_foldlM .between t with hnone | ⟨new, mode, hsome⟩
    · cases (hnone _).symm.trans hl'
    · obtain rfl : Lexer.mk (new ++ [.openArray]) mode = l' :=
        Option.some.inj ((hsome _).symm.trans hl')
      obtain ⟨more, htokens, hmore⟩ := Lexer.step_mark (by simpa using hclose) hfinish
      refine ⟨new.reverse ++ more, ?_, by simpa using htokens⟩
      intro c token hmark before
      rw [foldlM_append_of_some (hsome before), foldlM_cons_of_some (hmore hmark _)]
      simp
  · rintro ⟨more, hmore, rfl⟩
    rw [hmore mark_closeArray, Option.bind_some]
    simp [Lexer.finish?]

section Retained

/-! ### The items before -/

open Reader (deliver enter stepValue stepKey stepAfter closeArray closeObject)

/-- Tokens are read as one more item of the array that is open alone. -/
def ReadsItem (tokens : List Token) (v : Json) : Prop :=
  ∀ done (place : Place), place.ForValue →
    tokens.foldlM Reader.step ⟨[.array done], place⟩ = some ⟨[.array (v :: done)], .afterValue⟩

/-- Two readers that are alike but for some items that the second one has got first, in the
outermost array.  It is not the outermost array that awaits its first item. -/
inductive Retains (done : List Json) : Reader → Reader → Prop
  | mk (inner : List Frame) (items : List Json) (place : Place)
      (hfirst : place = .firstItem → inner ≠ []) :
      Retains done ⟨inner ++ [.array items], place⟩ ⟨inner ++ [.array (items ++ done)], place⟩

/-- What is a step of the first reader is one of the second, unless the outermost array is
closed. -/
def StepsAlike (done : List Json) (a b : Option Reader) : Prop :=
  ∀ r, a = some r → (∃ s, b = some s ∧ Retains done r s) ∨ ∃ v, r.place = .complete v

variable {done : List Json}

theorem stepsAlike_none (b : Option Reader) : StepsAlike done none b :=
  fun _ h => nomatch h

/-- Steps to readers that are alike are alike. -/
theorem Retains.stepsAlike {r s : Reader} (h : Retains done r s) :
    StepsAlike done (some r) (some s) := by
  rintro _ ⟨⟩
  exact .inl ⟨s, rfl, h⟩

section Parts

variable (inner : List Frame) (items : List Json)

/-- A finished value goes to the same place in both readers. -/
theorem retains_deliver (v : Json) :
    Retains done (deliver (inner ++ [.array items]) v)
      (deliver (inner ++ [.array (items ++ done)]) v) := by
  cases inner with
  | nil => exact .mk [] (v :: items) .afterValue nofun
  | cons frame rest =>
      cases frame with
      | array own => exact .mk (.array (v :: own) :: rest) items .afterValue nofun
      | object fields key =>
          exact .mk (.object ((key, v) :: fields) [] :: rest) items .afterValue nofun

/-- Both readers open an array or an object. -/
theorem stepsAlike_enter (frame : Frame) (place : Place) :
    StepsAlike done (enter (inner ++ [.array items]) frame place)
      (enter (inner ++ [.array (items ++ done)]) frame place) := by
  simp only [enter, List.length_append, List.length_singleton]
  split
  · exact (Retains.mk (frame :: inner) items place fun _ => List.cons_ne_nil _ _).stepsAlike
  · exact stepsAlike_none _

/-- Both readers close an inner array; only the outermost one ends the first reader. -/
theorem stepsAlike_closeArray :
    StepsAlike done (closeArray (inner ++ [.array items]))
      (closeArray (inner ++ [.array (items ++ done)])) := by
  cases inner with
  | nil =>
      rintro _ ⟨⟩
      exact .inr ⟨_, rfl⟩
  | cons frame rest =>
      cases frame with
      | array own => exact (retains_deliver rest items _).stepsAlike
      | object fields key => exact stepsAlike_none _

/-- Both readers close an object, which is never the outermost value. -/
theorem stepsAlike_closeObject :
    StepsAlike done (closeObject (inner ++ [.array items]))
      (closeObject (inner ++ [.array (items ++ done)])) := by
  cases inner with
  | nil => exact stepsAlike_none _
  | cons frame rest =>
      cases frame with
      | array own => exact stepsAlike_none _
      | object fields key => exact (retains_deliver rest items _).stepsAlike

/-- Both readers take a token alike where a value is due. -/
theorem stepsAlike_stepValue (token : Token) :
    StepsAlike done (stepValue (inner ++ [.array items]) token)
      (stepValue (inner ++ [.array (items ++ done)]) token) := by
  cases token with
  | openArray => exact stepsAlike_enter inner items _ _
  | openObject => exact stepsAlike_enter inner items _ _
  | null => exact (retains_deliver inner items _).stepsAlike
  | bool b => exact (retains_deliver inner items _).stepsAlike
  | number n => exact (retains_deliver inner items _).stepsAlike
  | string t => exact (retains_deliver inner items _).stepsAlike
  | _ => exact stepsAlike_none _

/-- Both readers take a token alike where a key is due. -/
theorem stepsAlike_stepKey (token : Token) :
    StepsAlike done (stepKey (inner ++ [.array items]) token)
      (stepKey (inner ++ [.array (items ++ done)]) token) := by
  cases token with
  | string key =>
      cases inner with
      | nil => exact stepsAlike_none _
      | cons frame rest =>
          cases frame with
          | array own => exact stepsAlike_none _
          | object fields old =>
              exact (Retains.mk (.object fields key :: rest) items .colon nofun).stepsAlike
  | _ => exact stepsAlike_none _

/-- Both readers take a token alike behind a value. -/
theorem stepsAlike_stepAfter (token : Token) :
    StepsAlike done (stepAfter (inner ++ [.array items]) token)
      (stepAfter (inner ++ [.array (items ++ done)]) token) := by
  cases token with
  | comma =>
      cases inner with
      | nil => exact (Retains.mk [] items .value nofun).stepsAlike
      | cons frame rest =>
          cases frame with
          | array own => exact (Retains.mk (.array own :: rest) items .value nofun).stepsAlike
          | object fields key =>
              exact (Retains.mk (.object fields key :: rest) items .key nofun).stepsAlike
  | closeArray => exact stepsAlike_closeArray inner items
  | closeObject => exact stepsAlike_closeObject inner items
  | _ => exact stepsAlike_none _

end Parts

/-- **One token** does not touch the items before. -/
theorem Retains.step {r s : Reader} (h : Retains done r s) (token : Token) :
    StepsAlike done (Reader.step r token) (Reader.step s token) := by
  obtain ⟨inner, items, place, hfirst⟩ := h
  cases place with
  | value => exact stepsAlike_stepValue inner items token
  | firstItem =>
      simp only [Reader.step]
      split
      · exact stepsAlike_closeArray inner items
      · exact stepsAlike_stepValue inner items token
  | firstKey =>
      simp only [Reader.step]
      split
      · exact stepsAlike_closeObject inner items
      · exact stepsAlike_stepKey inner items token
  | key => exact stepsAlike_stepKey inner items token
  | colon =>
      simp only [Reader.step]
      split
      · exact (Retains.mk inner items .value nofun).stepsAlike
      · exact stepsAlike_none _
  | afterValue => exact stepsAlike_stepAfter inner items token
  | complete v => exact stepsAlike_none _

/-- Nothing is read once a value is complete. -/
theorem foldlM_complete {r r' : Reader} {v : Json} (hr : r.place = .complete v)
    {tokens : List Token} (h : tokens.foldlM Reader.step r = some r') : r' = r := by
  obtain ⟨frames, place⟩ := r
  subst hr
  cases tokens with
  | nil => exact (Option.some.inj h).symm
  | cons token rest => exact nomatch h

/-- **A run** that leaves the outermost array open does not touch the items before. -/
theorem Retains.foldlM {r s r' : Reader} (h : Retains done r s) {tokens : List Token}
    (hrun : tokens.foldlM Reader.step r = some r') (hopen : ∀ v, r'.place ≠ .complete v) :
    ∃ s', tokens.foldlM Reader.step s = some s' ∧ Retains done r' s' := by
  induction tokens generalizing r s with
  | nil =>
      obtain rfl : r = r' := Option.some.inj hrun
      exact ⟨s, rfl, h⟩
  | cons token rest ih =>
      rw [List.foldlM_cons] at hrun
      obtain ⟨next, hnext, hrest⟩ := Option.bind_eq_some_iff.mp hrun
      rcases h.step token next hnext with ⟨next', hnext', hretains⟩ | ⟨v, hv⟩
      · rw [foldlM_cons_of_some hnext']
        exact ih hretains hrest
      · exact absurd (foldlM_complete hv hrest ▸ hv) (hopen v)

/-- What a closing bracket makes an array of, and where it may stand. -/
theorem eq_of_step_closeArray {r last : Reader} {items : List Json}
    (hstep : Reader.step r .closeArray = some last)
    (hfinish : last.finish? = some (.array items)) :
    r.frames = [.array items.reverse] ∧ (r.place = .firstItem ∨ r.place = .afterValue) := by
  have hclose : ∀ {frames}, closeArray frames = some last → frames = [.array items.reverse] := by
    intro frames h
    match frames with
    | [] => cases h
    | .object fields key :: outer => cases h
    | .array own :: outer =>
        obtain rfl : deliver outer (.array own.reverse) = last := Option.some.inj h
        match outer with
        | [] =>
            obtain rfl : own.reverse = items := by injection Option.some.inj hfinish
            rw [List.reverse_reverse]
        | .array _ :: _ => cases hfinish
        | .object _ _ :: _ => cases hfinish
  obtain ⟨frames, place⟩ := r
  cases place with
  | firstItem => exact ⟨hclose hstep, .inl rfl⟩
  | afterValue => exact ⟨hclose hstep, .inr rfl⟩
  | _ => cases hstep

/-- The first item is read as any other, unless there is none. -/
theorem step_firstItem {token : Token} (h : token ≠ .closeArray) (frames : List Frame) :
    Reader.step ⟨frames, .firstItem⟩ token = Reader.step ⟨frames, .value⟩ token :=
  if_neg h

/-- What is read as a value is read as a first item. -/
theorem foldlM_firstItem {frames : List Frame} {tokens : List Token} {r : Reader}
    (h : tokens.foldlM Reader.step ⟨frames, .value⟩ = some r) (hr : r.place ≠ .value) :
    tokens.foldlM Reader.step ⟨frames, .firstItem⟩ = some r := by
  cases tokens with
  | nil =>
      obtain rfl : Reader.mk frames .value = r := Option.some.inj h
      exact absurd rfl hr
  | cons token rest =>
      have htoken : token ≠ .closeArray := by
        rintro rfl
        cases h
      rwa [List.foldlM_cons, step_firstItem htoken, ← List.foldlM_cons]

/-- What is read as the only item of an array is read as a value. -/
theorem foldlM_value {tokens : List Token} {r : Reader} {v : Json}
    (h : tokens.foldlM Reader.step ⟨[.array []], .firstItem⟩ = some r)
    (hr : r.frames = [.array [v]]) :
    tokens.foldlM Reader.step ⟨[.array []], .value⟩ = some r := by
  cases tokens with
  | nil =>
      obtain rfl : Reader.mk [.array []] .firstItem = r := Option.some.inj h
      cases hr
  | cons token rest =>
      have htoken : token ≠ .closeArray := by
        rintro rfl
        have hcomplete : r = ⟨[], .complete (.array [])⟩ := foldlM_complete rfl h
        rw [hcomplete] at hr
        cases hr
      rwa [List.foldlM_cons, ← step_firstItem htoken, ← List.foldlM_cons]

/-- **The only item of an array** is read as the same item behind other ones. -/
theorem readsItem_of_ofTokens? {tokens : List Token} {v : Json}
    (h : ofTokens? (.openArray :: tokens ++ [.closeArray]) = some (.array [v])) :
    ReadsItem tokens v := by
  have hopen : Reader.step .start .openArray = some ⟨[.array []], .firstItem⟩ := rfl
  rw [ofTokens?, List.cons_append, foldlM_cons_of_some hopen, List.foldlM_append] at h
  obtain ⟨last, hlast, hfinish⟩ := Option.bind_eq_some_iff.mp h
  obtain ⟨r, hrun, hclose⟩ := Option.bind_eq_some_iff.mp hlast
  have hbracket : Reader.step r .closeArray = some last := by simpa using hclose
  obtain ⟨hframes, hplace⟩ := eq_of_step_closeArray hbracket hfinish
  have hvalue : ∀ done, tokens.foldlM Reader.step ⟨[.array done], .value⟩ =
      some ⟨[.array (v :: done)], .afterValue⟩ := by
    intro done
    -- The run behind other items follows the run without them, token by token.
    have hstart : Retains done ⟨[.array []], .value⟩ ⟨[.array done], .value⟩ := by
      refine .mk [] [] .value fun hfirst => ?_
      cases hfirst
    have hgoesOn : ∀ w, r.place ≠ .complete w := by
      intro w hw
      rcases hplace with hplace | hplace <;> rw [hplace] at hw <;> cases hw
    obtain ⟨s, hs, inner, items, place, hfirst⟩ :=
      hstart.foldlM (foldlM_value hrun hframes) hgoesOn
    obtain ⟨rfl, hitems⟩ := List.append_eq_singleton_iff.mp hframes |>.resolve_right (by simp)
    obtain rfl : items = [v] := by simpa using hitems
    rcases hplace with hplace | hplace
    · exact absurd rfl (hfirst hplace)
    · obtain rfl : place = .afterValue := hplace
      exact hs
  rintro done place (rfl | rfl)
  · exact hvalue done
  · refine foldlM_firstItem (hvalue done) fun hplace => ?_
    cases hplace

end Retained

/-! ### Elements with commas between them -/

/-- The tokens of an element. -/
theorem IsElement.exists_tokens {t : Text} {v : Json} (h : IsElement t v) :
    ∃ tokens, Ends t tokens ∧ ReadsItem tokens v := by
  obtain ⟨tokens, htokens, hread⟩ := Option.bind_eq_some_iff.mp h
  obtain ⟨more, hmore, rfl⟩ := tokens?_arrayText_singleton.mp htokens
  exact ⟨more, hmore, readsItem_of_ofTokens? hread⟩

/-- What ends and is read as an item is an element. -/
theorem Ends.isElement {t : Text} {tokens : List Token} {v : Json} (ht : Ends t tokens)
    (hv : ReadsItem tokens v) : IsElement t v := by
  have htokens := tokens?_arrayText_singleton.mpr ⟨tokens, ht, rfl⟩
  have hopen : Reader.step .start .openArray = some ⟨[.array []], .firstItem⟩ := rfl
  rw [IsElement, ofText?, htokens, Option.bind_some, ofTokens?, List.cons_append,
    foldlM_cons_of_some hopen, foldlM_append_of_some (hv [] .firstItem (.inr rfl))]
  rfl

/-- Elements behind an opening bracket, up to the closing one. -/
theorem exists_tokens_of_elements {texts : List Text} {values : List Json}
    (h : List.Forall₂ IsElement texts values) (hne : texts ≠ []) :
    ∃ tokens, Lexes (Text.joinWith [','] texts ++ [']']) (tokens ++ [.closeArray]) ∧
      ∀ done (place : Place), place.ForValue →
        tokens.foldlM Reader.step ⟨[.array done], place⟩ =
          some ⟨[.array (values.reverse ++ done)], .afterValue⟩ := by
  induction h with
  | nil => exact absurd rfl hne
  | @cons t v texts values htv hrest ih =>
      obtain ⟨tokens, hends, hreads⟩ := htv.exists_tokens
      cases hrest with
      | nil => exact ⟨tokens, hends mark_closeArray, hreads⟩
      | @cons t' v' texts values htv' hrest =>
          obtain ⟨more, hlexes, hmore⟩ := ih (List.cons_ne_nil _ _)
          refine ⟨tokens ++ [.comma] ++ more, ?_, ?_⟩
          · have hwhole := (hends mark_comma).append hlexes
            simpa [Text.joinWith] using hwhole
          · intro done place hplace
            have hcomma : Reader.step ⟨[.array (v :: done)], .afterValue⟩ .comma =
                some ⟨[.array (v :: done)], .value⟩ := rfl
            rw [List.append_assoc, foldlM_append_of_some (hreads done place hplace),
              List.singleton_append, foldlM_cons_of_some hcomma, hmore _ _ (.inl rfl)]
            simp

/-- **Elements together** are read as the array of their values. -/
theorem ofText?_arrayText {texts : List Text} {values : List Json}
    (h : List.Forall₂ IsElement texts values) :
    ofText? (arrayText texts) = some (.array values) := by
  by_cases hne : texts = []
  · subst hne
    cases h
    rfl
  · obtain ⟨tokens, hlexes, hreads⟩ := exists_tokens_of_elements h hne
    have hbracket : Lexes ['['] [.openArray] := .mark fun _ => rfl
    have htokens : tokens? (arrayText texts) = some (.openArray :: tokens ++ [.closeArray]) := by
      rw [tokens?, Lexer.start, arrayText, List.cons_append, ← List.singleton_append,
        (hbracket.append hlexes) [], Option.bind_some]
      simp [Lexer.finish?]
    have hopen : Reader.step .start .openArray = some ⟨[.array []], .firstItem⟩ := rfl
    rw [ofText?, htokens, Option.bind_some, ofTokens?, List.cons_append,
      foldlM_cons_of_some hopen, foldlM_append_of_some (hreads [] .firstItem (.inr rfl))]
    show some (Json.array (values.reverse ++ []).reverse) = _
    rw [List.append_nil, List.reverse_reverse]

end Json

end BuildEnv
