import BuildEnv.Json.Reader
import Mathlib.Tactic.IntervalCases

/-!
# What is written is read again

A value that is made of strings, arrays and objects is read back from its
indented text, whatever the strings hold.  The proof goes through the tokens of
the value (`Json.tokens`): the lexer gathers them from the text
(`Json.Textual.lexes_indented`), and the reader makes the value of them
(`Json.Textual.reads_tokens`), as long as no more arrays and objects are open
than the reader allows.

* `Json.Textual.ofText?_pretty`: the indented text, with whatever blanks behind
  it, is read as the value.
-/

namespace BuildEnv

namespace Json

mutual

/-- The tokens of a value. -/
def tokens : Json → List Token
  | null => [.null]
  | bool b => [.bool b]
  | number n => [.number n]
  | string t => [.string t]
  | array items => .openArray :: itemTokens items ++ [.closeArray]
  | object fields => .openObject :: fieldTokens fields ++ [.closeObject]

/-- The tokens of items, with commas between them. -/
def itemTokens : List Json → List Token
  | [] => []
  | [v] => tokens v
  | v :: rest => tokens v ++ .comma :: itemTokens rest

/-- The tokens of fields, with commas between them. -/
def fieldTokens : List (Text × Json) → List Token
  | [] => []
  | [(key, v)] => .string key :: .colon :: tokens v
  | (key, v) :: rest => .string key :: .colon :: tokens v ++ .comma :: fieldTokens rest

end

/-- Values made of strings alone, with arrays and objects in each other up to
some depth. -/
inductive Textual : Nat → Json → Prop
  | string (d : Nat) (t : Text) : Textual d (string t)
  | array {d : Nat} {items : List Json} (h : ∀ v ∈ items, Textual d v) :
      Textual (d + 1) (array items)
  | object {d : Nat} {fields : List (Text × Json)} (h : ∀ f ∈ fields, Textual d f.2) :
      Textual (d + 1) (object fields)

/-- A machine that gets past the first part of its input goes on with the
second. -/
theorem foldlM_append_of_some {σ α : Type} {step : σ → α → Option σ} {xs ys : List α} {s t : σ}
    (h : xs.foldlM step s = some t) : (xs ++ ys).foldlM step s = ys.foldlM step t := by
  rw [List.foldlM_append, h, Option.bind_eq_bind, Option.bind_some]

/-- A fold takes its first step, if that does not fail, and goes on. -/
theorem foldlM_cons_of_some {σ α : Type} {step : σ → α → Option σ} {x : α} {ys : List α} {s t : σ}
    (h : step s x = some t) : (x :: ys).foldlM step s = ys.foldlM step t := by
  rw [List.foldlM_cons, h, Option.bind_eq_bind, Option.bind_some]

/-- A list that is read item by item. -/
theorem mapM_map_eq_some {α β γ : Type} {read : β → Option γ} {write : α → β} {image : α → γ}
    {l : List α} (h : ∀ a ∈ l, read (write a) = some (image a)) :
    (l.map write).mapM read = some (l.map image) := by
  induction l with
  | nil => rfl
  | cons a rest ih =>
      have hrest := ih fun b hb => h b (List.mem_cons_of_mem _ hb)
      rw [List.map_cons, List.mapM_cons, h a List.mem_cons_self, hrest]
      rfl

section Lexing

/-- Between two tokens, a text is gathered into some more tokens. -/
def Lexes (t : Text) (tokens : List Token) : Prop :=
  ∀ before, t.foldlM Lexer.step ⟨before, .between⟩ = some ⟨tokens.reverse ++ before, .between⟩

/-- The tokens of two texts stand one after the other. -/
theorem Lexes.append {s t : Text} {as bs : List Token} (hs : Lexes s as) (ht : Lexes t bs) :
    Lexes (s ++ t) (as ++ bs) := by
  intro before
  rw [foldlM_append_of_some (hs before), ht, List.reverse_append, List.append_assoc]

/-- A character that is a token of its own. -/
theorem Lexes.mark {c : Char} {token : Token}
    (h : ∀ before, Lexer.step ⟨before, .between⟩ c = some ⟨token :: before, .between⟩) :
    Lexes [c] [token] := by
  intro before
  exact foldlM_cons_of_some (h before)

/-- Blanks are no tokens. -/
theorem lexes_blanks {t : Text} (h : ∀ c ∈ t, c = ' ' ∨ c = '\n') : Lexes t [] := by
  intro before
  induction t with
  | nil => rfl
  | cons c rest ih =>
      have hstep : Lexer.step ⟨before, .between⟩ c = some ⟨before, .between⟩ := by
        rcases h c List.mem_cons_self with rfl | rfl <;> rfl
      rw [foldlM_cons_of_some hstep]
      exact ih fun d hd => h d (List.mem_cons_of_mem _ hd)

theorem lexes_newLine (level : Nat) : Lexes (newLine level) [] := by
  refine lexes_blanks fun c hc => ?_
  rcases List.mem_cons.mp hc with rfl | hc
  · exact .inr rfl
  · exact .inl (List.eq_of_mem_replicate hc)

/-- The code of a control character. -/
theorem foldlM_codeDigits {n : Nat} (hn : n < 0x20) (before : List Token) (chars : Text) :
    ('\\' :: 'u' :: codeDigits n).foldlM Lexer.step ⟨before, .string chars .none⟩ =
      some ⟨before, .string (Char.ofNat n :: chars) .none⟩ := by
  interval_cases n <;> rfl

/-- **A character in a string** is read as itself. -/
theorem foldlM_escaped (c : Char) (before : List Token) (chars : Text) :
    (escaped c).foldlM Lexer.step ⟨before, .string chars .none⟩ =
      some ⟨before, .string (c :: chars) .none⟩ := by
  unfold escaped
  split
  iterate 7 rfl
  next hquote hbackslash _ _ _ _ _ =>
    split
    · next hcontrol =>
      have hcode := foldlM_codeDigits hcontrol before chars
      rwa [Char.ofNat_toNat] at hcode
    · next hcontrol =>
      have hstep : Lexer.step ⟨before, .string chars .none⟩ c =
          some ⟨before, .string (c :: chars) .none⟩ := by
        show Lexer.stepString before chars .none c = _
        rw [Lexer.stepString, if_neg hquote, if_neg hbackslash, if_neg hcontrol]
      exact foldlM_cons_of_some hstep

/-- A string is one token. -/
theorem lexes_quoted (t : Text) : Lexes (quoted t) [.string t] := by
  have hchars : ∀ before chars, (t.flatMap escaped).foldlM Lexer.step
      ⟨before, .string chars .none⟩ = some ⟨before, .string (t.reverse ++ chars) .none⟩ := by
    intro before
    induction t with
    | nil => intro chars; rfl
    | cons c rest ih =>
        intro chars
        rw [List.flatMap_cons, foldlM_append_of_some (foldlM_escaped c before chars), ih,
          List.reverse_cons, List.append_assoc, List.singleton_append]
  intro before
  have hopen : Lexer.step ⟨before, .between⟩ '"' = some ⟨before, .string [] .none⟩ := rfl
  rw [quoted, List.cons_append, foldlM_cons_of_some hopen, foldlM_append_of_some (hchars before []),
    List.append_nil]
  show some (Lexer.mk (.string t.reverse.reverse :: before) .between) = _
  rw [List.reverse_reverse]
  rfl

theorem lexes_comma : Lexes [','] [.comma] :=
  .mark fun _ => rfl

/-- Items one level deeper are gathered into their tokens. -/
theorem lexes_indentedItems {level : Nat} {items : List Json}
    (h : ∀ v ∈ items, Lexes (indented level v) v.tokens) :
    Lexes (indentedItems level items) (itemTokens items) := by
  induction items with
  | nil => exact fun _ => rfl
  | cons v rest ih =>
      have hv : Lexes (newLine level ++ indented level v) v.tokens :=
        (lexes_newLine level).append (h v List.mem_cons_self)
      have hrest := ih fun w hw => h w (List.mem_cons_of_mem _ hw)
      cases rest with
      | nil => exact hv
      | cons w rest => exact hv.append (lexes_comma.append hrest)

/-- Fields one level deeper are gathered into their tokens. -/
theorem lexes_indentedFields {level : Nat} {fields : List (Text × Json)}
    (h : ∀ f ∈ fields, Lexes (indented level f.2) f.2.tokens) :
    Lexes (indentedFields level fields) (fieldTokens fields) := by
  induction fields with
  | nil => exact fun _ => rfl
  | cons f rest ih =>
      obtain ⟨key, v⟩ := f
      have hcolon : Lexes ": ".toList [.colon] := fun _ => rfl
      have hf : Lexes (newLine level ++ quoted key ++ ": ".toList ++ indented level v)
          (.string key :: .colon :: v.tokens) :=
        (((lexes_newLine level).append (lexes_quoted key)).append hcolon).append
          (h (key, v) List.mem_cons_self)
      have hrest := ih fun g hg => h g (List.mem_cons_of_mem _ hg)
      cases rest with
      | nil => exact hf
      | cons g rest => exact hf.append (lexes_comma.append hrest)

/-- **The text of a value** is gathered into the tokens of the value. -/
theorem Textual.lexes_indented {d : Nat} {v : Json} (h : Textual d v) (level : Nat) :
    Lexes (indented level v) v.tokens := by
  induction h generalizing level with
  | string d t => exact lexes_quoted t
  | @array d items h ih =>
      cases items with
      | nil => exact fun _ => rfl
      | cons v rest =>
          have hopen : Lexes ['['] [.openArray] := .mark fun _ => rfl
          have hclose : Lexes [']'] [.closeArray] := .mark fun _ => rfl
          have hitems := lexes_indentedItems fun w hw => ih w hw (level + 1)
          have hwhole := ((hopen.append hitems).append (lexes_newLine level)).append hclose
          rwa [List.append_nil] at hwhole
  | @object d fields h ih =>
      cases fields with
      | nil => exact fun _ => rfl
      | cons f rest =>
          have hopen : Lexes ['\x7b'] [.openObject] := .mark fun _ => rfl
          have hclose : Lexes ['\x7d'] [.closeObject] := .mark fun _ => rfl
          have hfields := lexes_indentedFields fun g hg => ih g hg (level + 1)
          have hwhole := ((hopen.append hfields).append (lexes_newLine level)).append hclose
          rwa [List.append_nil] at hwhole

end Lexing

section Reading

open Reader (deliver)

/-- The places where a value may begin. -/
def Place.ForValue (place : Place) : Prop :=
  place = .value ∨ place = .firstItem

/-- Wherever a value may begin and some more arrays and objects may be opened,
tokens are read as a value. -/
def Reads (tokens : List Token) (v : Json) (depth : Nat) : Prop :=
  ∀ frames (place : Place), frames.length + depth ≤ maxDepth → place.ForValue →
    tokens.foldlM Reader.step ⟨frames, place⟩ = some (deliver frames v)

/-- The token of a string is read as this string. -/
theorem reads_string (t : Text) (d : Nat) : Reads [.string t] (string t) d := by
  rintro frames place - (rfl | rfl) <;> rfl

/-- Items are read into the array that is open. -/
theorem foldlM_itemTokens {d : Nat} {items : List Json} (h : ∀ v ∈ items, Reads v.tokens v d)
    {frames : List Frame} (hroom : frames.length + 1 + d ≤ maxDepth) (done : List Json)
    {place : Place} (hplace : place.ForValue) (hne : items ≠ []) :
    (itemTokens items).foldlM Reader.step ⟨.array done :: frames, place⟩ =
      some ⟨.array (items.reverse ++ done) :: frames, .afterValue⟩ := by
  induction items generalizing done place with
  | nil => exact absurd rfl hne
  | cons v rest ih =>
      have hv := h v List.mem_cons_self (.array done :: frames) place hroom hplace
      cases rest with
      | nil => exact hv
      | cons w rest =>
          have hcomma : Reader.step (deliver (.array done :: frames) v) .comma =
              some ⟨.array (v :: done) :: frames, .value⟩ := rfl
          rw [itemTokens, foldlM_append_of_some hv, foldlM_cons_of_some hcomma,
            ih (fun x hx => h x (List.mem_cons_of_mem _ hx)) (v :: done) (.inl rfl)
              (List.cons_ne_nil _ _)]
          · simp
          · exact List.cons_ne_nil _ _

/-- Fields are read into the object that is open. -/
theorem foldlM_fieldTokens {d : Nat} {fields : List (Text × Json)}
    (h : ∀ f ∈ fields, Reads f.2.tokens f.2 d) {frames : List Frame}
    (hroom : frames.length + 1 + d ≤ maxDepth) (done : List (Text × Json)) {place : Place}
    (hplace : place = .key ∨ place = .firstKey) (hne : fields ≠ []) :
    (fieldTokens fields).foldlM Reader.step ⟨.object done [] :: frames, place⟩ =
      some ⟨.object (fields.reverse ++ done) [] :: frames, .afterValue⟩ := by
  induction fields generalizing done place with
  | nil => exact absurd rfl hne
  | cons f rest ih =>
      obtain ⟨key, v⟩ := f
      have hkey : Reader.step ⟨.object done [] :: frames, place⟩ (.string key) =
          some ⟨.object done key :: frames, .colon⟩ := by
        rcases hplace with rfl | rfl <;> rfl
      have hcolon : Reader.step ⟨.object done key :: frames, .colon⟩ .colon =
          some ⟨.object done key :: frames, .value⟩ := rfl
      have hv := h (key, v) List.mem_cons_self (.object done key :: frames) .value hroom (.inl rfl)
      have hfield : (.string key :: .colon :: v.tokens : List Token).foldlM Reader.step
          ⟨.object done [] :: frames, place⟩ =
            some ⟨.object ((key, v) :: done) [] :: frames, .afterValue⟩ := by
        rw [foldlM_cons_of_some hkey, foldlM_cons_of_some hcolon]
        exact hv
      cases rest with
      | nil => exact hfield
      | cons g rest =>
          have hcomma : Reader.step ⟨.object ((key, v) :: done) [] :: frames, .afterValue⟩ .comma =
              some ⟨.object ((key, v) :: done) [] :: frames, .key⟩ := rfl
          rw [fieldTokens, foldlM_append_of_some hfield, foldlM_cons_of_some hcomma,
            ih (fun x hx => h x (List.mem_cons_of_mem _ hx)) ((key, v) :: done) (.inl rfl)
              (List.cons_ne_nil _ _)]
          · simp
          · exact List.cons_ne_nil _ _

/-- An array or object may be opened where there is room for one more. -/
theorem enter_eq {frames : List Frame} {d : Nat} (hroom : frames.length + (d + 1) ≤ maxDepth)
    (frame : Frame) (place : Place) :
    Reader.enter frames frame place = some ⟨frame :: frames, place⟩ :=
  if_pos (by omega)

/-- An array is read if its items are. -/
theorem reads_array {d : Nat} {items : List Json} (h : ∀ v ∈ items, Reads v.tokens v d) :
    Reads (array items).tokens (array items) (d + 1) := by
  intro frames place hroom hplace
  have hopen : Reader.step ⟨frames, place⟩ .openArray =
      some ⟨.array [] :: frames, .firstItem⟩ := by
    rw [← enter_eq hroom]
    rcases hplace with rfl | rfl <;> rfl
  rw [tokens, List.cons_append, foldlM_cons_of_some hopen]
  by_cases hitems : items = []
  · subst hitems
    rfl
  · rw [foldlM_append_of_some (foldlM_itemTokens h (by omega) [] (.inr rfl) hitems)]
    show some (deliver frames (.array (items.reverse ++ []).reverse)) = _
    rw [List.append_nil, List.reverse_reverse]

/-- An object is read if its fields are. -/
theorem reads_object {d : Nat} {fields : List (Text × Json)}
    (h : ∀ f ∈ fields, Reads f.2.tokens f.2 d) :
    Reads (object fields).tokens (object fields) (d + 1) := by
  intro frames place hroom hplace
  have hopen : Reader.step ⟨frames, place⟩ .openObject =
      some ⟨.object [] [] :: frames, .firstKey⟩ := by
    rw [← enter_eq hroom]
    rcases hplace with rfl | rfl <;> rfl
  rw [tokens, List.cons_append, foldlM_cons_of_some hopen]
  by_cases hfields : fields = []
  · subst hfields
    rfl
  · rw [foldlM_append_of_some (foldlM_fieldTokens h (by omega) [] (.inr rfl) hfields)]
    show some (deliver frames (.object (fields.reverse ++ []).reverse)) = _
    rw [List.append_nil, List.reverse_reverse]

/-- **The tokens of a value** are read as the value. -/
theorem Textual.reads_tokens {d : Nat} {v : Json} (h : Textual d v) : Reads v.tokens v d := by
  induction h with
  | string d t => exact reads_string t d
  | array _ ih => exact reads_array ih
  | object _ ih => exact reads_object ih

end Reading

/-- **What is written is read again**, blanks behind it notwithstanding. -/
theorem Textual.ofText?_pretty {d : Nat} {v : Json} (h : Textual d v) (hd : d ≤ maxDepth)
    {blanks : Text} (hblanks : ∀ c ∈ blanks, c = ' ' ∨ c = '\n') :
    ofText? (v.pretty ++ blanks) = some v := by
  have hlexes := (h.lexes_indented 0).append (lexes_blanks hblanks) []
  have htokens : tokens? (v.pretty ++ blanks) = some v.tokens := by
    rw [tokens?, Lexer.start, pretty, hlexes, Option.bind_some]
    simp [Lexer.finish?]
  have hreads := h.reads_tokens [] .value (by simpa using hd) (.inl rfl)
  rw [ofText?, htokens, Option.bind_some, ofTokens?, Reader.start, hreads]
  rfl

end Json

end BuildEnv
