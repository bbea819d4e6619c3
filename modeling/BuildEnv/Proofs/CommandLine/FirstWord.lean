import BuildEnv.CommandLine.Shell
import BuildEnv.Proofs.CommandLine.Quoting

/-!
# The first word by two sets of rules

A shell and Windows split a command line differently.  They differ about
backslashes, about single quotes outside of double ones, about comments and about the
blanks beyond space, tab and line feed.  A first word in which nothing of that occurs
(`Front`) is the same for both, whatever stands behind it: neither scanner takes a
finished word back (`Shell.Scan.finish_onto`, `Windows.Scan.finish_onto`).

* `Front.head?_windows`, `Front.head?_shell`: the first word by either set of rules.
-/

namespace BuildEnv

namespace CommandLine

/-- A part of a word, outside of double quotes or with double quotes around it. -/
inductive WordPart where
  | bare (t : Text)
  | quoted (t : Text)
  deriving DecidableEq, Repr

namespace WordPart

/-- How the part is written. -/
def text : WordPart → Text
  | bare t => t
  | quoted t => '"' :: (t ++ ['"'])

/-- What the part gives to its word. -/
def content : WordPart → Text
  | bare t => t
  | quoted t => t

/-- The characters that stand for themselves outside of double quotes. -/
def isOrdinary (c : Char) : Bool :=
  !Text.isBlank c && c != '\'' && c != '"' && c != '\\'

/-- Both sets of rules read the part alike. -/
def alike : WordPart → Bool
  | bare t => !t.isEmpty && t.all isOrdinary
  | quoted t => t.all fun c => c != '"' && c != '\\'

/-- A character that stands for itself, in what the scanners ask of it. -/
structure Ordinary (c : Char) : Prop where
  not_blank : Text.isBlank c = false
  ne_single : c ≠ '\''
  ne_double : c ≠ '"'
  ne_slash : c ≠ '\\'

/-- The test for ordinary characters. -/
theorem ordinary_of_isOrdinary {c : Char} (h : isOrdinary c) : Ordinary c := by
  simp only [isOrdinary, Bool.and_eq_true, bne_iff_ne, Bool.not_eq_true'] at h
  obtain ⟨⟨⟨hblank, hsingle⟩, hdouble⟩, hslash⟩ := h
  exact ⟨hblank, hsingle, hdouble, hslash⟩

/-- A part without quotes holds ordinary characters, and at least one. -/
theorem bare_of_alike {t : Text} (h : (bare t).alike) : t ≠ [] ∧ ∀ c ∈ t, Ordinary c := by
  simp only [alike, Bool.and_eq_true, List.all_eq_true, Bool.not_eq_true',
    List.isEmpty_eq_false_iff] at h
  exact ⟨h.1, fun c hc => ordinary_of_isOrdinary (h.2 c hc)⟩

/-- A part in quotes holds all but quotes and backslashes. -/
theorem quoted_of_alike {t : Text} (h : (quoted t).alike) : ∀ c ∈ t, c ≠ '"' ∧ c ≠ '\\' := by
  simpa only [alike, List.all_eq_true, Bool.and_eq_true, bne_iff_ne] using h

end WordPart

section Growing

variable {State : Type} {step : State → Char → State} (growing : Text → State)

/-- A scanner that takes each character of a text into the word in progress takes the
text into it. -/
theorem foldl_take {t : Text} (h : ∀ c ∈ t, ∀ word, step (growing word) c = growing (c :: word))
    (word : Text) : t.foldl step (growing word) = growing (t.reverse ++ word) := by
  induction t generalizing word with
  | nil => rfl
  | cons c t ih =>
      rw [List.foldl_cons, h c List.mem_cons_self,
        ih (fun d hd => h d (List.mem_cons_of_mem _ hd)), List.reverse_cons, List.append_assoc]
      rfl

/-- The same for the parts of a word. -/
theorem foldl_take_parts {parts : List WordPart}
    (h : ∀ part ∈ parts, ∀ word,
      part.text.foldl step (growing word) = growing (part.content.reverse ++ word))
    (word : Text) :
    (parts.flatMap WordPart.text).foldl step (growing word) =
      growing ((parts.flatMap WordPart.content).reverse ++ word) := by
  induction parts generalizing word with
  | nil => rfl
  | cons part more ih =>
      rw [List.flatMap_cons, List.flatMap_cons, List.foldl_append, h part List.mem_cons_self,
        ih (fun other hother => h other (List.mem_cons_of_mem _ hother)), List.reverse_append,
        List.append_assoc]

end Growing

/-- A command line with a first word that both sets of rules read alike. -/
structure Front where
  gap : Text
  parts : List WordPart
  rest : Text
  gap_separates : ∀ c ∈ gap, Shell.Scan.isSeparator c
  parts_alike : ∀ part ∈ parts, part.alike
  /-- There is a word, and it is no comment. -/
  begins : ∃ c, (parts.flatMap WordPart.text).head? = some c ∧ c ≠ '#'
  rest_separates : ∀ c, rest.head? = some c → Shell.Scan.isSeparator c

namespace Front

/-- The command line. -/
def text (f : Front) : Text :=
  f.gap ++ (f.parts.flatMap WordPart.text ++ f.rest)

/-- Its first word. -/
def first (f : Front) : Text :=
  f.parts.flatMap WordPart.content

/-- The first part of the first word. -/
theorem exists_parts (f : Front) :
    ∃ part more, f.parts = part :: more ∧ part.text.head? ≠ some '#' := by
  obtain ⟨c, hc, hne⟩ := f.begins
  have halike := f.parts_alike
  cases hparts : f.parts with
  | nil =>
      rw [hparts] at hc
      cases hc
  | cons part more =>
      refine ⟨part, more, rfl, ?_⟩
      rw [hparts] at hc halike
      have hsome : part.text.head? = some c := by
        cases part with
        | bare t =>
            obtain ⟨hne, -⟩ := WordPart.bare_of_alike (halike _ List.mem_cons_self)
            obtain ⟨d, t, rfl⟩ := List.exists_cons_of_ne_nil hne
            exact hc
        | quoted t => exact hc
      rw [hsome]
      exact fun h => hne (Option.some.inj h)

end Front

namespace Windows

open WordPart (Ordinary)

namespace Scan

variable (words : List Text)

/-- The Windows rules append an ordinary character to the word. -/
theorem step_ordinary (word : Option Text) {c : Char} (h : Ordinary c) :
    (⟨words, word, 0, false⟩ : Scan).step c = ⟨words, some (c :: word.getD []), 0, false⟩ := by
  rw [step, if_neg h.ne_slash, if_neg h.ne_double, if_neg (by simp [h.not_blank])]
  rfl

/-- One part grows the word in progress, or begins it. -/
theorem foldl_step_part (word : Option Text) {part : WordPart} (h : part.alike) :
    part.text.foldl step ⟨words, word, 0, false⟩ =
      ⟨words, some (part.content.reverse ++ word.getD []), 0, false⟩ := by
  cases part with
  | bare t =>
      obtain ⟨hne, hall⟩ := WordPart.bare_of_alike h
      obtain ⟨c, t, rfl⟩ := List.exists_cons_of_ne_nil hne
      have hrest : ∀ d ∈ t, ∀ w : Text, (⟨words, some w, 0, false⟩ : Scan).step d =
          ⟨words, some (d :: w), 0, false⟩ := fun d hd w =>
        step_ordinary words (some w) (hall d (List.mem_cons_of_mem _ hd))
      show (c :: t).foldl step _ = ⟨words, some ((c :: t).reverse ++ _), 0, false⟩
      rw [List.foldl_cons, step_ordinary words word (hall c List.mem_cons_self),
        foldl_take (fun w => (⟨words, some w, 0, false⟩ : Scan)) hrest, List.reverse_cons,
        List.append_assoc]
      rfl
  | quoted t =>
      have hall := WordPart.quoted_of_alike h
      have hopen : (⟨words, word, 0, false⟩ : Scan).step '"' =
          ⟨words, some (word.getD []), 0, true⟩ := rfl
      have hinside : ∀ c ∈ t, ∀ w : Text, (⟨words, some w, 0, true⟩ : Scan).step c =
          ⟨words, some (c :: w), 0, true⟩ := fun c hc w =>
        step_quoted words w 0 (hall c hc).2 (hall c hc).1
      show ('"' :: (t ++ ['"'])).foldl step _ = ⟨words, some (t.reverse ++ _), 0, false⟩
      rw [List.foldl_cons, hopen, List.foldl_append,
        foldl_take (fun w => (⟨words, some w, 0, true⟩ : Scan)) hinside]
      rfl

end Scan

end Windows

namespace Shell

open WordPart (Ordinary)

/-- What separates words for a shell is a blank. -/
theorem isBlank_of_isSeparator {c : Char} (h : Scan.isSeparator c) : Text.isBlank c := by
  simp only [Scan.isSeparator, Bool.or_eq_true, beq_iff_eq] at h
  rcases h with (rfl | rfl) | rfl <;> decide

/-- An ordinary character separates no words for a shell. -/
theorem isSeparator_of_ordinary {c : Char} (h : Ordinary c) : Scan.isSeparator c = false := by
  cases hseparator : Scan.isSeparator c with
  | false => rfl
  | true =>
      have hblank := isBlank_of_isSeparator hseparator
      rw [h.not_blank] at hblank
      cases hblank

namespace Scan

/-- The scanner with finished words before its own. -/
def onto (s : Scan) (earlier : List Text) : Scan :=
  { s with words := s.words ++ earlier }

/-- A step keeps the words that were finished before. -/
theorem step_onto (s : Scan) (earlier : List Text) (c : Char) :
    (s.onto earlier).step c = (s.step c).onto earlier := by
  obtain ⟨place, word, words⟩ := s
  cases place
  all_goals
    simp only [step, onto]
    repeat' split
    all_goals rfl

theorem foldl_step_onto (s : Scan) (earlier : List Text) (t : Text) :
    t.foldl step (s.onto earlier) = (t.foldl step s).onto earlier := by
  induction t generalizing s with
  | nil => rfl
  | cons c rest ih => rw [List.foldl_cons, List.foldl_cons, step_onto, ih]

theorem finish_onto (s : Scan) (earlier : List Text) :
    (s.onto earlier).finish = s.finish.map (earlier.reverse ++ ·) := by
  obtain ⟨place, word, words⟩ := s
  cases place <;> simp [finish, onto, endWord, put]

variable (words : List Text)

/-- Between words a separator changes nothing. -/
theorem step_between_separator {c : Char} (h : isSeparator c) (word : Text) :
    (⟨.between, word, words⟩ : Scan).step c = ⟨.between, word, words⟩ := by
  have hblank := isBlank_of_isSeparator h
  have hsingle : c ≠ '\'' := Text.ne_of_isBlank hblank (by decide)
  have hdouble : c ≠ '"' := Text.ne_of_isBlank hblank (by decide)
  have hslash : c ≠ '\\' := Text.ne_of_isBlank hblank (by decide)
  simp [step, hsingle, hdouble, hslash, h]

/-- A separator ends the word in progress. -/
theorem step_plain_separator {c : Char} (h : isSeparator c) (word : Text) :
    (⟨.plain, word, words⟩ : Scan).step c = ⟨.between, [], word.reverse :: words⟩ := by
  have hblank := isBlank_of_isSeparator h
  have hsingle : c ≠ '\'' := Text.ne_of_isBlank hblank (by decide)
  have hdouble : c ≠ '"' := Text.ne_of_isBlank hblank (by decide)
  have hslash : c ≠ '\\' := Text.ne_of_isBlank hblank (by decide)
  simp [step, hsingle, hdouble, hslash, h, endWord]

/-- Within a word an ordinary character is appended. -/
theorem step_plain_ordinary {c : Char} (h : Ordinary c) (word : Text) :
    (⟨.plain, word, words⟩ : Scan).step c = ⟨.plain, c :: word, words⟩ := by
  simp [step, put, h.ne_single, h.ne_double, h.ne_slash, isSeparator_of_ordinary h]

/-- Between words an ordinary character begins the next one, unless it begins a comment.
-/
theorem step_between_ordinary {c : Char} (h : Ordinary c) (hcomment : c ≠ '#') (word : Text) :
    (⟨.between, word, words⟩ : Scan).step c = ⟨.plain, c :: word, words⟩ := by
  simp [step, put, h.ne_single, h.ne_double, h.ne_slash, isSeparator_of_ordinary h, hcomment]

/-- Any number of separators stands between two words. -/
theorem foldl_step_separators {t : Text} (h : ∀ c ∈ t, isSeparator c) (word : Text) :
    t.foldl step ⟨.between, word, words⟩ = ⟨.between, word, words⟩ := by
  induction t with
  | nil => rfl
  | cons c t ih =>
      rw [List.foldl_cons, step_between_separator words (h c List.mem_cons_self)]
      exact ih fun d hd => h d (List.mem_cons_of_mem _ hd)

/-- One part grows the word in progress, or begins it. -/
theorem foldl_step_part {place : Place} (word : Text) {part : WordPart} (h : part.alike)
    (hplace : place = .plain ∨ place = .between ∧ part.text.head? ≠ some '#') :
    part.text.foldl step ⟨place, word, words⟩ = ⟨.plain, part.content.reverse ++ word, words⟩ := by
  cases part with
  | bare t =>
      obtain ⟨hne, hall⟩ := WordPart.bare_of_alike h
      obtain ⟨c, t, rfl⟩ := List.exists_cons_of_ne_nil hne
      have hfirst : (⟨place, word, words⟩ : Scan).step c = ⟨.plain, c :: word, words⟩ := by
        rcases hplace with rfl | ⟨rfl, hcomment⟩
        · exact step_plain_ordinary words (hall c List.mem_cons_self) word
        · refine step_between_ordinary words (hall c List.mem_cons_self) ?_ word
          exact fun hc => hcomment (congrArg some hc)
      have hrest : ∀ d ∈ t, ∀ w, (⟨.plain, w, words⟩ : Scan).step d = ⟨.plain, d :: w, words⟩ :=
        fun d hd w => step_plain_ordinary words (hall d (List.mem_cons_of_mem _ hd)) w
      show (c :: t).foldl step _ = ⟨.plain, (c :: t).reverse ++ word, words⟩
      rw [List.foldl_cons, hfirst, foldl_take (fun w => (⟨.plain, w, words⟩ : Scan)) hrest,
        List.reverse_cons, List.append_assoc]
      rfl
  | quoted t =>
      have hall := WordPart.quoted_of_alike h
      have hopen : (⟨place, word, words⟩ : Scan).step '"' = ⟨.double, word, words⟩ := by
        rcases hplace with rfl | ⟨rfl, -⟩ <;> rfl
      have hinside : ∀ c ∈ t, ∀ w, (⟨.double, w, words⟩ : Scan).step c =
          ⟨.double, c :: w, words⟩ := fun c hc w => by
        simp [step, put, (hall c hc).1, (hall c hc).2]
      show ('"' :: (t ++ ['"'])).foldl step _ = ⟨.plain, t.reverse ++ word, words⟩
      rw [List.foldl_cons, hopen, List.foldl_append,
        foldl_take (fun w => (⟨.double, w, words⟩ : Scan)) hinside]
      rfl

end Scan

end Shell

namespace Front

/-- The scanner of Windows behind the first word. -/
theorem scan_parts (f : Front) :
    Windows.scan (f.parts.flatMap WordPart.text) = ⟨[], some f.first.reverse, 0, false⟩ := by
  have halike := f.parts_alike
  obtain ⟨part, more, hparts, -⟩ := f.exists_parts
  rw [hparts] at halike
  have hfirst := Windows.Scan.foldl_step_part [] none (halike part List.mem_cons_self)
  have hmore : ∀ other ∈ more, ∀ w : Text,
      other.text.foldl Windows.Scan.step ⟨[], some w, 0, false⟩ =
        ⟨[], some (other.content.reverse ++ w), 0, false⟩ := fun other hother w =>
    Windows.Scan.foldl_step_part [] (some w) (halike other (List.mem_cons_of_mem _ hother))
  show (f.parts.flatMap WordPart.text).foldl Windows.Scan.step ⟨[], none, 0, false⟩ = _
  rw [first, hparts, List.flatMap_cons, List.flatMap_cons, List.foldl_append, hfirst,
    foldl_take_parts (fun w => (⟨[], some w, 0, false⟩ : Windows.Scan)) hmore,
    List.reverse_append]
  simp

/-- The scanner of the shell behind the first word. -/
theorem foldl_shell_parts (f : Front) :
    (f.parts.flatMap WordPart.text).foldl Shell.Scan.step .start =
      ⟨.plain, f.first.reverse, []⟩ := by
  have halike := f.parts_alike
  obtain ⟨part, more, hparts, hcomment⟩ := f.exists_parts
  rw [hparts] at halike
  have hfirst := Shell.Scan.foldl_step_part [] [] (halike part List.mem_cons_self)
    (.inr ⟨rfl, hcomment⟩)
  have hmore : ∀ other ∈ more, ∀ w,
      other.text.foldl Shell.Scan.step ⟨.plain, w, []⟩ =
        ⟨.plain, other.content.reverse ++ w, []⟩ := fun other hother w =>
    Shell.Scan.foldl_step_part [] w (halike other (List.mem_cons_of_mem _ hother)) (.inl rfl)
  show (f.parts.flatMap WordPart.text).foldl Shell.Scan.step ⟨.between, [], []⟩ = _
  rw [first, hparts, List.flatMap_cons, List.flatMap_cons, List.foldl_append, hfirst,
    foldl_take_parts (fun w => (⟨.plain, w, []⟩ : Shell.Scan)) hmore, List.reverse_append]
  simp

/-- **The first word by the rules of Windows.** -/
theorem head?_windows (f : Front) : (Windows.split f.text).head? = some f.first := by
  have hgap : ∀ c ∈ f.gap, Text.isBlank c := fun c hc =>
    Shell.isBlank_of_isSeparator (f.gap_separates c hc)
  have hparts : Windows.split (f.parts.flatMap WordPart.text) = [f.first] := by
    rw [Windows.split, f.scan_parts]
    show [f.first.reverse.reverse] = [f.first]
    rw [List.reverse_reverse]
  have hends := f.rest_separates
  rw [text, Windows.split_gap_append hgap]
  cases hrest : f.rest with
  | nil => rw [List.append_nil, hparts, List.head?_cons]
  | cons c u =>
      rw [hrest] at hends
      have hblank := Shell.isBlank_of_isSeparator (hends c rfl)
      rw [Windows.split_append_blank (by rw [f.scan_parts]) hblank, hparts, List.singleton_append,
        List.head?_cons]

/-- **The first word by the rules of the shell**, if the quotes behind it are closed. -/
theorem head?_shell (f : Front) {words : List Text} (h : Shell.split? f.text = some words) :
    words.head? = some f.first := by
  have hends := f.rest_separates
  rw [Shell.split?, text, List.foldl_append, Shell.Scan.start,
    Shell.Scan.foldl_step_separators [] f.gap_separates, List.foldl_append] at h
  have hword := f.foldl_shell_parts
  rw [Shell.Scan.start] at hword
  rw [hword] at h
  cases hrest : f.rest with
  | nil =>
      rw [hrest] at h
      have hwords : [f.first.reverse.reverse] = words := Option.some.inj h
      rw [← hwords, List.reverse_reverse, List.head?_cons]
  | cons c u =>
      rw [hrest] at h hends
      have hstart : (⟨.between, [], [f.first.reverse.reverse]⟩ : Shell.Scan) =
          Shell.Scan.start.onto [f.first] := by
        rw [List.reverse_reverse]
        rfl
      rw [List.foldl_cons, Shell.Scan.step_plain_separator [] (hends c rfl), hstart,
        Shell.Scan.foldl_step_onto, Shell.Scan.finish_onto] at h
      obtain ⟨others, -, rfl⟩ := Option.map_eq_some_iff.mp h
      rfl

end Front

end CommandLine

end BuildEnv
