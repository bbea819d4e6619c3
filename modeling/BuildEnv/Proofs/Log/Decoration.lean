import BuildEnv.Proofs.Log.Announcement
import BuildEnv.Proofs.Text.Decimal

/-!
# Decorations of a line

Before its text a line may have byte order marks, a time stamp and blanks
(`LogLine.Decoration`), and then the number of its project.  The three parts
overlap in their characters, but what is taken off is determined: a time stamp is
read up to the blanks behind it (`LogLine.timestamp_eq_some_iff`), and neither
digits nor blanks in front of a number are one.

* `LogLine.split_decorated`: decorations make no difference to a line that begins
  with a number.
* `LogLine.exists_decoration`: nothing but decorations and a number is taken off.
-/

namespace BuildEnv

namespace Text

/-- A number of some digits. -/
structure IsNumber (n : Nat) (t : Text) : Prop where
  length_eq : t.length = n
  digit : ∀ c ∈ t, isDigit c

theorem isDigit_of_decimal {c : Char} (h : c.isDigit) : isDigit c := by
  obtain ⟨-, hhigh⟩ : 48 ≤ c.toNat ∧ c.toNat ≤ 57 := Char.isDigit_iff_toNat.mp h
  rw [isDigit, if_pos (by omega)]
  exact h

theorem isDigits_ofNat (n : Nat) : IsDigits (ofNat n) :=
  ⟨ofNat_ne_nil n, fun _ hc => isDigit_of_decimal (isDigit_of_mem_ofNat hc)⟩

/-- Digits of which a number can be read are zeros in front of it. -/
theorem IsDigits.eq_zeros_append {digits : Text} (h : IsDigits digits) {limit n : Nat}
    (hn : toNat? limit digits = some n) :
    ∃ zeros, digits = List.replicate zeros '0' ++ ofNat n := by
  have hsign : digits.head? ≠ some '+' := fun hplus =>
    absurd (h.digit '+' (List.mem_of_head? hplus)) (by decide)
  rw [toNat?_eq_digits? hsign] at hn
  obtain ⟨hne, hall, rfl, -⟩ := digits?_eq_some_iff.mp hn
  exact eq_zeros_append_ofNat hall hne

end Text

namespace Scanner

variable {α : Type} {t rest : Text}

/-- A sequence reads what its parts read. -/
theorem bind_eq_some_iff {β : Type} {x : Scanner α} {f : α → Scanner β} {r : β × Text} :
    (x >>= f) t = some r ↔ ∃ a rest, x t = some (a, rest) ∧ f a rest = some r := by
  constructor
  · intro h
    obtain ⟨⟨a, rest⟩, hx, hf⟩ := Option.bind_eq_some_iff.mp h
    exact ⟨a, rest, hx, hf⟩
  · rintro ⟨a, rest, hx, hf⟩
    rw [bind_of_some hx, hf]

/-- A number of some digits and the mark behind it. -/
theorem field_eq_some_iff {n : Nat} {s : String} (mark : Char) (hs : s.toList = [mark])
    {f : Scanner α} {r : α × Text} :
    (count Text.isDigit n >>= fun _ => literal s >>= fun _ => f) t = some r ↔
      ∃ number rest, t = number ++ mark :: rest ∧ Text.IsNumber n number ∧ f rest = some r := by
  constructor
  · intro h
    obtain ⟨number, later, hcount, h⟩ := bind_eq_some_iff.mp h
    obtain ⟨⟨⟩, rest, hmark, hf⟩ := bind_eq_some_iff.mp h
    obtain ⟨rfl, hlength, hdigit⟩ := count_eq_some_iff.mp hcount
    obtain rfl := literal_eq_some_iff.mp hmark
    exact ⟨number, rest, by rw [hs]; rfl, ⟨hlength, hdigit⟩, hf⟩
  · rintro ⟨number, rest, rfl, ⟨hlength, hdigit⟩, hf⟩
    rw [bind_of_some (count_eq_some_iff.mpr ⟨rfl, hlength, hdigit⟩),
      bind_of_some (literal_singleton s mark hs rest), hf]

end Scanner

namespace LogLine

open Scanner

/-- **A time stamp** with the blanks behind it. -/
structure Timestamp where
  year : Text
  month : Text
  day : Text
  hour : Text
  minute : Text
  second : Text
  /-- The digits behind the point, if there is one. -/
  fraction : Option Text
  gap : Text
  isNumber_year : Text.IsNumber 4 year
  isNumber_month : Text.IsNumber 2 month
  isNumber_day : Text.IsNumber 2 day
  isNumber_hour : Text.IsNumber 2 hour
  isNumber_minute : Text.IsNumber 2 minute
  isNumber_second : Text.IsNumber 2 second
  isDigits_fraction : ∀ digits, fraction = some digits → Text.IsDigits digits
  isGap_gap : Text.IsGap gap

namespace Timestamp

/-- The part behind the seconds. -/
def ending (fraction : Option Text) (gap : Text) : Text :=
  (fraction.map ('.' :: ·)).getD [] ++ 'Z' :: gap

/-- A time stamp such as `2023-04-01T10:20:30.123Z`, and the blanks. -/
def text (s : Timestamp) : Text :=
  s.year ++ '-' :: (s.month ++ '-' :: (s.day ++ 'T' :: (s.hour ++ ':' :: (s.minute ++
    ':' :: (s.second ++ ending s.fraction s.gap)))))

end Timestamp

/-- **What a line may have before its number**: byte order marks, a time stamp and
blanks. -/
structure Decoration where
  /-- How many byte order marks there are. -/
  marks : Nat
  stamp : Option Timestamp
  blanks : Text
  isBlank_blanks : ∀ c ∈ blanks, Text.isBlank c

/-- The decorations, one behind the other. -/
def Decoration.text (d : Decoration) : Text :=
  List.replicate d.marks '\uFEFF' ++ ((d.stamp.map Timestamp.text).getD [] ++ d.blanks)

variable {t rest : Text}

/-- What stands behind the fraction of a time stamp. -/
theorem gap_eq_some_iff :
    (literal "Z" >>= fun _ => run1 Text.isBlank >>= fun _ => (pure () : Scanner Unit)) t =
        some ((), rest) ↔
      ∃ gap, t = 'Z' :: (gap ++ rest) ∧ Text.IsGap gap ∧
        ∀ c, rest.head? = some c → ¬ Text.isBlank c := by
  constructor
  · intro h
    obtain ⟨⟨⟩, later, hmark, h⟩ := bind_eq_some_iff.mp h
    obtain ⟨gap, later, hgap, h⟩ := bind_eq_some_iff.mp h
    obtain rfl : later = rest := congrArg Prod.snd (Option.some.inj h)
    obtain rfl := literal_eq_some_iff.mp hmark
    obtain ⟨rfl, hne, hblank, hrest⟩ := run1_eq_some_iff.mp hgap
    exact ⟨gap, rfl, ⟨hne, hblank⟩, hrest⟩
  · rintro ⟨gap, rfl, ⟨hne, hblank⟩, hrest⟩
    rw [bind_of_some (literal_singleton "Z" 'Z' rfl _),
      bind_of_some (run1_eq_some_iff.mpr ⟨rfl, hne, hblank, hrest⟩)]
    rfl

/-- The fraction of a time stamp is a point and the digits up to the `Z`. -/
theorem ending_eq_some_iff :
    (Scanner.optional (literal "." >>= fun _ => run1 Text.isDigit) >>= fun _ =>
        literal "Z" >>= fun _ => run1 Text.isBlank >>= fun _ => (pure () : Scanner Unit)) t =
          some ((), rest) ↔
      ∃ fraction gap, t = Timestamp.ending fraction gap ++ rest ∧
        (∀ digits, fraction = some digits → Text.IsDigits digits) ∧ Text.IsGap gap ∧
        ∀ c, rest.head? = some c → ¬ Text.isBlank c := by
  constructor
  · intro h
    cases hfraction : (literal "." >>= fun _ => run1 Text.isDigit) t with
    | none =>
        rw [bind_of_some (optional_of_none hfraction), gap_eq_some_iff] at h
        obtain ⟨gap, rfl, hgap, hrest⟩ := h
        exact ⟨none, gap, rfl, (fun _ hnone => nomatch hnone), hgap, hrest⟩
    | some found =>
        obtain ⟨digits, later⟩ := found
        rw [bind_of_some (optional_of_some hfraction), gap_eq_some_iff] at h
        obtain ⟨gap, rfl, hgap, hrest⟩ := h
        obtain ⟨⟨⟩, after, hpoint, hdigits⟩ := bind_eq_some_iff.mp hfraction
        obtain rfl := literal_eq_some_iff.mp hpoint
        obtain ⟨rfl, hne, hdigit, -⟩ := run1_eq_some_iff.mp hdigits
        refine ⟨some digits, gap, ?_, fun _ hsome => Option.some.inj hsome ▸ ⟨hne, hdigit⟩, hgap,
          hrest⟩
        simp [Timestamp.ending]
  · rintro ⟨fraction, gap, rfl, hfraction, hgap, hrest⟩
    have hend := gap_eq_some_iff.mpr ⟨gap, rfl, hgap, hrest⟩
    cases fraction with
    | none =>
        have hpoint : (literal "." >>= fun _ => run1 Text.isDigit) ('Z' :: (gap ++ rest)) = none :=
          bind_of_none (literal_cons_eq_none rfl (by decide) _)
        exact (bind_of_some (optional_of_none hpoint)).trans hend
    | some digits =>
        obtain ⟨hne, hdigit⟩ := hfraction digits rfl
        have hpoint : (literal "." >>= fun _ => run1 Text.isDigit)
            ('.' :: (digits ++ 'Z' :: (gap ++ rest))) = some (digits, 'Z' :: (gap ++ rest)) := by
          rw [bind_of_some (literal_singleton "." '.' rfl _)]
          exact run1_append_cons hne hdigit (by decide) _
        have htext : Timestamp.ending (some digits) gap ++ rest =
            '.' :: (digits ++ 'Z' :: (gap ++ rest)) := by
          simp [Timestamp.ending]
        rw [htext]
        exact (bind_of_some (optional_of_some hpoint)).trans hend

/-- **A time stamp is read** with all the blanks behind it. -/
theorem timestamp_eq_some_iff :
    timestamp t = some ((), rest) ↔
      ∃ s : Timestamp, t = s.text ++ rest ∧ ∀ c, rest.head? = some c → ¬ Text.isBlank c := by
  unfold timestamp
  constructor
  · intro h
    rw [field_eq_some_iff '-' rfl] at h
    obtain ⟨year, _, rfl, hyear, h⟩ := h
    rw [field_eq_some_iff '-' rfl] at h
    obtain ⟨month, _, rfl, hmonth, h⟩ := h
    rw [field_eq_some_iff 'T' rfl] at h
    obtain ⟨day, _, rfl, hday, h⟩ := h
    rw [field_eq_some_iff ':' rfl] at h
    obtain ⟨hour, _, rfl, hhour, h⟩ := h
    rw [field_eq_some_iff ':' rfl] at h
    obtain ⟨minute, _, rfl, hminute, h⟩ := h
    rw [bind_eq_some_iff] at h
    obtain ⟨second, later, hcount, h⟩ := h
    obtain ⟨rfl, hlength, hdigit⟩ := count_eq_some_iff.mp hcount
    obtain ⟨fraction, gap, rfl, hfraction, hgap, hrest⟩ := ending_eq_some_iff.mp h
    refine ⟨⟨year, month, day, hour, minute, second, fraction, gap, hyear, hmonth, hday, hhour,
      hminute, ⟨hlength, hdigit⟩, hfraction, hgap⟩, ?_, hrest⟩
    simp only [Timestamp.text, List.append_assoc, List.cons_append]
  · rintro ⟨s, rfl, hrest⟩
    obtain ⟨hlength, hdigit⟩ := s.isNumber_second
    simp only [Timestamp.text, List.append_assoc, List.cons_append]
    refine (field_eq_some_iff '-' rfl).mpr ⟨s.year, _, rfl, s.isNumber_year, ?_⟩
    refine (field_eq_some_iff '-' rfl).mpr ⟨s.month, _, rfl, s.isNumber_month, ?_⟩
    refine (field_eq_some_iff 'T' rfl).mpr ⟨s.day, _, rfl, s.isNumber_day, ?_⟩
    refine (field_eq_some_iff ':' rfl).mpr ⟨s.hour, _, rfl, s.isNumber_hour, ?_⟩
    refine (field_eq_some_iff ':' rfl).mpr ⟨s.minute, _, rfl, s.isNumber_minute, ?_⟩
    refine (bind_of_some (count_eq_some_iff.mpr ⟨rfl, hlength, hdigit⟩)).trans ?_
    exact ending_eq_some_iff.mpr
      ⟨s.fraction, s.gap, rfl, s.isDigits_fraction, s.isGap_gap, hrest⟩

/-- A written time stamp begins with a digit. -/
theorem Timestamp.head?_text (s : Timestamp) : ∃ c, s.text.head? = some c ∧ Text.isDigit c := by
  obtain ⟨hlength, hdigit⟩ := s.isNumber_year
  obtain ⟨c, more, hyear⟩ := List.exists_cons_of_length_eq_add_one hlength
  exact ⟨c, by rw [Timestamp.text, hyear]; rfl, hdigit c (hyear ▸ List.mem_cons_self)⟩

/-- A time stamp begins with a digit. -/
theorem timestamp_eq_none {c : Char} (hc : ¬ Text.isDigit c) (t : Text) :
    timestamp (c :: t) = none := by
  cases hread : timestamp (c :: t) with
  | none => rfl
  | some found =>
      obtain ⟨s, hs, -⟩ := timestamp_eq_some_iff.mp hread
      obtain ⟨d, hd, hdigit⟩ := s.head?_text
      obtain ⟨more, htext⟩ := List.head?_eq_some_iff.mp hd
      rw [htext] at hs
      exact absurd ((List.cons.inj hs).1 ▸ hdigit) hc

/-- The line without its decorations. -/
def undecorated (line : Text) : Text :=
  (dropTimestamp (line.dropWhile isByteOrderMark)).dropWhile Text.isBlank

/-- What a line tells depends on the line without its decorations. -/
theorem split_eq (line : Text) :
    split line = match contextDigits (undecorated line) with
      | some (digits, rest) => ⟨Text.toNat? Text.max32 digits, rest⟩
      | none => ⟨none, undecorated line⟩ :=
  rfl

/-- **Decorations are taken off** a line that goes on with neither a blank nor one
of its own. -/
theorem undecorated_append (d : Decoration) {bare : Text} (hstamp : timestamp bare = none)
    (hmark : ∀ c, bare.head? = some c → ¬ isByteOrderMark c)
    (hblank : ∀ c, bare.head? = some c → ¬ Text.isBlank c) :
    undecorated (d.text ++ bare) = bare := by
  obtain ⟨marks, stamp, blanks, hblanks⟩ := d
  have hmarks : ∀ later : Text, (∀ c, later.head? = some c → ¬ isByteOrderMark c) →
      (List.replicate marks '\uFEFF' ++ later).dropWhile isByteOrderMark = later := by
    intro later hlater
    have hall : ∀ c ∈ List.replicate marks '\uFEFF', isByteOrderMark c := fun c hc => by
      rw [List.eq_of_mem_replicate hc]
      rfl
    rw [List.dropWhile_append_of_pos hall, Text.dropWhile_eq_self hlater]
  have hbare : bare.dropWhile Text.isBlank = bare := Text.dropWhile_eq_self hblank
  cases stamp with
  | some s =>
      have hread : timestamp (s.text ++ (blanks ++ bare)) = some ((), bare) := by
        have hgap : Text.IsGap (s.gap ++ blanks) :=
          ⟨List.append_ne_nil_of_left_ne_nil s.isGap_gap.ne_nil _, fun c hc =>
            (List.mem_append.mp hc).elim (s.isGap_gap.blank c) (hblanks c)⟩
        refine timestamp_eq_some_iff.mpr ⟨{ s with gap := s.gap ++ blanks, isGap_gap := hgap }, ?_,
          hblank⟩
        simp [Timestamp.text, Timestamp.ending]
      have hfirst : ∀ c, (s.text ++ (blanks ++ bare)).head? = some c → ¬ isByteOrderMark c := by
        obtain ⟨d, hd, hdigit⟩ := s.head?_text
        obtain ⟨more, htext⟩ := List.head?_eq_some_iff.mp hd
        intro c hc
        rw [htext] at hc
        obtain rfl : d = c := Option.some.inj hc
        exact mt beq_iff_eq.mp (Text.ne_of_isDigit hdigit (by decide))
      show undecorated ((List.replicate marks '\uFEFF' ++ (s.text ++ blanks)) ++ bare) = bare
      rw [List.append_assoc, List.append_assoc, undecorated, hmarks _ hfirst, dropTimestamp, hread]
      exact hbare
  | none =>
      have hread : timestamp (blanks ++ bare) = none := by
        cases blanks with
        | nil => exact hstamp
        | cons c more =>
            exact timestamp_eq_none (fun hdigit =>
              Text.not_isBlank_of_isDigit hdigit (hblanks c List.mem_cons_self)) _
      have hfirst : ∀ c, (blanks ++ bare).head? = some c → ¬ isByteOrderMark c := by
        intro c hc
        cases blanks with
        | nil => exact hmark c hc
        | cons d more =>
            obtain rfl : d = c := Option.some.inj hc
            exact mt beq_iff_eq.mp
              (Text.ne_of_isBlank (hblanks d List.mem_cons_self) (by decide))
      show undecorated ((List.replicate marks '\uFEFF' ++ blanks) ++ bare) = bare
      rw [List.append_assoc, undecorated, hmarks _ hfirst, dropTimestamp, hread]
      show (blanks ++ bare).dropWhile Text.isBlank = bare
      rw [List.dropWhile_append_of_pos hblanks, hbare]

/-- **Nothing but decorations** is taken off. -/
theorem exists_decoration (line : Text) : ∃ d : Decoration, line = d.text ++ undecorated line := by
  obtain ⟨marks, hmarks⟩ :
      ∃ marks, line.takeWhile isByteOrderMark = List.replicate marks '\uFEFF' :=
    ⟨_, List.eq_replicate_of_mem fun c hc =>
      have hmark : isByteOrderMark c := List.mem_takeWhile_imp hc
      beq_iff_eq.mp hmark⟩
  have hline : line = List.replicate marks '\uFEFF' ++ line.dropWhile isByteOrderMark := by
    rw [← hmarks, List.takeWhile_append_dropWhile]
  unfold undecorated
  generalize line.dropWhile isByteOrderMark = later at hline
  have hblanks : ∀ t : Text, ∀ c ∈ t.takeWhile Text.isBlank, Text.isBlank c :=
    fun _ _ hc => List.mem_takeWhile_imp hc
  cases hread : timestamp later with
  | none =>
      refine ⟨⟨marks, none, later.takeWhile Text.isBlank, hblanks later⟩, ?_⟩
      rw [dropTimestamp, hread, hline]
      simp [Decoration.text]
  | some found =>
      obtain ⟨⟨⟩, rest⟩ := found
      obtain ⟨s, rfl, -⟩ := timestamp_eq_some_iff.mp hread
      refine ⟨⟨marks, some s, rest.takeWhile Text.isBlank, hblanks rest⟩, ?_⟩
      rw [dropTimestamp, hread, hline]
      simp [Decoration.text]

/-- **Decorations make no difference** to a line that begins with a number. -/
theorem split_decorated (d : Decoration) {digits : Text} (h : Text.IsDigits digits) (rest : Text) :
    split (d.text ++ (digits ++ '>' :: rest)) = ⟨Text.toNat? Text.max32 digits, rest⟩ := by
  have hfirst : ∀ c, (digits ++ '>' :: rest).head? = some c → Text.isDigit c := by
    intro c hc
    obtain ⟨e, more, rfl⟩ := List.exists_cons_of_ne_nil h.ne_nil
    exact Option.some.inj hc ▸ h.digit e List.mem_cons_self
  have hbare : ∀ d : Decoration, undecorated (d.text ++ (digits ++ '>' :: rest)) =
      digits ++ '>' :: rest := fun d =>
    undecorated_append d (timestamp_digits h (by decide) (by decide) rest)
      (fun c hc => mt beq_iff_eq.mp (Text.ne_of_isDigit (hfirst c hc) (by decide)))
      fun c hc => Text.not_isBlank_of_isDigit (hfirst c hc)
  have hplain := hbare ⟨0, none, [], fun _ hc => absurd hc List.not_mem_nil⟩
  rw [split_eq, hbare d, ← hplain, ← split_eq]
  exact split_digits h (by decide) (by decide) rest

/-- A line without its decorations is its text, or begins with a number. -/
theorem split_undecorated (line : Text) :
    (split line).context = none ∧ undecorated line = (split line).text ∨
      ∃ digits, Text.IsDigits digits ∧ undecorated line = digits ++ '>' :: (split line).text ∧
        (split line).context = Text.toNat? Text.max32 digits := by
  rw [split_eq]
  cases hread : contextDigits (undecorated line) with
  | none => exact .inl ⟨rfl, rfl⟩
  | some found =>
      obtain ⟨number, rest⟩ := found
      obtain ⟨digits, later, hdigits, hread⟩ := bind_eq_some_iff.mp hread
      obtain ⟨⟨⟩, after, hmark, hread⟩ := bind_eq_some_iff.mp hread
      obtain ⟨rfl, rfl⟩ := Prod.mk.inj (Option.some.inj hread)
      obtain rfl := literal_eq_some_iff.mp hmark
      obtain ⟨hline, hne, hdigit, -⟩ := run1_eq_some_iff.mp hdigits
      exact .inr ⟨digits, ⟨hne, hdigit⟩, hline, rfl⟩

/-- **Splitting a line** undoes its decoration.  Whatever a line is decorated with,
the number before the first `>` is its context and all that follows is its text.
Of any line nothing is taken off but decorations and a number, and if the line has
a context it is this number, with zeros in front at most. -/
theorem split_undoes_decoration :
    (∀ (d : Decoration) (n : UInt32) (text : Text),
        split (d.text ++ (Text.ofNat n.toNat ++ '>' :: text)) = ⟨some n.toNat, text⟩) ∧
      ∀ line, ∃ (d : Decoration) (number : Text), line = d.text ++ number ++ (split line).text ∧
        (number = [] ∨ ∃ digits, Text.IsDigits digits ∧ number = digits ++ ['>']) ∧
        ∀ n, (split line).context = some n →
          ∃ zeros, number = List.replicate zeros '0' ++ Text.ofNat n ++ ['>'] := by
  constructor
  · intro d n text
    have hlimit : n.toNat ≤ Text.max32 := by
      have hlt := n.toNat_lt
      rw [Text.max32]
      omega
    rw [split_decorated d (Text.isDigits_ofNat _), Text.toNat?_ofNat hlimit]
  · intro line
    obtain ⟨d, hline⟩ := exists_decoration line
    rcases split_undecorated line with ⟨hnone, hbare⟩ | ⟨digits, hdigits, hbare, hcontext⟩
    · refine ⟨d, [], ?_, .inl rfl, fun n hn => ?_⟩
      · rw [List.append_nil, ← hbare]
        exact hline
      · rw [hnone] at hn
        cases hn
    · refine ⟨d, digits ++ ['>'], ?_, .inr ⟨digits, hdigits, rfl⟩, fun n hn => ?_⟩
      · rw [hbare] at hline
        rw [List.append_assoc, List.append_assoc]
        exact hline
      · obtain ⟨zeros, hzeros⟩ := hdigits.eq_zeros_append (hcontext.symm.trans hn)
        exact ⟨zeros, by rw [hzeros]⟩

/-- A line with all three parts, a zero in front of its number and a second number in its
text. -/
theorem split_undoes_decoration_stamped :
    (split "\uFEFF2023-04-01T10:20:30.123Z 012>3>cl /c a.cpp".toList).context = some 12 ∧
      ∃ (d : Decoration) (number : Text),
        "\uFEFF2023-04-01T10:20:30.123Z 012>3>cl /c a.cpp".toList =
          d.text ++ number ++
            (split "\uFEFF2023-04-01T10:20:30.123Z 012>3>cl /c a.cpp".toList).text ∧
        ∃ zeros, number = List.replicate zeros '0' ++ Text.ofNat 12 ++ ['>'] := by
  have hsome : (split "\uFEFF2023-04-01T10:20:30.123Z 012>3>cl /c a.cpp".toList).context =
      some 12 := by
    decide +kernel
  obtain ⟨d, number, hline, -, hnumber⟩ := split_undoes_decoration.2
    "\uFEFF2023-04-01T10:20:30.123Z 012>3>cl /c a.cpp".toList
  exact ⟨hsome, d, number, hline, hnumber 12 hsome⟩

end LogLine

end BuildEnv
