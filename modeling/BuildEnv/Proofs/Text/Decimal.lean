import BuildEnv.Text.Basic
import Mathlib.Data.List.Induction
import Mathlib.Data.Nat.Digits.Defs

/-!
# Decimal numbers

A number that is written in decimal digits is read again
(`Text.toNat?_ofNat`).  The other way round, digits are zeros in front of the
number that they stand for (`Text.eq_zeros_append_ofNat`), and nothing else is
read as a number without a sign.
-/

namespace BuildEnv

namespace Text

variable {digits : Text} {limit n : Nat}

theorem digitsValue_ofNat (n : Nat) : digitsValue (ofNat n) = n :=
  Nat.ofDigitChars_ten_toDigits

/-- A further digit counts the ones. -/
theorem digitsValue_append_singleton (digits : Text) (c : Char) :
    digitsValue (digits ++ [c]) = 10 * digitsValue digits + (c.toNat - '0'.toNat) :=
  List.foldl_append

/-- A number is as long as its digits at most. -/
theorem digitsValue_lt (h : ∀ c ∈ digits, c.isDigit) : digitsValue digits < 10 ^ digits.length := by
  induction digits using List.reverseRecOn with
  | nil => decide
  | append_singleton digits c ih =>
      have hdigits := ih fun d hd => h d (List.mem_append_left _ hd)
      obtain ⟨-, hhigh⟩ : 48 ≤ c.toNat ∧ c.toNat ≤ 57 :=
        Char.isDigit_iff_toNat.mp (h c (List.mem_append_right _ (List.mem_singleton_self c)))
      have hzero : '0'.toNat = 48 := rfl
      rw [digitsValue_append_singleton, List.length_append, List.length_singleton, Nat.pow_succ]
      omega

theorem isDigit_of_mem_ofNat {c : Char} (h : c ∈ ofNat n) : c.isDigit :=
  Nat.isDigit_of_mem_toDigits (by decide) (by decide) h

theorem ofNat_ne_nil (n : Nat) : ofNat n ≠ [] :=
  Nat.toDigits_ne_nil

/-- A decimal digit is not a blank. -/
theorem not_isBlank_of_decimal {c : Char} (h : c.isDigit) : ¬ isBlank c := by
  obtain ⟨hlow, hhigh⟩ : 48 ≤ c.toNat ∧ c.toNat ≤ 57 := Char.isDigit_iff_toNat.mp h
  simp only [isBlank, Bool.or_eq_true, Bool.and_eq_true, decide_eq_true_eq, beq_iff_eq]
  omega

/-- A digit is the one that its value is written with. -/
theorem ofNat_toNat_sub {c : Char} (h : c.isDigit) : ofNat (c.toNat - '0'.toNat) = [c] := by
  obtain ⟨hlow, hhigh⟩ : 48 ≤ c.toNat ∧ c.toNat ≤ 57 := Char.isDigit_iff_toNat.mp h
  have hlt : c.toNat - 48 < 10 := by omega
  have hcode : (Nat.digitChar (c.toNat - 48)).toNat = c.toNat := by
    rw [Nat.toNat_digitChar_of_lt_ten hlt]
    omega
  rw [ofNat, show '0'.toNat = 48 from rfl, Nat.toDigits_of_lt_base hlt, Char.toNat_inj.mp hcode]

/-- Digits behind a number make a longer number of it. -/
theorem ofNat_append_digits (h : ∀ c ∈ digits, c.isDigit) {lead : Nat} (hlead : 0 < lead) :
    ofNat lead ++ digits = ofNat (Nat.ofDigitChars 10 digits lead) := by
  induction digits generalizing lead with
  | nil => exact List.append_nil _
  | cons c rest ih =>
      have hdigit := h c List.mem_cons_self
      obtain ⟨hlow, hhigh⟩ : 48 ≤ c.toNat ∧ c.toNat ≤ 57 := Char.isDigit_iff_toNat.mp hdigit
      have hlt : c.toNat - '0'.toNat < 10 := by
        show c.toNat - 48 < 10
        omega
      have hmore : 0 < 10 * lead + (c.toNat - '0'.toNat) := by omega
      calc ofNat lead ++ c :: rest
          = (ofNat lead ++ ofNat (c.toNat - '0'.toNat)) ++ rest := by
            rw [ofNat_toNat_sub hdigit, List.append_assoc, List.singleton_append]
        _ = ofNat (10 * lead + (c.toNat - '0'.toNat)) ++ rest := by
            rw [ofNat, ofNat, ofNat, Nat.toDigits_append_toDigits (by decide) hlead hlt]
        _ = ofNat (Nat.ofDigitChars 10 (c :: rest) lead) := by
            rw [ih (fun d hd => h d (List.mem_cons_of_mem _ hd)) hmore, Nat.ofDigitChars_cons]

/-- **Digits are zeros in front of a number.** -/
theorem eq_zeros_append_ofNat (h : ∀ c ∈ digits, c.isDigit) (hne : digits ≠ []) :
    ∃ zeros, digits = List.replicate zeros '0' ++ ofNat (digitsValue digits) := by
  induction digits with
  | nil => exact absurd rfl hne
  | cons c rest ih =>
      have hrest : ∀ d ∈ rest, d.isDigit := fun d hd => h d (List.mem_cons_of_mem _ hd)
      by_cases hzero : c = '0'
      · subst hzero
        by_cases hnil : rest = []
        · exact ⟨0, by rw [hnil]; rfl⟩
        · obtain ⟨zeros, hzeros⟩ := ih hrest hnil
          refine ⟨zeros + 1, ?_⟩
          rw [List.replicate_succ, List.cons_append]
          exact congrArg ('0' :: ·) hzeros
      · have hdigit := h c List.mem_cons_self
        obtain ⟨hlow, -⟩ : 48 ≤ c.toNat ∧ c.toNat ≤ 57 := Char.isDigit_iff_toNat.mp hdigit
        have hpos : 0 < c.toNat - '0'.toNat := by
          have hcode : c.toNat ≠ 48 := fun heq => hzero (Char.toNat_inj.mp heq)
          show 0 < c.toNat - 48
          omega
        have hnumber := ofNat_append_digits hrest hpos
        rw [ofNat_toNat_sub hdigit] at hnumber
        refine ⟨0, hnumber.trans (congrArg ofNat ?_)⟩
        show _ = Nat.ofDigitChars 10 rest (10 * 0 + (c.toNat - '0'.toNat))
        rw [Nat.mul_zero, Nat.zero_add]

/-- Reads digits, without a sign before them. -/
def digits? (limit : Nat) (digits : Text) : Option Nat :=
  if digits.isEmpty || !digits.all Char.isDigit then none
  else if digitsValue digits ≤ limit then some (digitsValue digits) else none

/-- Digits are read as their value, if there are any and the value is within the limit.
-/
theorem digits?_eq_some_iff :
    digits? limit digits = some n ↔
      digits ≠ [] ∧ (∀ c ∈ digits, c.isDigit) ∧ digitsValue digits = n ∧ n ≤ limit := by
  unfold digits?
  constructor
  · intro h
    split at h
    · cases h
    · next hdigits =>
        split at h
        · next hle =>
            obtain rfl := Option.some.inj h
            simp only [Bool.or_eq_true, not_or, Bool.not_eq_true', Bool.not_eq_false] at hdigits
            exact ⟨by simpa using hdigits.1, List.all_eq_true.mp hdigits.2, rfl, hle⟩
        · cases h
  · rintro ⟨hne, hall, rfl, hle⟩
    rw [if_neg (by simpa [hne] using hall), if_pos hle]

/-- A plus sign may stand before the digits. -/
theorem toNat?_plus (limit : Nat) (digits : Text) :
    toNat? limit ('+' :: digits) = digits? limit digits :=
  rfl

/-- **A number without a sign** is digits alone. -/
theorem toNat?_eq_digits? (hsign : digits.head? ≠ some '+') :
    toNat? limit digits = digits? limit digits := by
  unfold toNat?
  split
  · exact absurd rfl hsign
  · rfl

/-- Digits alone are read as their value. -/
theorem toNat?_of_isDigit (h : ∀ c ∈ digits, c.isDigit) (hne : digits ≠ [])
    (hlimit : digitsValue digits ≤ limit) : toNat? limit digits = some (digitsValue digits) := by
  have hsign : digits.head? ≠ some '+' := fun hplus =>
    absurd (h '+' (List.mem_of_head? hplus)) (by decide)
  rw [toNat?_eq_digits? hsign]
  exact digits?_eq_some_iff.mpr ⟨hne, h, rfl, hlimit⟩

/-- A written number is read. -/
theorem toNat?_ofNat (h : n ≤ limit) : toNat? limit (ofNat n) = some n := by
  have hlimit : digitsValue (ofNat n) ≤ limit := by rwa [digitsValue_ofNat]
  rw [toNat?_of_isDigit (fun _ => isDigit_of_mem_ofNat) (ofNat_ne_nil n) hlimit, digitsValue_ofNat]

/-- A number that was read is within the limit and has no more digits than its text. -/
theorem toNat?_le_and_lt {t : Text} (h : toNat? limit t = some n) :
    n ≤ limit ∧ n < 10 ^ t.length := by
  by_cases hsign : t.head? = some '+'
  · obtain ⟨digits, rfl⟩ := List.head?_eq_some_iff.mp hsign
    rw [toNat?_plus] at h
    obtain ⟨-, hall, rfl, hle⟩ := digits?_eq_some_iff.mp h
    exact ⟨hle, (digitsValue_lt hall).trans_le (Nat.pow_le_pow_right (by decide) (Nat.le_succ _))⟩
  · rw [toNat?_eq_digits? hsign] at h
    obtain ⟨-, hall, rfl, hle⟩ := digits?_eq_some_iff.mp h
    exact ⟨hle, digitsValue_lt hall⟩

end Text

end BuildEnv
