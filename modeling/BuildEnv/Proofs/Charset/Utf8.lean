import BuildEnv.Charset.Utf8
import Mathlib.Tactic.Common

/-!
# UTF-8 is read again

The bytes of a character are decoded as the character, whatever follows them
(`Utf8.decodeFrom_utf8EncodeChar`), so that the bytes of a text are decoded as the
text, without malformed sequences (`Utf8.strict?_encode`).
-/

namespace BuildEnv

namespace Utf8

/-- A byte that is taken gives way to the rest. -/
theorem decodeFrom_cons {s s' : State} {b : Nat} {chars : List (Option Char)} (hb : b < 256)
    (h : step s b = (chars, s')) (rest : Bytes) :
    decodeFrom s (UInt8.ofNat b :: rest) = chars ++ decodeFrom s' rest := by
  have hnat : (UInt8.ofNat b).toNat = b := Nat.mod_eq_of_lt hb
  rw [decodeFrom, hnat, h]

/-- Between two characters, a byte begins one. -/
theorem decodeFrom_first {s' : State} {b : Nat} {chars : List (Option Char)} (hb : b < 256)
    (h : first b = (chars, s')) (rest : Bytes) :
    decodeFrom .start (UInt8.ofNat b :: rest) = chars ++ decodeFrom s' rest := by
  have hstep : step .start b = (chars, s') := h
  exact decodeFrom_cons hb hstep rest

/-! ### The first byte -/

theorem first_one : ∀ v < 128, first v = ([some (Char.ofNat v)], .start) := by
  decide

/-- The first byte of a sequence of two.  From 194 on it asks for any one byte more. -/
theorem first_two : ∀ high < 32, 2 ≤ high → first (high + 192) = ([], ⟨1, high, 0x80, 0xBF⟩) := by
  decide

/-- The bounds of the second byte shut out what is too short or a surrogate. -/
theorem first_three : ∀ high < 16, first (high + 224) =
    ([], ⟨2, high, if high = 0 then 0xA0 else 0x80, if high = 13 then 0x9F else 0xBF⟩) := by
  decide

/-- The bounds of the second byte shut out what is too short or no character. -/
theorem first_four : ∀ high < 5, first (high + 240) =
    ([], ⟨3, high, if high = 0 then 0x90 else 0x80, if high = 4 then 0x8F else 0xBF⟩) := by
  decide

/-! ### The bytes that follow -/

variable {bits least greatest low : Nat}

/-- The last byte of a character. -/
theorem decodeFrom_last (hlow : low < 64) (hleast : least ≤ low + 128)
    (hgreatest : low + 128 ≤ greatest) (rest : Bytes) :
    decodeFrom ⟨1, bits, least, greatest⟩ (UInt8.ofNat (low + 128) :: rest) =
      some (Char.ofNat (bits * 64 + low)) :: decodeFrom .start rest := by
  have hstep : step ⟨1, bits, least, greatest⟩ (low + 128) =
      ([some (Char.ofNat (bits * 64 + low))], .start) := by
    simp [step, next, hleast, hgreatest]
  exact decodeFrom_cons (by omega) hstep rest

/-- A byte of a character before the last one. -/
theorem decodeFrom_more (owed : Nat) (hlow : low < 64) (hleast : least ≤ low + 128)
    (hgreatest : low + 128 ≤ greatest) (rest : Bytes) :
    decodeFrom ⟨owed + 2, bits, least, greatest⟩ (UInt8.ofNat (low + 128) :: rest) =
      decodeFrom ⟨owed + 1, bits * 64 + low, 0x80, 0xBF⟩ rest := by
  have hstep : step ⟨owed + 2, bits, least, greatest⟩ (low + 128) =
      ([], ⟨owed + 1, bits * 64 + low, 0x80, 0xBF⟩) := by
    simp [step, next, hleast, hgreatest]
  exact decodeFrom_cons (by omega) hstep rest

/-- **The bytes of a character** are decoded as the character. -/
theorem decodeFrom_utf8EncodeChar (c : Char) (rest : Bytes) :
    decodeFrom .start (String.utf8EncodeChar c ++ rest) = some c :: decodeFrom .start rest := by
  have hvalid : c.toNat < 0xD800 ∨ 0xDFFF < c.toNat ∧ c.toNat < 0x110000 := c.valid
  have hchar : ∀ n, n = c.toNat → Char.ofNat n = c := fun n hn => by rw [hn, Char.ofNat_toNat]
  have hcode : c.val.toNat = c.toNat := rfl
  simp only [String.utf8EncodeChar, hcode]
  generalize c.toNat = v at *
  split
  · next hone =>
    rw [List.singleton_append, decodeFrom_first (by omega) (first_one v (by omega)), hchar v rfl]
    rfl
  · split
    · next hone htwo =>
      rw [List.cons_append, List.cons_append, List.nil_append,
        decodeFrom_first (by omega) (first_two (v / 64 % 32) (by omega) (by omega)),
        List.nil_append, decodeFrom_last (by omega) (by omega) (by omega), hchar _ (by omega)]
    · split
      · next hone htwo hthree =>
        rw [List.cons_append, List.cons_append, List.cons_append, List.nil_append,
          decodeFrom_first (by omega) (first_three (v / 4096 % 16) (by omega)), List.nil_append,
          decodeFrom_more 0 (by omega) (by split <;> omega) (by split <;> omega),
          decodeFrom_last (by omega) (by omega) (by omega), hchar _ (by omega)]
      · next hone htwo hthree =>
        rw [List.cons_append, List.cons_append, List.cons_append, List.cons_append, List.nil_append,
          decodeFrom_first (by omega) (first_four (v / 262144 % 8) (by omega)), List.nil_append,
          decodeFrom_more 1 (by omega) (by split <;> omega) (by split <;> omega),
          decodeFrom_more 0 (by omega) (by omega) (by omega),
          decodeFrom_last (by omega) (by omega) (by omega), hchar _ (by omega)]

/-- **What was written is read.**  No character of a text is lost or replaced. -/
theorem decode_encode (t : Text) : decode (encode t) = t.map some := by
  induction t with
  | nil => rfl
  | cons c rest ih =>
      rw [encode, List.flatMap_cons, decode, decodeFrom_utf8EncodeChar]
      exact congrArg (some c :: ·) ih

/-- **The bytes of a text** are decoded as the text. -/
theorem strict?_encode (t : Text) : strict? (encode t) = some t := by
  rw [strict?, decode_encode]
  induction t with
  | nil => rfl
  | cons c rest ih =>
      rw [List.map_cons, List.mapM_cons, ih]
      rfl

end Utf8

end BuildEnv
