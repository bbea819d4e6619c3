import BuildEnv.Text.Basic

/-!
# UTF-8

UTF-8 is decoded by a machine that takes one byte at a time.  A byte that
cannot continue the character in progress ends it as a malformed sequence,
and is looked at again as the beginning of the next one.

In what a decoder returns, `none` stands for a malformed sequence.
-/

namespace BuildEnv

/-- Bytes as they stand in a file. -/
abbrev Bytes := List UInt8

namespace Utf8

/-- The character in progress. -/
structure State where
  /-- How many bytes are still owed. -/
  owed : Nat
  /-- The bits so far. -/
  bits : Nat
  /-- The least byte that can come next. -/
  least : Nat
  /-- The greatest byte that can come next. -/
  greatest : Nat
  deriving DecidableEq, Repr

/-- Between characters. -/
def State.start : State := ⟨0, 0, 0x80, 0xBF⟩

/-- A byte that begins a character. -/
def first (b : Nat) : List (Option Char) × State :=
  if b < 0x80 then ([some (Char.ofNat b)], .start)
  else if 0xC2 ≤ b && b ≤ 0xDF then ([], ⟨1, b - 0xC0, 0x80, 0xBF⟩)
  else if b == 0xE0 then ([], ⟨2, 0, 0xA0, 0xBF⟩)
  else if b == 0xED then ([], ⟨2, 0xD, 0x80, 0x9F⟩)
  else if 0xE1 ≤ b && b ≤ 0xEF then ([], ⟨2, b - 0xE0, 0x80, 0xBF⟩)
  else if b == 0xF0 then ([], ⟨3, 0, 0x90, 0xBF⟩)
  else if 0xF1 ≤ b && b ≤ 0xF3 then ([], ⟨3, b - 0xF0, 0x80, 0xBF⟩)
  else if b == 0xF4 then ([], ⟨3, 4, 0x80, 0x8F⟩)
  else ([none], .start)

/-- A byte that continues the character in progress. -/
def next (s : State) (b : Nat) : List (Option Char) × State :=
  let bits := s.bits * 64 + (b - 0x80)
  if s.owed = 1 then ([some (Char.ofNat bits)], .start)
  else ([], ⟨s.owed - 1, bits, 0x80, 0xBF⟩)

/-- One byte. -/
def step (s : State) (b : Nat) : List (Option Char) × State :=
  if s.owed = 0 then first b
  else if s.least ≤ b && b ≤ s.greatest then next s b
  else (none :: (first b).1, (first b).2)

/-- The characters of some bytes, with a character in progress. -/
def decodeFrom (s : State) : Bytes → List (Option Char)
  | [] => if s.owed = 0 then [] else [none]
  | b :: rest => (step s b.toNat).1 ++ decodeFrom (step s b.toNat).2 rest

/-- The characters of some bytes. -/
def decode (bytes : Bytes) : List (Option Char) :=
  decodeFrom .start bytes

/-- The characters of some bytes without malformed sequences. -/
def strict? (bytes : Bytes) : Option Text :=
  (decode bytes).mapM id

/-- The bytes of some characters. -/
def encode (t : Text) : Bytes :=
  t.flatMap String.utf8EncodeChar

end Utf8

end BuildEnv
