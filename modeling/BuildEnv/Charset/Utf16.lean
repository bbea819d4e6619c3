import BuildEnv.Charset.Utf8

/-!
# UTF-16

UTF-16 is decoded by a machine that takes one byte at a time.  A surrogate
without its partner is a malformed sequence, and so is all that is left
incomplete at the end.
-/

namespace BuildEnv

namespace Utf16

/-- What is incomplete. -/
structure State where
  /-- The first byte of a unit. -/
  half : Option Nat
  /-- The first surrogate of a pair. -/
  high : Option Nat
  deriving DecidableEq, Repr

/-- Between characters. -/
def State.start : State := ⟨none, none⟩

/-- A unit that begins a character. -/
def firstUnit (unit : Nat) : List (Option Char) × State :=
  if 0xD800 ≤ unit && unit ≤ 0xDBFF then ([], ⟨none, some unit⟩)
  else if 0xDC00 ≤ unit && unit ≤ 0xDFFF then ([none], .start)
  else ([some (Char.ofNat unit)], .start)

/-- One unit. -/
def stepUnit (high : Option Nat) (unit : Nat) : List (Option Char) × State :=
  match high with
  | none => firstUnit unit
  | some h =>
    if 0xDC00 ≤ unit && unit ≤ 0xDFFF then
      ([some (Char.ofNat (0x10000 + (h - 0xD800) * 0x400 + (unit - 0xDC00)))], .start)
    else (none :: (firstUnit unit).1, (firstUnit unit).2)

/-- One byte. -/
def step (bigEndian : Bool) (s : State) (b : Nat) : List (Option Char) × State :=
  match s.half with
  | none => ([], { s with half := some b })
  | some a => stepUnit s.high (if bigEndian then a * 256 + b else b * 256 + a)

/-- The characters of some bytes, with a character in progress. -/
def decodeFrom (bigEndian : Bool) (s : State) : Bytes → List (Option Char)
  | [] => if s = .start then [] else [none]
  | b :: rest =>
    (step bigEndian s b.toNat).1 ++ decodeFrom bigEndian (step bigEndian s b.toNat).2 rest

/-- The characters of some bytes. -/
def decode (bigEndian : Bool) (bytes : Bytes) : List (Option Char) :=
  decodeFrom bigEndian .start bytes

end Utf16

end BuildEnv
