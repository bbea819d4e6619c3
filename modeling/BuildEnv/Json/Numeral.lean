import BuildEnv.Text.Basic

/-!
# Numerals

The numbers of JSON as they are written: sign, digits, digits after the
point, exponent.  Nothing is computed with them, but a numeral beyond the
range of double precision is refused (`Numeral.isFinite`).

The test takes the leading digits that fit into 64 bits as an integer, rounds
it and the power of ten to double precision, and asks whether their product
rounds to infinity.
-/

namespace BuildEnv

/-- A number as it is written. -/
structure Numeral where
  negative : Bool
  /-- The digits before the point. -/
  whole : Text
  /-- The digits after the point; there is no point if there are none. -/
  fraction : Text
  /-- Whether the exponent is negative, and its digits. -/
  exponent : Option (Bool × Text)
  deriving DecidableEq, Repr

namespace Numeral

/-- Digits without a zero that could be left out. -/
def isWhole : Text → Bool
  | ['0'] => true
  | '0' :: _ => false
  | t => !t.isEmpty && t.all Char.isDigit

/-- A sign before an exponent. -/
def signedDigits : Text → Bool × Text
  | '-' :: digits => (true, digits)
  | '+' :: digits => (false, digits)
  | digits => (false, digits)

/-- Reads the exponent, which is all of the text; nothing is no exponent. -/
def exponent? : Text → Option (Option (Bool × Text))
  | [] => some none
  | c :: t =>
    let e := signedDigits t
    if (c == 'e' || c == 'E') && !e.2.isEmpty && e.2.all Char.isDigit then some (some e) else none

/-- Reads what follows the digits before the point. -/
def afterWhole? (negative : Bool) (whole : Text) : Text → Option Numeral
  | '.' :: t =>
    let fraction := t.takeWhile Char.isDigit
    if fraction.isEmpty then none
    else (exponent? (t.dropWhile Char.isDigit)).map (Numeral.mk negative whole fraction)
  | t => (exponent? t).map (Numeral.mk negative whole [])

/-- Reads a numeral without its sign. -/
def unsigned? (negative : Bool) (t : Text) : Option Numeral :=
  let whole := t.takeWhile Char.isDigit
  if isWhole whole then afterWhole? negative whole (t.dropWhile Char.isDigit) else none

/-- Reads a numeral, which is all of the text. -/
def ofText? : Text → Option Numeral
  | '-' :: t => unsigned? true t
  | t => unsigned? false t

/-- How an exponent is written. -/
def exponentText : Option (Bool × Text) → Text
  | none => []
  | some (negative, digits) => 'e' :: (if negative then ['-'] else []) ++ digits

/-- How a numeral is written. -/
def text (n : Numeral) : Text :=
  (if n.negative then ['-'] else []) ++ n.whole
    ++ (if n.fraction.isEmpty then [] else '.' :: n.fraction) ++ exponentText n.exponent

/-- The greatest number of 64 bits. -/
def max64 : Nat := Nat.pow 2 64 - 1

/-- Takes digits into an integer as long as it fits into 64 bits: the integer,
and how many digits were taken. -/
def absorb (value taken : Nat) : Text → Nat × Nat
  | [] => (value, taken)
  | c :: rest =>
    let more := 10 * value + (c.toNat - '0'.toNat)
    if more ≤ max64 then absorb more (taken + 1) rest else (value, taken)

/-- The integer that a numeral is a power of ten away from, and the exponent
of that power. -/
def scaled (n : Numeral) : Nat × Int :=
  let (value, taken) := absorb 0 0 n.whole
  let dropped := n.whole.length - taken
  let (value, taken) := absorb value 0 n.fraction
  let shift : Int := match n.exponent with
    | none => 0
    | some (negative, digits) =>
      let e := Text.digitsValue digits
      if negative then -e else e
  (value, shift + dropped - taken)

/-- The nearest integer of 53 significant bits, an even last bit in the
middle. -/
def round53 (n : Nat) : Nat :=
  if n < Nat.pow 2 53 then n
  else
    let extra := n.log2 - 52
    let quotient := n >>> extra
    let remainder := n % Nat.pow 2 extra
    let half := Nat.pow 2 (extra - 1)
    if half < remainder || (remainder == half && quotient % 2 == 1) then
      (quotient + 1) <<< extra
    else quotient <<< extra

/-- The least integer that rounds to infinity. -/
def infinity : Nat := Nat.pow 2 1024 - Nat.pow 2 970

/-- Whether the numeral is in the range of double precision. -/
def isFinite (n : Numeral) : Bool :=
  let (value, e) := n.scaled
  value == 0 || e < 0 || (e ≤ 308 && round53 value * round53 (Nat.pow 10 e.toNat) < infinity)

end Numeral

end BuildEnv
