import BuildEnv.Json.Numeral
import BuildEnv.Yaml.Scalar

/-!
# What plain scalars mean

A plain scalar can be a missing value, a truth value or a number.  A text that
looks like one of these has to be quoted in order to stay a text.
-/

namespace BuildEnv

namespace Yaml

/-- The words for a missing value, of which the empty one is one. -/
def nullScalars : List Text :=
  [[], ['~'], "null".toList, "Null".toList, "NULL".toList]

/-- The words for truth values, also those of older versions of YAML. -/
def truthScalars : List Text :=
  ["y", "Y", "yes", "Yes", "YES", "n", "N", "no", "No", "NO", "true", "True", "TRUE", "false", "False",
    "FALSE", "on", "On", "ON", "off", "Off", "OFF"].map String.toList

/-- The digits of a base of at most 16. -/
def isDigitOf (base : Nat) (c : Char) : Bool :=
  (hexValue? c).any (· < base)

/-- The number of some digits. -/
def digitsNumber (base : Nat) (t : Text) : Nat :=
  t.foldl (fun n c => base * n + (hexValue? c).getD 0) 0

/-- Whether a text is a number of at most `limit` in the digits of a base. -/
def isNumberUpTo (limit base : Nat) (t : Text) : Bool :=
  !t.isEmpty && t.all (isDigitOf base) && digitsNumber base t ≤ limit

/-- A base by the letter that tells it. -/
def baseOfLetter? : Char → Option Nat
  | 'x' => some 16
  | 'o' => some 8
  | 'b' => some 2
  | _ => none

/-- Whether a text without sign is an integer of at most `limit`.  A zero does
not stand before other digits. -/
def isIntegerUpTo (limit : Nat) : Text → Bool
  | '0' :: c :: rest => (baseOfLetter? c).any fun base => isNumberUpTo limit base rest
  | t => isNumberUpTo limit 10 t

/-- Whether a text is an integer of 128 bits. -/
def isInteger : Text → Bool
  | '+' :: t => isIntegerUpTo (Nat.pow 2 128 - 1) t
  | '-' :: t => isIntegerUpTo (Nat.pow 2 127) t
  | t => isIntegerUpTo (Nat.pow 2 128 - 1) t

/-- Whether the number of some digits times a power of ten is in the range of
double precision. -/
def isFiniteDecimal (digits : Text) (exponent : Int) : Bool :=
  let digits := digits.dropWhile (· == '0')
  let size := digits.length + exponent
  if digits.isEmpty || size < 300 then true
  else if 310 < size then false
  else
    let n := Text.digitsValue digits
    if exponent < 0 then n < Numeral.infinity * Nat.pow 10 (-exponent).toNat
    else n * Nat.pow 10 exponent.toNat < Numeral.infinity

/-- Reads an exponent, which is all of the text; nothing is an exponent of
zero. -/
def decimalExponent? (t : Text) : Option Int :=
  (Numeral.exponent? t).map fun
    | none => 0
    | some (negative, digits) =>
      if negative then -(Text.digitsValue digits : Int) else Text.digitsValue digits

/-- A zero before other digits, which are all of the text. -/
def isZeroLed (t : Text) : Bool :=
  t.length > 1 && t.head? == some '0' && t.all Char.isDigit

/-- Whether a text without sign is a decimal number in the range of double
precision.  A zero before other digits makes none. -/
def isUnsignedDecimal (t : Text) : Bool :=
  let whole := t.takeWhile Char.isDigit
  let rest := t.dropWhile Char.isDigit
  let (fraction, rest) := match rest with
    | '.' :: rest => (rest.takeWhile Char.isDigit, rest.dropWhile Char.isDigit)
    | _ => ([], rest)
  let digits := whole ++ fraction
  !isZeroLed t && !digits.isEmpty && match decimalExponent? rest with
    | none => false
    | some e => isFiniteDecimal digits (e - fraction.length)

/-- The words for infinity without sign. -/
def infinityScalars : List Text :=
  [".inf".toList, ".Inf".toList, ".INF".toList]

/-- The words for what is no number. -/
def nanScalars : List Text :=
  [".nan".toList, ".NaN".toList, ".NAN".toList]

/-- The text without a sign before it. -/
def withoutSign : Text → Text
  | '+' :: t | '-' :: t => t
  | t => t

/-- Whether a text is a decimal number or one of the words for such. -/
def isDecimal (t : Text) : Bool :=
  let unsigned := withoutSign t
  infinityScalars.contains unsigned || nanScalars.contains t || isUnsignedDecimal unsigned

/-- Whether a plain scalar could be taken for something else than a text.
Digits after a zero are no number, but look like one. -/
def isResolved (t : Text) : Bool :=
  nullScalars.contains t || truthScalars.contains t || isInteger t || isDecimal t
    || isZeroLed (withoutSign t)

end Yaml

end BuildEnv
