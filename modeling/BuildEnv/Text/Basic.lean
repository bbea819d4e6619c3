/-!
# Texts

A text is a list of characters, so that every rule on texts is a recursion on
a list.  This module has the cuts that all readers share: trimming the blanks
of both ends, splitting at a separator, cutting into lines and taking a fixed
beginning away.

A *blank* is a character with the Unicode property `White_Space`.
-/

namespace BuildEnv

/-- A text, character by character. -/
abbrev Text := List Char

namespace Text

/-- The characters with the Unicode property `White_Space`. -/
def isBlank (c : Char) : Bool :=
  let n := c.toNat
  (9 ≤ n && n ≤ 13) || n == 32 || n == 0x85 || n == 0xA0 || n == 0x1680 ||
    (0x2000 ≤ n && n ≤ 0x200A) || n == 0x2028 || n == 0x2029 || n == 0x202F ||
    n == 0x205F || n == 0x3000

/-- Takes the longest ending away whose characters all pass the test. -/
def dropWhileEnd (p : Char → Bool) (t : Text) : Text :=
  (t.reverse.dropWhile p).reverse

/-- Takes the characters that pass the test away from both ends. -/
def trimBy (p : Char → Bool) (t : Text) : Text :=
  dropWhileEnd p (t.dropWhile p)

/-- The text without the blanks of both ends. -/
def trim (t : Text) : Text :=
  trimBy isBlank t

/-- Cuts at every separator.  There is one part more than there are
separators, so that no character but the separators is lost. -/
def splitOn (sep : Char) : Text → List Text
  | [] => [[]]
  | c :: t =>
    if c = sep then [] :: splitOn sep t
    else match splitOn sep t with
      | [] => [[c]]
      | part :: parts => (c :: part) :: parts

/-- Puts a separator between every two parts. -/
def joinWith (sep : Text) : List Text → Text
  | [] => []
  | [part] => part
  | part :: parts => part ++ sep ++ joinWith sep parts

/-- What follows `lead`, if the text begins with it. -/
def after? : (lead t : Text) → Option Text
  | [], t => some t
  | _ :: _, [] => none
  | a :: lead, c :: t => if a = c then after? lead t else none

/-- A carriage return at the very end belongs to the line break. -/
def dropReturn (line : Text) : Text :=
  match line.reverse with
  | '\r' :: rest => rest.reverse
  | _ => line

/-- Every part but the last ended in a line feed; an empty last part is no
line. -/
def linesOfParts : List Text → List Text
  | [] => []
  | [rest] => if rest.isEmpty then [] else [rest]
  | part :: parts => dropReturn part :: linesOfParts parts

/-- The lines of a text.  A line ends at a line feed, which takes one carriage
return before it along; what follows the last line feed is a line unless it
is empty. -/
def lines (t : Text) : List Text :=
  linesOfParts (splitOn '\n' t)

/-- The letters `A` to `Z` are written small, all else is kept. -/
def lowerAscii (t : Text) : Text :=
  t.map Char.toLower

/-- Equality up to the case of the letters `A` to `Z`. -/
def sameIgnoringCase (s t : Text) : Bool :=
  lowerAscii s == lowerAscii t

/-- The length in UTF-8. -/
def byteLength : Text → Nat
  | [] => 0
  | c :: rest => c.utf8Size + byteLength rest

/-- A number in decimal digits. -/
def ofNat (n : Nat) : Text :=
  Nat.toDigits 10 n

/-- The number that a run of decimal digits stands for. -/
def digitsValue (t : Text) : Nat :=
  t.foldl (fun n c => 10 * n + (c.toNat - '0'.toNat)) 0

/-- Reads a number of at most `limit` written in the digits `0` to `9`, with
or without a plus sign before it. -/
def toNat? (limit : Nat) (t : Text) : Option Nat :=
  let digits := match t with
    | '+' :: rest => rest
    | _ => t
  if digits.isEmpty || !digits.all Char.isDigit then none
  else if digitsValue digits ≤ limit then some (digitsValue digits) else none

/-- The greatest number of 16 bits. -/
def max16 : Nat := 65535

/-- The greatest number of 32 bits. -/
def max32 : Nat := 4294967295

end Text

end BuildEnv
