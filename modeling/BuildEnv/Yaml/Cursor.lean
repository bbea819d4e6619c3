import BuildEnv.Text.Basic

/-!
# Places in a YAML text

A cursor is what is left of the text together with its line and column, which
decide what indentation means.  The end of the text counts as a blank and as
a line break wherever one of these ends something.
-/

namespace BuildEnv

namespace Yaml

/-- A space or a tab. -/
def isBlank (c : Char) : Bool :=
  c == ' ' || c == '\t'

/-- The characters that break a line. -/
def isBreak (c : Char) : Bool :=
  c == '\r' || c == '\n' || c == '\u0085' || c == '\u2028' || c == '\u2029'

/-- A line break or the end. -/
def isBreakOrEnd (c : Option Char) : Bool :=
  c.all isBreak

/-- A space, a tab, a line break or the end. -/
def isBlankOrEnd (c : Option Char) : Bool :=
  c.all fun c => isBlank c || isBreak c

/-- The characters that a YAML text can hold. -/
def isAllowed (c : Char) : Bool :=
  let n := c.toNat
  n == 0x09 || n == 0x0A || n == 0x0D || (0x20 ≤ n && n ≤ 0x7E) || n == 0x85 ||
    (0xA0 ≤ n && n ≤ 0xD7FF) || (0xE000 ≤ n && n ≤ 0xFFFD) || 0x10000 ≤ n

/-- A place in a text. -/
structure Cursor where
  rest : Text
  index : Nat
  line : Nat
  column : Nat
  deriving DecidableEq, Repr

namespace Cursor

/-- The beginning of a text. -/
def start (t : Text) : Cursor := ⟨t, 0, 0, 0⟩

/-- The next character. -/
def peek (c : Cursor) : Option Char := c.rest.head?

/-- The character `n` places further on. -/
def peekAt (c : Cursor) (n : Nat) : Option Char := c.rest[n]?

/-- Passes characters that are no line breaks. -/
def skip (c : Cursor) (n : Nat) : Cursor :=
  ⟨c.rest.drop n, c.index + n, c.line, c.column + n⟩

/-- Passes a line break, if there is one. -/
def skipBreak (c : Cursor) : Cursor :=
  match c.rest with
  | '\r' :: '\n' :: rest => ⟨rest, c.index + 2, c.line + 1, 0⟩
  | b :: rest => if isBreak b then ⟨rest, c.index + 1, c.line + 1, 0⟩ else c
  | [] => c

/-- The line break at the cursor as it stands in a scalar: a line feed, except
for the two separators of Unicode. -/
def breakText (c : Cursor) : Text :=
  match c.rest with
  | b :: _ =>
    if b == '\u2028' || b == '\u2029' then [b] else if isBreak b then ['\n'] else []
  | [] => []

/-- Passes the characters that pass a test, none of which is a line break. -/
def skipWhile (c : Cursor) (p : Char → Bool) : Cursor :=
  c.skip (c.rest.takeWhile p).length

/-- Passes the rest of the line. -/
def skipLine (c : Cursor) : Cursor :=
  c.skipWhile fun x => !isBreak x

/-- Whether three characters and a blank stand at the beginning of a line. -/
def atLineMark (c : Cursor) (mark : Char) : Bool :=
  c.column == 0 && c.rest.take 3 == [mark, mark, mark] && isBlankOrEnd (c.peekAt 3)

/-- Whether a document starts or ends here. -/
def atDocumentMark (c : Cursor) : Bool :=
  c.atLineMark '-' || c.atLineMark '.'

end Cursor

end Yaml

end BuildEnv
