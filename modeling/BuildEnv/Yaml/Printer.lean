import BuildEnv.Yaml.Cursor
import BuildEnv.Yaml.Resolution

/-!
# Writing scalars of YAML

How a text is written as the value of a key or as an item of a list, so that
it is read back as the same text: plain where that is safe, in single quotes
where it would be taken for something else, as a literal block where it has
line feeds, and in double quotes where nothing else can hold it.

Lines are never folded, and the content of a block is indented by two spaces.
-/

namespace BuildEnv

namespace Yaml

/-- The ways to write a scalar. -/
inductive Style where
  | plain
  | single
  | double
  | literal
  deriving DecidableEq, Repr

/-- The characters that are written as they are. -/
def isPrintable (c : Char) : Bool :=
  let n := c.toNat
  n == 0x0A || (0x20 ≤ n && n ≤ 0x7E) || (0xA0 ≤ n && n ≤ 0xFFFD && n != 0xFEFF)

/-- The characters that must not begin a plain scalar. -/
def leadIndicators : List Char :=
  ['#', ',', '[', ']', '\x7b', '\x7d', '&', '*', '!', '|', '>', '\'', '"', '%', '@', '\x60']

/-- Whether the first character, with the one after it, rules a plain scalar
out. -/
def ruledOutFirst (c : Char) (next : Option Char) : Bool :=
  leadIndicators.contains c || ((c == '?' || c == ':' || c == '-') && isBlankOrEnd next)

/-- Whether the characters after another one rule a plain scalar out: a colon
before a blank, or a comment. -/
def ruledOutAfter : (before : Char) → Text → Bool
  | _, [] => false
  | before, c :: rest =>
    (c == ':' && isBlankOrEnd rest.head?) || (c == '#' && isBlankOrEnd (some before))
      || ruledOutAfter c rest

/-- Whether the indicators in a text rule a plain scalar out. -/
def ruledOut : Text → Bool
  | [] => false
  | c :: rest =>
    let mark := (c :: rest).take 3
    mark == ['-', '-', '-'] || mark == ['.', '.', '.'] || ruledOutFirst c rest.head?
      || ruledOutAfter c rest

/-- Whether a character of one kind stands right before one of another kind. -/
def hasPair (first second : Char → Bool) : Text → Bool
  | a :: b :: rest => (first a && second b) || hasPair first second (b :: rest)
  | _ => false

/-- A space. -/
def isSpace (c : Char) : Bool := c == ' '

/-- Whether a text has characters that only double quotes can hold. -/
def needsEscape (t : Text) : Bool :=
  t.any (fun c => !isPrintable c) || hasPair isSpace isBreak t

/-- Whether a text can be plain. -/
def allowsPlain (t : Text) : Bool :=
  !needsEscape t && !t.any isBreak && !t.head?.any isSpace && !t.getLast?.any isSpace && !ruledOut t

/-- Whether a text can stand in single quotes. -/
def allowsSingle (t : Text) : Bool :=
  !needsEscape t && !hasPair isBreak isSpace t

/-- Whether a text can be a literal block. -/
def allowsLiteral (t : Text) : Bool :=
  !t.isEmpty && !needsEscape t && !t.getLast?.any isSpace

/-- The way in which a text is written. -/
def Style.of (t : Text) : Style :=
  if truthScalars.contains t || (!t.contains '\n' && isResolved t) then
    if allowsSingle t then .single else .double
  else if t.contains '\n' then
    if allowsLiteral t then .literal else .double
  else if allowsPlain t then .plain
  else if allowsSingle t then .single
  else .double

/-- A line break is followed by the indentation of the line after it, unless
that is empty.  The first line is not indented here. -/
def indentLines : Text → Text
  | a :: b :: rest =>
    if isBreak a && !isBreak b then a :: ' ' :: ' ' :: indentLines (b :: rest)
    else a :: indentLines (b :: rest)
  | t => t

/-- A text in single quotes. -/
def writeSingle (t : Text) : Text :=
  let quoted := t.flatMap fun c => if c == '\'' then ['\'', '\''] else [c]
  '\'' :: indentLines (quoted ++ ['\''])

/-- The digits of a code in base 16, in capitals. -/
def codeDigits : (width : Nat) → Nat → Text
  | 0, _ => []
  | width + 1, n => codeDigits width (n / 16) ++ [(Nat.digitChar (n % 16)).toUpper]

/-- The letter of the escape of a character. -/
def escapeLetter? (c : Char) : Option Char :=
  match c.toNat with
  | 0x00 => some '0'
  | 0x07 => some 'a'
  | 0x08 => some 'b'
  | 0x09 => some 't'
  | 0x0A => some 'n'
  | 0x0B => some 'v'
  | 0x0C => some 'f'
  | 0x0D => some 'r'
  | 0x1B => some 'e'
  | 0x22 => some '"'
  | 0x5C => some '\\'
  | 0x85 => some 'N'
  | 0x2028 => some 'L'
  | 0x2029 => some 'P'
  | _ => none

/-- A character in double quotes. -/
def writeEscaped (c : Char) : Text :=
  if isPrintable c && !isBreak c && c != '"' && c != '\\' then [c]
  else match escapeLetter? c with
    | some letter => ['\\', letter]
    | none =>
      let n := c.toNat
      if n ≤ 0xFF then '\\' :: 'x' :: codeDigits 2 n
      else if n ≤ 0xFFFF then '\\' :: 'u' :: codeDigits 4 n
      else '\\' :: 'U' :: codeDigits 8 n

/-- A text in double quotes. -/
def writeDouble (t : Text) : Text :=
  '"' :: t.flatMap writeEscaped ++ ['"']

/-- The signs after the indicator of a block: its indentation, where a blank
line would hide it, and what happens to the line breaks at its end. -/
def blockHints (t : Text) : Text :=
  let indent := if t.head?.any fun c => isSpace c || isBreak c then ['2'] else []
  let chomping := match t.reverse with
    | [] => ['-']
    | [c] => if isBreak c then ['+'] else ['-']
    | c :: before :: _ => if !isBreak c then ['-'] else if isBreak before then ['+'] else []
  indent ++ chomping

/-- A text as a literal block.  A line break at its end also ends the block. -/
def writeLiteral (t : Text) : Text :=
  '|' :: blockHints t ++ indentLines ('\n' :: t)

/-- A text as a scalar. -/
def write (t : Text) : Text :=
  match Style.of t with
  | .plain => t
  | .single => writeSingle t
  | .double => writeDouble t
  | .literal => writeLiteral t

/-- A line, which ends in a line feed unless a line break ends it already. -/
def endLine (t : Text) : Text :=
  if t.getLast?.any isBreak then t else t ++ ['\n']

end Yaml

end BuildEnv
