import BuildEnv.Json.Numeral

/-!
# Tokens of JSON

The characters of a JSON text are gathered into tokens by a fold: `Lexer.step`
takes one character.  Letters, digits, signs and points that stand together
are one word, which has to be a numeral or one of `true`, `false` and `null`;
no two words can stand side by side, so nothing is lost by it.
-/

namespace BuildEnv

namespace Json

/-- A token of JSON. -/
inductive Token where
  | openArray
  | closeArray
  | openObject
  | closeObject
  | colon
  | comma
  | null
  | bool (b : Bool)
  | number (n : Numeral)
  | string (t : Text)
  deriving DecidableEq, Repr

/-- The token that a word stands for. -/
def Token.ofWord? (word : Text) : Option Token :=
  if word = "true".toList then some (.bool true)
  else if word = "false".toList then some (.bool false)
  else if word = "null".toList then some .null
  else match Numeral.ofText? word with
    | some n => if n.isFinite then some (.number n) else none
    | none => none

/-- Where in a string the lexer is, as to escapes. -/
inductive Escape where
  /-- Outside of escapes. -/
  | none
  /-- After a backslash. -/
  | backslash
  /-- After some of the four digits of a code, with the surrogate that the
  code has to complete. -/
  | code (digits : List Nat) (high : Option Nat)
  /-- After a high surrogate. -/
  | surrogate (high : Nat)
  /-- After the backslash that follows a high surrogate. -/
  | surrogateBackslash (high : Nat)
  deriving DecidableEq, Repr

/-- What the lexer is in the middle of. -/
inductive Mode where
  | between
  /-- In a word, whose characters are given last first. -/
  | word (letters : Text)
  /-- In a string, whose characters are given last first. -/
  | string (chars : Text) (escape : Escape)
  deriving DecidableEq, Repr

/-- The lexer between two characters. -/
structure Lexer where
  /-- The tokens, last first. -/
  tokens : List Token
  mode : Mode
  deriving DecidableEq, Repr

namespace Lexer

/-- Before the first character. -/
def start : Lexer := ⟨[], .between⟩

/-- The characters that words are made of. -/
def isWordChar (c : Char) : Bool :=
  c.isAlphanum || c == '+' || c == '-' || c == '.'

/-- The blanks of JSON. -/
def isBlank (c : Char) : Bool :=
  c == ' ' || c == '\t' || c == '\n' || c == '\r'

/-- The value of a hexadecimal digit. -/
def hexValue? (c : Char) : Option Nat :=
  if c.isDigit then some (c.toNat - '0'.toNat)
  else if 'a' ≤ c ∧ c ≤ 'f' then some (c.toNat - 'a'.toNat + 10)
  else if 'A' ≤ c ∧ c ≤ 'F' then some (c.toNat - 'A'.toNat + 10)
  else none

/-- The character of an escape of one letter. -/
def simpleEscape? (c : Char) : Option Char :=
  match c with
  | '"' => some '"'
  | '\\' => some '\\'
  | '/' => some '/'
  | 'b' => some '\x08'
  | 'f' => some '\x0c'
  | 'n' => some '\n'
  | 'r' => some '\r'
  | 't' => some '\t'
  | _ => none

/-- The first of the two halves of a character beyond 16 bits. -/
def isHighSurrogate (unit : Nat) : Bool :=
  0xD800 ≤ unit && unit ≤ 0xDBFF

/-- The second of the two halves of a character beyond 16 bits. -/
def isLowSurrogate (unit : Nat) : Bool :=
  0xDC00 ≤ unit && unit ≤ 0xDFFF

/-- The character of two halves. -/
def pairChar (high low : Nat) : Char :=
  Char.ofNat (0x10000 + (high - 0xD800) * 0x400 + (low - 0xDC00))

/-- The string after the code of an escape.  A half that stands alone is
refused. -/
def endCode (chars : Text) (unit : Nat) : Option Nat → Option Mode
  | some high =>
    if isLowSurrogate unit then some (.string (pairChar high unit :: chars) .none) else none
  | none =>
    if isHighSurrogate unit then some (.string chars (.surrogate unit))
    else if isLowSurrogate unit then none
    else some (.string (Char.ofNat unit :: chars) .none)

/-- One digit of the code of an escape. -/
def codeDigit (chars : Text) (digits : List Nat) (high : Option Nat) (c : Char) : Option Mode :=
  match hexValue? c with
  | none => none
  | some d => match digits with
    | [x, y, z] => endCode chars (((x * 16 + y) * 16 + z) * 16 + d) high
    | _ => some (.string chars (.code (digits ++ [d]) high))

/-- One character that stands between tokens. -/
def stepBetween (tokens : List Token) (c : Char) : Option Lexer :=
  match c with
  | '[' => some ⟨.openArray :: tokens, .between⟩
  | ']' => some ⟨.closeArray :: tokens, .between⟩
  | '\x7b' => some ⟨.openObject :: tokens, .between⟩
  | '\x7d' => some ⟨.closeObject :: tokens, .between⟩
  | ':' => some ⟨.colon :: tokens, .between⟩
  | ',' => some ⟨.comma :: tokens, .between⟩
  | '"' => some ⟨tokens, .string [] .none⟩
  | c =>
    if isBlank c then some ⟨tokens, .between⟩
    else if isWordChar c then some ⟨tokens, .word [c]⟩
    else none

/-- One character of a string. -/
def stepString (tokens : List Token) (chars : Text) (escape : Escape) (c : Char) : Option Lexer :=
  match escape with
  | .none =>
    if c = '"' then some ⟨.string chars.reverse :: tokens, .between⟩
    else if c = '\\' then some ⟨tokens, .string chars .backslash⟩
    else if c.toNat < 0x20 then none
    else some ⟨tokens, .string (c :: chars) .none⟩
  | .backslash =>
    if c = 'u' then some ⟨tokens, .string chars (.code [] none)⟩
    else (simpleEscape? c).map fun e => ⟨tokens, .string (e :: chars) .none⟩
  | .code digits high => (codeDigit chars digits high c).map (Lexer.mk tokens)
  | .surrogate high =>
    if c = '\\' then some ⟨tokens, .string chars (.surrogateBackslash high)⟩ else none
  | .surrogateBackslash high =>
    if c = 'u' then some ⟨tokens, .string chars (.code [] (some high))⟩ else none

/-- One character. -/
def step (l : Lexer) (c : Char) : Option Lexer :=
  match l.mode with
  | .between => stepBetween l.tokens c
  | .word letters =>
    if isWordChar c then some ⟨l.tokens, .word (c :: letters)⟩
    else match Token.ofWord? letters.reverse with
      | some token => stepBetween (token :: l.tokens) c
      | none => none
  | .string chars escape => stepString l.tokens chars escape c

/-- The tokens at the end of the text. -/
def finish? (l : Lexer) : Option (List Token) :=
  match l.mode with
  | .between => some l.tokens.reverse
  | .word letters => (Token.ofWord? letters.reverse).map fun token => (token :: l.tokens).reverse
  | .string _ _ => none

end Lexer

/-- The tokens of a text. -/
def tokens? (t : Text) : Option (List Token) :=
  (t.foldlM Lexer.step .start).bind Lexer.finish?

end Json

end BuildEnv
