import BuildEnv.Text.Basic

/-!
# Command lines of Windows

The words of a command line as the C runtime of Windows finds them.  Blanks
separate words outside of double quotes.  A backslash is literal unless it
stands in a run before a double quote: there each pair is one backslash, and
an odd one makes the quote literal.

`Scan` is what is known after a part of the text; the words come out of a
fold of `Scan.step` over the characters.
-/

namespace BuildEnv

namespace CommandLine

namespace Windows

/-- The scanner between two characters. -/
structure Scan where
  /-- The finished words, last word first. -/
  words : List Text
  /-- The characters of the word in progress, last first, if there is one. -/
  word : Option Text
  /-- How many backslashes have just been read. -/
  slashes : Nat
  /-- Whether a double quote is open. -/
  quoted : Bool
  deriving DecidableEq, Repr

namespace Scan

/-- Before the first character. -/
def start : Scan := ⟨[], none, 0, false⟩

/-- The word in progress after `n` of the pending backslashes have become
literal and the pending run is over. -/
def settle (s : Scan) (n : Nat) : Scan :=
  if s.slashes = 0 then s
  else { s with word := some (List.replicate n '\\' ++ s.word.getD []), slashes := 0 }

/-- A character of the word in progress. -/
def put (s : Scan) (c : Char) : Scan :=
  { s with word := some (c :: s.word.getD []) }

/-- The end of the word in progress, if there is one. -/
def endWord (s : Scan) : Scan :=
  match s.word with
  | none => s
  | some w => { s with words := w.reverse :: s.words, word := none }

/-- A double quote.  After an odd run of backslashes it is a character,
otherwise it opens or closes. -/
def quote (s : Scan) : Scan :=
  let settled := s.settle (s.slashes / 2)
  if s.slashes % 2 = 1 then settled.put '"'
  else { settled with word := some (settled.word.getD []), quoted := !s.quoted }

/-- One character. -/
def step (s : Scan) (c : Char) : Scan :=
  if c = '\\' then { s with slashes := s.slashes + 1 }
  else if c = '"' then s.quote
  else if Text.isBlank c && !s.quoted then (s.settle s.slashes).endWord
  else (s.settle s.slashes).put c

/-- The words at the end of the text.  An open quote closes there. -/
def finish (s : Scan) : List Text :=
  (s.settle s.slashes).endWord.words.reverse

end Scan

/-- The scanner after a text. -/
def scan (t : Text) : Scan :=
  t.foldl Scan.step .start

/-- The words of a command line. -/
def split (t : Text) : List Text :=
  (scan t).finish

end Windows

end CommandLine

end BuildEnv
