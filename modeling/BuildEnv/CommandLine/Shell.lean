import BuildEnv.Text.Basic

/-!
# Command lines of a Unix shell

The words of a command line as a Unix shell finds them, without expansions.
Space, tab and line feed separate words.  Single quotes keep everything;
in double quotes a backslash escapes the four characters that are special
there and is literal before others; outside of quotes it makes any character
literal.  An escaped line feed vanishes.  A `#` where a word could begin
starts a comment up to the end of the line.
-/

namespace BuildEnv

namespace CommandLine

namespace Shell

/-- Where in a command line the scanner is. -/
inductive Place where
  /-- Between words. -/
  | between
  /-- After a backslash between words. -/
  | betweenEscaped
  /-- In a word, outside of quotes. -/
  | plain
  /-- After a backslash in a word. -/
  | plainEscaped
  /-- In single quotes. -/
  | single
  /-- In double quotes. -/
  | double
  /-- After a backslash in double quotes. -/
  | doubleEscaped
  /-- In a comment. -/
  | comment
  deriving DecidableEq, Repr

/-- The scanner between two characters. -/
structure Scan where
  place : Place
  /-- The characters of the word in progress, last first. -/
  word : Text
  /-- The finished words, last word first. -/
  words : List Text
  deriving DecidableEq, Repr

namespace Scan

/-- Before the first character. -/
def start : Scan := ⟨.between, [], []⟩

/-- Goes on at another place. -/
def goto (s : Scan) (place : Place) : Scan :=
  { s with place }

/-- Takes a character into the word and goes on at a place. -/
def put (s : Scan) (c : Char) (place : Place) : Scan :=
  { s with word := c :: s.word, place }

/-- Ends the word. -/
def endWord (s : Scan) : Scan :=
  ⟨.between, [], s.word.reverse :: s.words⟩

/-- The characters that separate words. -/
def isSeparator (c : Char) : Bool :=
  c == ' ' || c == '\t' || c == '\n'

/-- The characters that a backslash escapes in double quotes. -/
def isSpecialInQuotes (c : Char) : Bool :=
  c == '$' || c == '\x60' || c == '"' || c == '\\'

/-- One character. -/
def step (s : Scan) (c : Char) : Scan :=
  match s.place with
  | .between =>
    if c = '\'' then s.goto .single
    else if c = '"' then s.goto .double
    else if c = '\\' then s.goto .betweenEscaped
    else if isSeparator c then s
    else if c = '#' then s.goto .comment
    else s.put c .plain
  | .betweenEscaped => if c = '\n' then s.goto .between else s.put c .plain
  | .plain =>
    if c = '\'' then s.goto .single
    else if c = '"' then s.goto .double
    else if c = '\\' then s.goto .plainEscaped
    else if isSeparator c then s.endWord
    else s.put c .plain
  | .plainEscaped => if c = '\n' then s.goto .plain else s.put c .plain
  | .single => if c = '\'' then s.goto .plain else s.put c .single
  | .double =>
    if c = '"' then s.goto .plain
    else if c = '\\' then s.goto .doubleEscaped
    else s.put c .double
  | .doubleEscaped =>
    if c = '\n' then s.goto .double
    else if isSpecialInQuotes c then s.put c .double
    else (s.put '\\' .double).put c .double
  | .comment => if c = '\n' then s.goto .between else s

/-- The words at the end of the text; none if a quote is still open. -/
def finish (s : Scan) : Option (List Text) :=
  match s.place with
  | .between | .comment => some s.words.reverse
  | .plain => some s.endWord.words.reverse
  | .betweenEscaped | .plainEscaped => some (s.put '\\' .plain).endWord.words.reverse
  | .single | .double | .doubleEscaped => none

end Scan

/-- The words of a command line; none if a quote is not closed. -/
def split? (t : Text) : Option (List Text) :=
  (t.foldl Scan.step .start).finish

end Shell

end CommandLine

end BuildEnv
