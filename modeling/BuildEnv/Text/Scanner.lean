import BuildEnv.Text.Class

/-!
# Scanners

A scanner reads from the front of a text and returns what it read together
with the rest, or fails.  Repetitions take as much as they can and never give
anything back; the patterns written with them need no more, because what
follows a repetition is never one of its characters.

`Scanner.first?` looks for the first place of a text where a scanner
succeeds.
-/

namespace BuildEnv

/-- A reader of the front of a text. -/
abbrev Scanner := StateT Text Option

namespace Scanner

/-- One character that passes the test. -/
def one (p : Char → Bool) : Scanner Char
  | c :: rest => if p c then some (c, rest) else none
  | [] => none

/-- All characters up to the first one that fails the test. -/
def run (p : Char → Bool) : Scanner Text :=
  fun t => some (t.takeWhile p, t.dropWhile p)

/-- The same, where there has to be at least one. -/
def run1 (p : Char → Bool) : Scanner Text :=
  fun t => if (t.takeWhile p).isEmpty then none else some (t.takeWhile p, t.dropWhile p)

/-- A fixed number of characters that pass the test. -/
def count (p : Char → Bool) (n : Nat) : Scanner Text :=
  fun t => if (t.take n).length = n && (t.take n).all p then some (t.take n, t.drop n) else none

/-- A fixed text. -/
def literal (s : String) : Scanner Unit :=
  fun t => (Text.after? s.toList t).map fun rest => ((), rest)

/-- A fixed text, given in small letters, in any case. -/
def anyCase (s : String) : Scanner Unit :=
  fun t =>
    let n := s.toList.length
    if (t.take n).map Text.foldCase = s.toList then some ((), t.drop n) else none

/-- What a scanner reads, or nothing where it fails. -/
def optional {α : Type} (x : Scanner α) : Scanner (Option α) :=
  fun t => match x t with
    | some (a, rest) => some (some a, rest)
    | none => some (none, t)

/-- The first of two scanners that succeeds. -/
def either {α : Type} (x y : Scanner α) : Scanner α :=
  fun t => match x t with
    | some r => some r
    | none => y t

/-- The end of a word: what follows is no character of a word. -/
def wordEnd : Scanner Unit :=
  fun t => match t with
    | c :: _ => if Text.isWord c then none else some ((), t)
    | [] => some ((), t)

/-- What a scanner reads at the first place where it succeeds.  It is told the
character before the place. -/
def firstAfter? {α : Type} (x : Option Char → Scanner α) : (before : Option Char) → Text → Option α
  | before, [] => (x before []).map (·.1)
  | before, c :: rest => match x before (c :: rest) with
    | some (a, _) => some a
    | none => firstAfter? x (some c) rest

/-- What a scanner reads at the first place where it succeeds. -/
def first? {α : Type} (x : Scanner α) (t : Text) : Option α :=
  firstAfter? (fun _ => x) none t

end Scanner

end BuildEnv
