import BuildEnv.Text.Scanner

/-!
# Log lines

A line of a build log may carry decorations before its text: byte order
marks, the time stamp of a build service, and the number of the project that
the line belongs to, as in `2>`.  `LogLine.split` takes them off.
-/

namespace BuildEnv

/-- A line without its decorations. -/
structure LogLine where
  /-- The number of the project, when the line tells it. -/
  context : Option Nat
  text : Text
  deriving DecidableEq, Repr

namespace LogLine

open Scanner

/-- A time stamp such as `2023-04-01T10:20:30.123Z` and the blanks after
it. -/
def timestamp : Scanner Unit := do
  let _ ← count Text.isDigit 4
  literal "-"
  let _ ← count Text.isDigit 2
  literal "-"
  let _ ← count Text.isDigit 2
  literal "T"
  let _ ← count Text.isDigit 2
  literal ":"
  let _ ← count Text.isDigit 2
  literal ":"
  let _ ← count Text.isDigit 2
  let _ ← Scanner.optional do
    literal "."
    run1 Text.isDigit
  literal "Z"
  let _ ← run1 Text.isBlank

/-- The digits of a project number, before the `>` that ends it. -/
def contextDigits : Scanner Text := do
  let digits ← run1 Text.isDigit
  literal ">"
  pure digits

/-- A byte order mark. -/
def isByteOrderMark (c : Char) : Bool :=
  c == '\uFEFF'

/-- What follows a time stamp, all of the text if there is none. -/
def dropTimestamp (t : Text) : Text :=
  match timestamp t with
  | some (_, rest) => rest
  | none => t

/-- Takes the decorations off a line.  A number that is too large, or written
in other digits than `0` to `9`, is taken off but tells no project. -/
def split (line : Text) : LogLine :=
  let bare := (dropTimestamp (line.dropWhile isByteOrderMark)).dropWhile Text.isBlank
  match contextDigits bare with
  | some (digits, rest) => ⟨Text.toNat? Text.max32 digits, rest⟩
  | none => ⟨none, bare⟩

end LogLine

end BuildEnv
