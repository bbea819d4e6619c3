import BuildEnv.Yaml.Cursor

/-!
# Scalars of YAML

How the five kinds of scalars are read: plain, in single and double quotes,
literal and folded.  A scalar that goes over several lines is folded: one line
break is a space, and of more the first one vanishes.

Every reader returns the text and the place after it, and fails on a scalar
that is not well formed.
-/

namespace BuildEnv

namespace Yaml

/-- The blanks and line breaks between two words of a scalar. -/
structure Gap where
  /-- The blanks before the first line break. -/
  blanks : Text
  /-- Whether there is a line break. -/
  broken : Bool
  /-- The first line break. -/
  first : Text
  /-- The other line breaks. -/
  others : Text
  deriving DecidableEq, Repr

namespace Gap

/-- No gap. -/
def empty : Gap := ⟨[], false, [], []⟩

/-- What a gap stands for. -/
def text (g : Gap) : Text :=
  if g.broken then
    if g.first == ['\n'] then (if g.others.isEmpty then [' '] else g.others)
    else g.first ++ g.others
  else g.blanks

/-- Reads a gap.  In a plain scalar a tab must not stand before the column
where the text goes on. -/
def read (column : Nat) : (fuel : Nat) → Gap → Cursor → Option (Gap × Cursor)
  | 0, _, _ => none
  | fuel + 1, g, c =>
    match c.peek with
    | none => some (g, c)
    | some x =>
      if isBlank x then
        if g.broken then
          if x == '\t' && c.column < column then none else read column fuel g (c.skip 1)
        else read column fuel { g with blanks := g.blanks ++ [x] } (c.skip 1)
      else if isBreak x then
        if g.broken then read column fuel { g with others := g.others ++ c.breakText } c.skipBreak
        else read column fuel { g with broken := true, blanks := [], first := c.breakText } c.skipBreak
      else some (g, c)

end Gap

/-- A scalar that has been read. -/
structure ScalarRead where
  text : Text
  /-- The place after it. -/
  cursor : Cursor
  /-- Whether the place is on a new line. -/
  broken : Bool

/-- The characters that end a plain scalar in brackets. -/
def isFlowMark (c : Char) : Bool :=
  c == ',' || c == '[' || c == ']' || c == '\x7b' || c == '\x7d'

/-- The characters of a plain scalar up to a blank.  A colon ends it where a
blank follows; in brackets, no bracket, comma or question mark may stand right
after a colon. -/
def plainWord (flow : Bool) : Text → Option Text
  | [] => some []
  | c :: rest =>
    if isBlank c || isBreak c then some []
    else if flow && c == ':' && rest.head?.any (fun d => isFlowMark d || d == '?') then none
    else if c == ':' && isBlankOrEnd rest.head? then some []
    else if flow && isFlowMark c then some []
    else (plainWord flow rest).map (c :: ·)

/-- Reads a plain scalar whose text so far is given.  It ends at a comment, at
the mark of a document, and where the indentation falls below a column. -/
def plainFrom (flow : Bool) (column : Nat) :
    (fuel : Nat) → (text : Text) → (gap : Gap) → Cursor → Option ScalarRead
  | 0, _, _, _ => none
  | fuel + 1, text, gap, c =>
    if c.atDocumentMark || c.peek == some '#' then some ⟨text, c, gap.broken⟩
    else match plainWord flow c.rest with
      | none => none
      | some word =>
        let text := if word.isEmpty then text else text ++ gap.text ++ word
        let gap := if word.isEmpty then gap else .empty
        let c := c.skip word.length
        if c.peek.all fun x => !isBlank x && !isBreak x then some ⟨text, c, gap.broken⟩
        else match Gap.read column (c.rest.length + 1) gap c with
          | none => none
          | some (gap, c) =>
            if !flow && c.column < column then some ⟨text, c, gap.broken⟩
            else plainFrom flow column fuel text gap c

/-- Reads a plain scalar. -/
def readPlain (flow : Bool) (column : Nat) (c : Cursor) : Option ScalarRead :=
  plainFrom flow column (c.rest.length + 2) [] .empty c

/-- The value of a hexadecimal digit. -/
def hexValue? (c : Char) : Option Nat :=
  if c.isDigit then some (c.toNat - '0'.toNat)
  else if 'a' ≤ c ∧ c ≤ 'f' then some (c.toNat - 'a'.toNat + 10)
  else if 'A' ≤ c ∧ c ≤ 'F' then some (c.toNat - 'A'.toNat + 10)
  else none

/-- The number of some hexadecimal digits. -/
def hexNumber? (t : Text) : Option Nat :=
  t.foldlM (fun n c => (hexValue? c).map (16 * n + ·)) 0

/-- The character of an escape of one letter. -/
def simpleEscape? : Char → Option Char
  | '0' => some '\x00'
  | 'a' => some '\x07'
  | 'b' => some '\x08'
  | 't' => some '\t'
  | '\t' => some '\t'
  | 'n' => some '\n'
  | 'v' => some '\x0b'
  | 'f' => some '\x0c'
  | 'r' => some '\r'
  | 'e' => some '\x1b'
  | ' ' => some ' '
  | '"' => some '"'
  | '/' => some '/'
  | '\\' => some '\\'
  | 'N' => some '\u0085'
  | '_' => some '\u00A0'
  | 'L' => some '\u2028'
  | 'P' => some '\u2029'
  | _ => none

/-- How many digits the code of an escape has. -/
def codeLength : Char → Nat
  | 'x' => 2
  | 'u' => 4
  | 'U' => 8
  | _ => 0

/-- Reads what follows the backslash of an escape: the character, and how many
characters it took. -/
def readEscape? : Text → Option (Char × Nat)
  | [] => none
  | c :: rest =>
    let n := codeLength c
    if n == 0 then (simpleEscape? c).map fun e => (e, 1)
    else if (rest.take n).length < n then none
    else match hexNumber? (rest.take n) with
      | none => none
      | some code =>
        if (0xD800 ≤ code && code ≤ 0xDFFF) || 0x10FFFF < code then none
        else some (Char.ofNat code, n + 1)

/-- What ends a word in quotes. -/
inductive WordEnd where
  /-- The closing quote, or a blank. -/
  | plain
  /-- An escaped line break. -/
  | escapedBreak
  deriving DecidableEq, Repr

/-- Reads the characters of a quoted scalar up to a blank or the closing
quote: the text, the rest, and how it ended. -/
def quotedWord (single : Bool) :
    (fuel : Nat) → (text : Text) → Cursor → Option (Text × Cursor × WordEnd)
  | 0, _, _ => none
  | fuel + 1, text, c =>
    match c.rest with
    | [] => some (text, c, .plain)
    | x :: rest =>
      if isBlank x || isBreak x then some (text, c, .plain)
      else if single then
        if x == '\'' then
          if rest.head? == some '\'' then quotedWord single fuel (text ++ ['\'']) (c.skip 2)
          else some (text, c, .plain)
        else quotedWord single fuel (text ++ [x]) (c.skip 1)
      else if x == '"' then some (text, c, .plain)
      else if x == '\\' then
        if rest.head?.any isBreak then some (text, (c.skip 1).skipBreak, .escapedBreak)
        else match readEscape? rest with
          | none => none
          | some (e, n) => quotedWord single fuel (text ++ [e]) (c.skip (n + 1))
      else quotedWord single fuel (text ++ [x]) (c.skip 1)

/-- Reads a quoted scalar after its opening quote. -/
def quotedFrom (single : Bool) : (fuel : Nat) → (text : Text) → Cursor → Option ScalarRead
  | 0, _, _ => none
  | fuel + 1, text, c =>
    if c.atDocumentMark || c.rest.isEmpty then none
    else match quotedWord single (c.rest.length + 1) [] c with
      | none => none
      | some (word, c, ending) =>
        if ending == .plain && c.peek == some (if single then '\'' else '"') then
          some ⟨text ++ word, c.skip 1, false⟩
        else
          let gap : Gap := { Gap.empty with broken := ending == .escapedBreak }
          match Gap.read 0 (c.rest.length + 1) gap c with
          | none => none
          | some (gap, c) => quotedFrom single fuel (text ++ word ++ gap.text) c

/-- Reads a quoted scalar. -/
def readQuoted (single : Bool) (c : Cursor) : Option ScalarRead :=
  quotedFrom single (c.rest.length + 1) [] (c.skip 1)

/-- What happens to the line breaks at the end of a block scalar. -/
inductive Chomping where
  | strip
  | clip
  | keep
  deriving DecidableEq, Repr

/-- The chomping of a sign. -/
def chomping? : Option Char → Option Chomping
  | some '+' => some .keep
  | some '-' => some .strip
  | _ => none

/-- Reads an indentation of one digit: none if there is no digit.  A zero is
refused. -/
def blockIndent? (c : Cursor) : Option (Option Nat × Cursor) :=
  match c.peek with
  | some d =>
    if d.isDigit then
      if d == '0' then none else some (some (d.toNat - '0'.toNat), c.skip 1)
    else some (none, c)
  | none => some (none, c)

/-- Reads the header of a block scalar after its indicator: chomping and
indentation, in either order. -/
def blockHeader? (c : Cursor) : Option (Chomping × Option Nat × Cursor) :=
  match chomping? c.peek with
  | some chomping => (blockIndent? (c.skip 1)).map fun (indent, c) => (chomping, indent, c)
  | none => match blockIndent? c with
    | none => none
    | some (none, c) => some (.clip, none, c)
    | some (some n, c) => match chomping? c.peek with
      | some chomping => some (chomping, some n, c.skip 1)
      | none => some (.clip, some n, c)

/-- Reads the indentation and the empty lines before a line of a block scalar:
the line breaks, the greatest column, and the place.  A column of zero is one
that is not known yet. -/
def blockBreaks (column : Nat) :
    (fuel : Nat) → (breaks : Text) → (most : Nat) → Cursor → Option (Text × Nat × Cursor)
  | 0, _, _, _ => none
  | fuel + 1, breaks, most, c =>
    let spaces := (c.rest.takeWhile (· == ' ')).length
    let c := c.skip (if column == 0 then spaces else min spaces (column - c.column))
    let most := max most c.column
    if (column == 0 || c.column < column) && c.peek == some '\t' then none
    else if c.peek.any isBreak then
      blockBreaks column fuel (breaks ++ c.breakText) most c.skipBreak
    else some (breaks, most, c)

/-- What of a block scalar has been read. -/
structure Block where
  text : Text
  /-- The line break after the last line. -/
  first : Text
  /-- The line breaks of the empty lines after it. -/
  others : Text
  /-- Whether the last line starts with a blank. -/
  blank : Bool

/-- Joins what has been read with a line that follows. -/
def Block.join (literal : Bool) (b : Block) (blank : Bool) : Text :=
  if !literal && b.first == ['\n'] && !b.blank && !blank then
    b.text ++ (if b.others.isEmpty then [' '] else []) ++ b.others
  else b.text ++ b.first ++ b.others

/-- Reads the lines of a block scalar that stand at a column. -/
def blockLines (literal : Bool) (column : Nat) :
    (fuel : Nat) → Block → Cursor → Option (Block × Cursor)
  | 0, _, _ => none
  | fuel + 1, b, c =>
    if c.column != column || c.rest.isEmpty then some (b, c)
    else
      let blank := c.peek.any isBlank
      let line := c.rest.takeWhile fun x => !isBreak x
      let text := b.join literal blank ++ line
      let c := c.skip line.length
      let first := c.breakText
      match blockBreaks column (c.rest.length + 2) [] 0 c.skipBreak with
      | none => none
      | some (others, _, c) => blockLines literal column fuel ⟨text, first, others, blank⟩ c

/-- Reads a block scalar at its indicator, with the indentation of what it
stands in. -/
def readBlock (literal : Bool) (parent : Int) (c : Cursor) : Option ScalarRead := do
  let (chomping, indent, c) ← blockHeader? (c.skip 1)
  let c := c.skipWhile isBlank
  let c := if c.peek == some '#' then c.skipLine else c
  if !isBreakOrEnd c.peek then none
  let c := c.skipBreak
  let given := match indent with
    | none => 0
    | some n => (max parent 0).toNat + n
  let (breaks, most, c) ← blockBreaks given (c.rest.length + 2) [] 0 c
  let column := if given == 0 then max (max most (parent + 1).toNat) 1 else given
  let (b, c) ← blockLines literal column (c.rest.length + 2) ⟨[], [], breaks, false⟩ c
  let text := match chomping with
    | .strip => b.text
    | .clip => b.text ++ b.first
    | .keep => b.text ++ b.first ++ b.others
  some ⟨text, c, true⟩

end Yaml

end BuildEnv
