import BuildEnv.Charset.Utf8
import BuildEnv.Yaml.Scalar
import BuildEnv.Yaml.Token

/-!
# Names, tags and directives

The parts of YAML that are written with names: anchors and aliases, tags with
their escapes, and the two directives.  Every reader starts at the indicator
and returns the token with the place after it.
-/

namespace BuildEnv

namespace Yaml

/-- The characters of a name. -/
def isNameChar (c : Char) : Bool :=
  c.isAlphanum || c == '_' || c == '-'

/-- The characters that may follow the name of an anchor. -/
def endsAnchor (c : Option Char) : Bool :=
  isBlankOrEnd c || c.any fun c =>
    c == '?' || c == ':' || c == ',' || c == ']' || c == '\x7d' || c == '%' || c == '@' || c == '\x60'

/-- Reads the name of an anchor or an alias. -/
def readAnchor? (c : Cursor) : Option (Text × Cursor) :=
  let c := c.skip 1
  let name := c.rest.takeWhile isNameChar
  let c := c.skip name.length
  if name.isEmpty || !endsAnchor c.peek then none else some (name, c)

/-- The characters of a tag.  Some of the brackets are allowed where the tag
is in angle brackets. -/
def isTagChar (bracketed : Bool) (c : Char) : Bool :=
  isNameChar c || [';', '/', '?', ':', '@', '&', '=', '+', '$', '.', '!', '~', '*', '\'', '(', ')',
    '%'].contains c || (bracketed && [',', '[', ']'].contains c)

/-- How many bytes a character has whose first byte is given. -/
def sequenceLength? (b : Nat) : Option Nat :=
  if b < 0x80 then some 1
  else if 0xC0 ≤ b && b < 0xE0 then some 2
  else if 0xE0 ≤ b && b < 0xF0 then some 3
  else if 0xF0 ≤ b && b < 0xF8 then some 4
  else none

/-- Reads escapes of a byte each. -/
def escapedBytes? : (n : Nat) → Text → Option (List Nat)
  | 0, _ => some []
  | n + 1, '%' :: a :: b :: rest => do
    let code ← hexNumber? [a, b]
    let codes ← escapedBytes? n rest
    some (code :: codes)
  | _ + 1, _ => none

/-- Reads the escapes of one character, and tells how many there are. -/
def escapedChar? (t : Text) : Option (Text × Nat) := do
  let first ← escapedBytes? 1 t
  let n ← first.head?.bind sequenceLength?
  let bytes ← escapedBytes? n t
  if (bytes.drop 1).all fun b => 0x80 ≤ b && b < 0xC0 then
    some ((Utf8.decode (bytes.map UInt8.ofNat)).map (·.getD '\uFFFD'), n)
  else none

/-- Reads the characters of a tag. -/
def tagChars? (bracketed : Bool) : (fuel : Nat) → (text : Text) → Cursor → Option (Text × Cursor)
  | 0, _, _ => none
  | fuel + 1, text, c =>
    match c.peek with
    | none => some (text, c)
    | some x =>
      if !isTagChar bracketed x then some (text, c)
      else if x == '%' then match escapedChar? c.rest with
        | none => none
        | some (e, n) => tagChars? bracketed fuel (text ++ e) (c.skip (3 * n))
      else tagChars? bracketed fuel (text ++ [x]) (c.skip 1)

/-- Reads the characters of a tag, of which there is at least one. -/
def readTagChars? (bracketed : Bool) (c : Cursor) : Option (Text × Cursor) :=
  (tagChars? bracketed (c.rest.length + 1) [] c).filter fun r => r.2.index != c.index

/-- Reads a handle: an exclamation mark, a name and perhaps another mark. -/
def readHandle? (c : Cursor) : Option (Text × Cursor) :=
  match c.rest with
  | '!' :: rest =>
    let name := rest.takeWhile isNameChar
    let c := c.skip (name.length + 1)
    if c.peek == some '!' then some ('!' :: name ++ ['!'], c.skip 1) else some ('!' :: name, c)
  | _ => none

/-- Whether a handle has its second mark. -/
def isClosedHandle (handle : Text) : Bool :=
  handle.length > 1 && handle.getLast? == some '!'

/-- Reads a tag up to the character that ends it. -/
def readTagBody? (c : Cursor) : Option (Token × Cursor) :=
  if c.peekAt 1 == some '<' then do
    let (rest, c) ← readTagChars? true (c.skip 2)
    if c.peek == some '>' then some (.tag [] rest, c.skip 1) else none
  else do
    let (handle, c) ← readHandle? c
    if isClosedHandle handle then
      let (rest, c) ← readTagChars? false c
      some (.tag handle rest, c)
    else
      let (rest, c) ← tagChars? false (c.rest.length + 1) (handle.drop 1) c
      some (if rest.isEmpty then .tag [] ['!'] else .tag ['!'] rest, c)

/-- Reads a tag.  A blank follows it, or a comma in brackets. -/
def readTag? (flow : Bool) (c : Cursor) : Option (Token × Cursor) := do
  let (tag, c) ← readTagBody? c
  if isBlankOrEnd c.peek || (flow && c.peek == some ',') then some (tag, c) else none

/-- The most digits that a number of a version has. -/
def maxVersionDigits : Nat := 9

/-- Reads a number of a version. -/
def readVersionNumber? (c : Cursor) : Option (Nat × Cursor) :=
  let digits := c.rest.takeWhile Char.isDigit
  if digits.isEmpty || digits.length > maxVersionDigits then none
  else some (Text.digitsValue digits, c.skip digits.length)

/-- Reads the value of a version directive. -/
def readVersion? (c : Cursor) : Option (Token × Cursor) := do
  let (major, c) ← readVersionNumber? c
  if c.peek != some '.' then none
  let (minor, c) ← readVersionNumber? (c.skip 1)
  some (.version major minor, c)

/-- Reads the value of a directive on tags. -/
def readTagDirective? (c : Cursor) : Option (Token × Cursor) := do
  let (handle, c) ← readHandle? c
  if handle.getLast? != some '!' || !c.peek.any isBlank then none
  let (lead, c) ← readTagChars? true (c.skipWhile isBlank)
  if isBlankOrEnd c.peek then some (.tagDirective handle lead, c) else none

/-- Reads a directive to the end of its line. -/
def readDirective? (c : Cursor) : Option (Token × Cursor) := do
  let c := c.skip 1
  let name := c.rest.takeWhile isNameChar
  let c := c.skip name.length
  if !isBlankOrEnd c.peek then none
  let c := c.skipWhile isBlank
  let (token, c) ←
    if name == "YAML".toList then readVersion? c
    else if name == "TAG".toList then readTagDirective? c
    else none
  let c := c.skipWhile isBlank
  let c := if c.peek == some '#' then c.skipLine else c
  if isBreakOrEnd c.peek then some (token, c.skipBreak) else none

end Yaml

end BuildEnv
