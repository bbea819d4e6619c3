import BuildEnv.Yaml.Tag

/-!
# Reading the tokens of YAML

The lexer turns indentation and keys into tokens.  A key is only known as one
by the colon that follows it, so each place where a key could start is kept
in mind (`SimpleKey`), and its token is put into the queue later.  There is
one such place for every level of brackets.

A token is *delivered* once it is certain that no key starts with it.  Where a
text is broken, the tokens before the fault are those that were delivered.
-/

namespace BuildEnv

namespace Yaml

/-- A place at which a key on one line could start. -/
structure SimpleKey where
  /-- Whether a key has to start here. -/
  required : Bool
  /-- The number of the token at the place. -/
  number : Nat
  index : Nat
  line : Nat
  column : Nat
  deriving DecidableEq, Repr

/-- What the lexer keeps in mind. -/
structure Lexer where
  cursor : Cursor
  /-- The tokens that have not been delivered. -/
  queue : List Token
  /-- How many tokens have been delivered. -/
  delivered : Nat
  /-- The place of a key in the innermost brackets. -/
  key : Option SimpleKey
  /-- The places around them, one for each level of brackets. -/
  outerKeys : List (Option SimpleKey)
  /-- Whether a key on one line can start here. -/
  keyAllowed : Bool
  /-- The column of the innermost block, `-1` outside of all. -/
  indent : Int
  /-- The columns of the blocks around it. -/
  outerIndents : List Int
  deriving Repr

namespace Lexer

/-- The lexer at the beginning of a text. -/
def start (t : Text) : Lexer :=
  ⟨.start t, [], 0, none, [], true, -1, []⟩

/-- Whether the place is in brackets. -/
def inFlow (l : Lexer) : Bool := !l.outerKeys.isEmpty

/-- Puts a token at the end of the queue. -/
def push (l : Lexer) (t : Token) : Lexer :=
  { l with queue := l.queue ++ [t] }

/-- The number of the token that comes next. -/
def nextNumber (l : Lexer) : Nat := l.delivered + l.queue.length

/-- Puts a token before the one of a number. -/
def insertAt (l : Lexer) (number : Nat) (t : Token) : Lexer :=
  let n := number - l.delivered
  { l with queue := l.queue.take n ++ t :: l.queue.drop n }

/-- The most characters that a key on one line has. -/
def maxKeyLength : Nat := 1024

/-- Whether a key from a place has become impossible: it would be too long or
go over the line. -/
def isStale (c : Cursor) (k : SimpleKey) : Bool :=
  k.line < c.line || k.index + maxKeyLength < c.index

/-- Forgets the place of a key that has become impossible, unless a key is
required there. -/
def dropStaleKey (c : Cursor) (key : Option SimpleKey) : Option (Option SimpleKey) :=
  match key with
  | none => some none
  | some k => if !isStale c k then some (some k) else if k.required then none else some none

/-- Forgets all places of keys that have become impossible. -/
def dropStaleKeys (l : Lexer) : Option Lexer := do
  let outerKeys ← l.outerKeys.mapM (dropStaleKey l.cursor)
  let key ← dropStaleKey l.cursor l.key
  some { l with key, outerKeys }

/-- Forgets the place of a key in the innermost brackets. -/
def dropKey (l : Lexer) : Option Lexer :=
  match l.key with
  | some k => if k.required then none else some { l with key := none }
  | none => some l

/-- Keeps the place in mind if a key can start here. -/
def saveKey (l : Lexer) : Option Lexer :=
  if !l.keyAllowed then some l
  else
    let c := l.cursor
    let required := !l.inFlow && l.indent == (c.column : Int)
    l.dropKey.map fun l =>
      { l with key := some ⟨required, l.nextNumber, c.index, c.line, c.column⟩ }

/-- Starts a block at a column, unless one has started there.  Its token goes
before the one of a number, or to the end. -/
def openBlock (l : Lexer) (column : Nat) (number : Option Nat) (t : Token) : Lexer :=
  if l.inFlow || l.indent ≥ (column : Int) then l
  else
    let l := { l with indent := column, outerIndents := l.indent :: l.outerIndents }
    match number with
    | none => l.push t
    | some n => l.insertAt n t

/-- Ends the blocks that stand further right than a column. -/
def closeIndents (column : Int) : (indent : Int) → (outer : List Int) → Int × List Int × Nat
  | indent, [] => (indent, [], 0)
  | indent, o :: outer =>
    if indent ≤ column then (indent, o :: outer, 0)
    else
      let (indent, outer, n) := closeIndents column o outer
      (indent, outer, n + 1)

/-- Ends the blocks that stand further right than a column. -/
def closeBlocks (l : Lexer) (column : Int) : Lexer :=
  if l.inFlow then l
  else
    let (indent, outerIndents, n) := closeIndents column l.indent l.outerIndents
    { l with indent, outerIndents, queue := l.queue ++ List.replicate n .blockEnd }

/-- Passes blanks, comments and line breaks.  In brackets no line break allows
a key, and elsewhere no tab stands before one. -/
def skipBlanks : (fuel : Nat) → Lexer → Lexer
  | 0, l => l
  | fuel + 1, l =>
    let c := l.cursor
    let c := if c.index == 0 && c.peek == some '\uFEFF' then c.skip 1 else c
    let tabs := l.inFlow || !l.keyAllowed
    let c := c.skipWhile fun x => x == ' ' || (tabs && x == '\t')
    let c := if c.peek == some '#' then c.skipLine else c
    if c.peek.any isBreak then
      skipBlanks fuel { l with cursor := c.skipBreak, keyAllowed := l.keyAllowed || !l.inFlow }
    else { l with cursor := c }

/-- Takes an indicator of `n` characters as a token. -/
def take (l : Lexer) (n : Nat) (t : Token) : Lexer :=
  { l.push t with cursor := l.cursor.skip n }

/-- Takes what a reader returns as a token, after which no key can start. -/
def takeRead (l : Lexer) (r : Token × Cursor) : Lexer :=
  { l.push r.1 with cursor := r.2, keyAllowed := false }

/-- Takes a scalar.  A key can start after it if it has passed a line
break. -/
def takeScalar (l : Lexer) (plain : Bool) (r : ScalarRead) : Lexer :=
  { l.push (.scalar r.text plain) with cursor := r.cursor, keyAllowed := r.broken }

/-- The place after the last line of a text. -/
def afterLastLine (c : Cursor) : Cursor :=
  if c.column == 0 then c else { c with line := c.line + 1, column := 0 }

/-- The end of the text, which also ends its last line. -/
def takeEnd (l : Lexer) : Option Lexer :=
  (l.closeBlocks (-1)).dropKey.map fun l =>
    { l.push .streamEnd with cursor := afterLastLine l.cursor, keyAllowed := false }

/-- A directive. -/
def takeDirective (l : Lexer) : Option Lexer := do
  let l ← (l.closeBlocks (-1)).dropKey
  let r ← readDirective? l.cursor
  some (l.takeRead r)

/-- The mark at which a document starts or ends. -/
def takeDocumentMark (l : Lexer) (t : Token) : Option Lexer :=
  (l.closeBlocks (-1)).dropKey.map fun l => { l.take 3 t with keyAllowed := false }

/-- An opening bracket. -/
def openFlow (l : Lexer) (t : Token) : Option Lexer :=
  l.saveKey.map fun l =>
    { l.take 1 t with key := none, outerKeys := l.key :: l.outerKeys, keyAllowed := true }

/-- A closing bracket. -/
def closeFlow (l : Lexer) (t : Token) : Option Lexer :=
  l.dropKey.map fun l =>
    let l := { l.take 1 t with keyAllowed := false }
    match l.outerKeys with
    | [] => l
    | key :: outerKeys => { l with key, outerKeys }

/-- A comma between items in brackets. -/
def takeFlowEntry (l : Lexer) : Option Lexer :=
  l.dropKey.map fun l => { l.take 1 .flowEntry with keyAllowed := true }

/-- The dash before an item of a block. -/
def takeBlockEntry (l : Lexer) : Option Lexer :=
  if !l.inFlow && !l.keyAllowed then none
  else (l.openBlock l.cursor.column none .blockSequenceStart).dropKey.map fun l =>
    { l.take 1 .blockEntry with keyAllowed := true }

/-- The question mark before a key. -/
def takeKey (l : Lexer) : Option Lexer :=
  if !l.inFlow && !l.keyAllowed then none
  else (l.openBlock l.cursor.column none .blockMappingStart).dropKey.map fun l =>
    { l.take 1 .key with keyAllowed := !l.inFlow }

/-- The colon before a value.  If a key could start at the place that is kept
in mind, it did. -/
def takeValue (l : Lexer) : Option Lexer :=
  match l.key with
  | some k =>
    let l := (l.insertAt k.number .key).openBlock k.column (some k.number) .blockMappingStart
    some { l.take 1 .value with key := none, keyAllowed := false }
  | none =>
    if !l.inFlow && !l.keyAllowed then none
    else
      let l := l.openBlock l.cursor.column none .blockMappingStart
      some { l.take 1 .value with keyAllowed := !l.inFlow }

/-- An alias. -/
def takeAlias (l : Lexer) : Option Lexer := do
  let l ← l.saveKey
  let (name, c) ← readAnchor? l.cursor
  some (l.takeRead (.alias name, c))

/-- An anchor. -/
def takeAnchor (l : Lexer) : Option Lexer := do
  let l ← l.saveKey
  let (name, c) ← readAnchor? l.cursor
  some (l.takeRead (.anchor name, c))

/-- A tag. -/
def takeTag (l : Lexer) : Option Lexer := do
  let l ← l.saveKey
  let r ← readTag? l.inFlow l.cursor
  some (l.takeRead r)

/-- A block scalar. -/
def takeBlock (l : Lexer) (literal : Bool) : Option Lexer := do
  let l ← l.dropKey
  let r ← readBlock literal l.indent l.cursor
  some (l.takeScalar false r)

/-- A scalar in quotes. -/
def takeQuoted (l : Lexer) (single : Bool) : Option Lexer := do
  let l ← l.saveKey
  let r ← readQuoted single l.cursor
  some (l.takeScalar false r)

/-- A plain scalar. -/
def takePlain (l : Lexer) : Option Lexer := do
  let l ← l.saveKey
  let r ← readPlain l.inFlow (l.indent + 1).toNat l.cursor
  some (l.takeScalar true r)

/-- The characters with which no plain scalar starts. -/
def indicators : List Char :=
  ['-', '?', ':', ',', '[', ']', '\x7b', '\x7d', '#', '&', '*', '!', '|', '>', '\'', '"', '%', '@',
    '\x60']

/-- Whether a plain scalar starts with a character before another one. -/
def startsPlain (flow : Bool) (c : Char) (next : Option Char) : Bool :=
  if c == '-' then !next.any isBlank
  else if c == '?' || c == ':' then !flow && !isBlankOrEnd next
  else !isBlank c && !isBreak c && !indicators.contains c

/-- Takes the token that starts with a character. -/
def takeToken (l : Lexer) (x : Char) : Option Lexer :=
  let c := l.cursor
  let next := c.peekAt 1
  let flow := l.inFlow
  if c.column == 0 && x == '%' then l.takeDirective
  else if c.atLineMark '-' then l.takeDocumentMark .documentStart
  else if c.atLineMark '.' then l.takeDocumentMark .documentEnd
  else if x == '[' then l.openFlow .flowSequenceStart
  else if x == '\x7b' then l.openFlow .flowMappingStart
  else if x == ']' then l.closeFlow .flowSequenceEnd
  else if x == '\x7d' then l.closeFlow .flowMappingEnd
  else if x == ',' then l.takeFlowEntry
  else if x == '-' && isBlankOrEnd next then l.takeBlockEntry
  else if x == '?' && (flow || isBlankOrEnd next) then l.takeKey
  else if x == ':' && (flow || isBlankOrEnd next) then l.takeValue
  else if x == '*' then l.takeAlias
  else if x == '&' then l.takeAnchor
  else if x == '!' then l.takeTag
  else if x == '|' && !flow then l.takeBlock true
  else if x == '>' && !flow then l.takeBlock false
  else if x == '\'' then l.takeQuoted true
  else if x == '"' then l.takeQuoted false
  else if startsPlain flow x next then l.takePlain
  else none

/-- Reads the next token. -/
def advance (l : Lexer) : Option Lexer := do
  let l := l.skipBlanks (l.cursor.rest.length + 1)
  let l ← l.dropStaleKeys
  let l := l.closeBlocks l.cursor.column
  match l.cursor.peek with
  | none => l.takeEnd
  | some c => l.takeToken c

/-- Whether a key could start with the token that comes first. -/
def isUncertain (l : Lexer) : Bool :=
  (l.key :: l.outerKeys).any fun k => k.any fun k => k.number == l.delivered

/-- Delivers the tokens to the end of the text or up to a fault.  The tokens
so far are given in reverse. -/
def deliver : (fuel : Nat) → (tokens : List Token) → Lexer → List Token × Bool
  | 0, tokens, _ => (tokens.reverse, false)
  | fuel + 1, tokens, l =>
    match l.queue with
    | [] => match l.advance with
      | none => (tokens.reverse, false)
      | some l => deliver fuel tokens l
    | t :: queue => match l.dropStaleKeys with
      | none => (tokens.reverse, false)
      | some l =>
        if l.isUncertain then match l.advance with
          | none => (tokens.reverse, false)
          | some l => deliver fuel tokens l
        else if t == .streamEnd then ((t :: tokens).reverse, true)
        else deliver fuel (t :: tokens) { l with queue, delivered := l.delivered + 1 }

end Lexer

/-- The tokens of a text up to a fault, and whether there is none. -/
def Token.ofText (t : Text) : List Token × Bool :=
  if t.all isAllowed then (Lexer.start t).deliver (8 * t.length + 16) [] else ([], false)

end Yaml

end BuildEnv
