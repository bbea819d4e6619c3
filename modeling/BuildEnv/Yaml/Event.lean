import BuildEnv.Yaml.Lexer

/-!
# Events of YAML

The structure of a YAML text as a flat list: what starts and ends, and the
scalars and aliases between.  The reader is an automaton with a stack: each
state says what is expected next, and the stack what to return to once a node
is complete.  One step reads as many tokens as one event takes.
-/

namespace BuildEnv

namespace Yaml

/-- What belongs to a node beside its content. -/
structure NodeProperties where
  anchor : Option Text
  /-- The tag in full. -/
  tag : Option Text
  deriving DecidableEq, Repr

/-- An event of YAML. -/
inductive Event where
  | documentStart
  | documentEnd
  | alias (name : Text)
  /-- A scalar, and whether it is neither quoted nor a block. -/
  | scalar (properties : NodeProperties) (text : Text) (plain : Bool)
  | sequenceStart (properties : NodeProperties)
  | sequenceEnd
  | mappingStart (properties : NodeProperties)
  | mappingEnd
  deriving DecidableEq, Repr

/-- What is expected next. -/
inductive Expected where
  /-- The first document, which needs no mark. -/
  | firstDocument
  /-- Another document. -/
  | document
  /-- The content of a document after its mark. -/
  | documentContent
  | documentEnd
  | blockNode
  | blockSequenceFirst
  | blockSequenceEntry
  | indentlessEntry
  | blockMappingFirst
  | blockMappingKey
  | blockMappingValue
  | flowSequenceFirst
  | flowSequenceEntry
  /-- The key of a pair that stands in a sequence. -/
  | flowPairKey
  | flowPairValue
  | flowPairEnd
  | flowMappingFirst
  | flowMappingKey
  | flowMappingValue
  /-- A key without a value. -/
  | flowMappingEmptyValue
  /-- Nothing. -/
  | finished
  deriving DecidableEq, Repr

/-- The state of the reading of events. -/
structure EventReader where
  tokens : List Token
  expected : Expected
  /-- What follows when the node is complete. -/
  stack : List Expected
  /-- What handles of tags stand for. -/
  handles : List (Text × Text)
  deriving Repr

namespace EventReader

/-- What a step returns: an event, or nothing at the end. -/
abbrev Step := Option (Option Event × EventReader)

/-- Moves on to another state. -/
def expect (r : EventReader) (e : Expected) : EventReader :=
  { r with expected := e }

/-- Returns to what the stack says. -/
def resume (r : EventReader) : EventReader :=
  match r.stack with
  | [] => r.expect .finished
  | e :: stack => { r with expected := e, stack }

/-- Takes what the stack says for later. -/
def later (r : EventReader) (e : Expected) : EventReader :=
  { r with stack := e :: r.stack }

/-- Passes the next token. -/
def skip (r : EventReader) : EventReader :=
  { r with tokens := r.tokens.drop 1 }

/-- An event and the state after it. -/
def emit (r : EventReader) (e : Event) : Step :=
  some (some e, r)

/-- The scalar that stands for a node without content. -/
def emptyScalar : Event := .scalar ⟨none, none⟩ [] true

/-- A node without content, and the state after it. -/
def emitEmpty (r : EventReader) (e : Expected) : Step :=
  (r.expect e).emit emptyScalar

/-- What handles stand for without a directive. -/
def defaultHandles : List (Text × Text) :=
  [(['!'], ['!']), (['!', '!'], "tag:yaml.org,2002:".toList)]

/-- Reads the directives before a document: whether there was one on the
version, what the handles stand for, and the tokens after them.  None is given
twice, and the version is one that is known. -/
def directives? : (versioned : Bool) → (handles : List (Text × Text)) → List Token →
    Option (List (Text × Text) × List Token)
  | versioned, handles, .version major minor :: tokens =>
    if versioned || major != 1 || (minor != 1 && minor != 2) then none
    else directives? true handles tokens
  | versioned, handles, .tagDirective handle lead :: tokens =>
    if handles.any (·.1 == handle) then none
    else directives? versioned (handles ++ [(handle, lead)]) tokens
  | _, handles, tokens => some (handles, tokens)

/-- The tag in full. -/
def resolveTag? (handles : List (Text × Text)) (handle rest : Text) : Option Text :=
  if handle.isEmpty then some rest
  else (handles.find? (·.1 == handle)).map fun h => h.2 ++ rest

/-- Reads the anchor and the tag of a node, in either order. -/
def properties? (r : EventReader) : Option (NodeProperties × EventReader) :=
  match r.tokens with
  | .anchor name :: .tag handle rest :: tokens | .tag handle rest :: .anchor name :: tokens =>
    (resolveTag? r.handles handle rest).map fun tag => (⟨some name, some tag⟩, { r with tokens })
  | .anchor name :: tokens => some (⟨some name, none⟩, { r with tokens })
  | .tag handle rest :: tokens =>
    (resolveTag? r.handles handle rest).map fun tag => (⟨none, some tag⟩, { r with tokens })
  | _ => some (⟨none, none⟩, r)

/-- The properties of a scalar.  The tag that is a mark alone says nothing. -/
def scalarProperties (p : NodeProperties) : NodeProperties :=
  if p.tag == some ['!'] then { p with tag := none } else p

/-- Reads a node.  Blocks do not stand in brackets; a sequence of a mapping's
value may stand at the mapping's column. -/
def node (block indentless : Bool) (r : EventReader) : Step :=
  match r.tokens with
  | .alias name :: _ => r.resume.skip.emit (.alias name)
  | _ => match r.properties? with
    | none => none
    | some (p, r) =>
      match r.tokens with
      | [] => none
      | .scalar text plain :: _ => r.resume.skip.emit (.scalar (scalarProperties p) text plain)
      | .flowSequenceStart :: _ => (r.expect .flowSequenceFirst).emit (.sequenceStart p)
      | .flowMappingStart :: _ => (r.expect .flowMappingFirst).emit (.mappingStart p)
      | t :: _ =>
        if indentless && t == .blockEntry then (r.expect .indentlessEntry).emit (.sequenceStart p)
        else if block && t == .blockSequenceStart then
          (r.expect .blockSequenceFirst).emit (.sequenceStart p)
        else if block && t == .blockMappingStart then
          (r.expect .blockMappingFirst).emit (.mappingStart p)
        else if p.anchor.isSome || p.tag.isSome then r.resume.emit (.scalar p [] true)
        else none

/-- Reads a node unless one of some tokens comes next, in which case it is
empty. -/
def nodeUnless (stops : List Token) (node : EventReader → Step) (e : Expected) (r : EventReader) :
    Step :=
  match r.tokens with
  | [] => none
  | t :: _ => if stops.contains t then r.emitEmpty e else node (r.later e)

/-- Reads the beginning of a document, or the end of the text. -/
def documentStart (first : Bool) (r : EventReader) : Step :=
  let r := if first then r else { r with tokens := r.tokens.dropWhile (· == .documentEnd) }
  match r.tokens with
  | [] => none
  | .streamEnd :: _ => some (none, r.expect .finished)
  | t :: _ =>
    match directives? false [] r.tokens with
    | none => none
    | some (handles, tokens) =>
      let r := { r with
        handles := handles ++ defaultHandles
        tokens }
      let isDirective := match t with
        | .version _ _ | .tagDirective _ _ => true
        | _ => false
      if first && !isDirective && t != .documentStart then
        ((r.expect .blockNode).later .documentEnd).emit .documentStart
      else match tokens with
        | .documentStart :: _ =>
          ((r.expect .documentContent).later .documentEnd).skip.emit .documentStart
        | _ => none

/-- Reads the content of a document after its mark. -/
def documentContent (r : EventReader) : Step :=
  match r.tokens with
  | [] => none
  | .version _ _ :: _ | .tagDirective _ _ :: _ | .documentStart :: _ | .documentEnd :: _
  | .streamEnd :: _ => r.resume.emit emptyScalar
  | _ => r.node true false

/-- Reads the end of a document. -/
def documentEnd (r : EventReader) : Step :=
  match r.tokens with
  | [] => none
  | t :: _ => ((if t == .documentEnd then r.skip else r).expect .document).emit .documentEnd

/-- Reads an item of a block sequence, or its end. -/
def blockSequenceEntry (r : EventReader) : Step :=
  match r.tokens with
  | .blockEntry :: _ =>
    r.skip.nodeUnless [.blockEntry, .blockEnd] (node true false) .blockSequenceEntry
  | .blockEnd :: _ => r.resume.skip.emit .sequenceEnd
  | _ => none

/-- Reads an item of a sequence at the column of a mapping, or its end. -/
def indentlessEntry (r : EventReader) : Step :=
  match r.tokens with
  | [] => none
  | .blockEntry :: _ =>
    r.skip.nodeUnless [.blockEntry, .key, .value, .blockEnd] (node true false) .indentlessEntry
  | _ => r.resume.emit .sequenceEnd

/-- Reads a key of a block mapping, or its end. -/
def blockMappingKey (r : EventReader) : Step :=
  match r.tokens with
  | .key :: _ => r.skip.nodeUnless [.key, .value, .blockEnd] (node true true) .blockMappingValue
  | .blockEnd :: _ => r.resume.skip.emit .mappingEnd
  | _ => none

/-- Reads a value of a block mapping. -/
def blockMappingValue (r : EventReader) : Step :=
  match r.tokens with
  | [] => none
  | .value :: _ => r.skip.nodeUnless [.key, .value, .blockEnd] (node true true) .blockMappingKey
  | _ => r.emitEmpty .blockMappingKey

/-- Passes the comma before an item in brackets that is not the first. -/
def skipComma (first : Bool) (r : EventReader) : Option EventReader :=
  if first then some r
  else match r.tokens with
    | .flowEntry :: _ => some r.skip
    | _ => none

/-- Reads an item of a sequence in brackets, or its end. -/
def flowSequenceEntry (first : Bool) (r : EventReader) : Step :=
  match r.tokens with
  | .flowSequenceEnd :: _ => r.resume.skip.emit .sequenceEnd
  | _ => match r.skipComma first with
    | none => none
    | some r =>
      match r.tokens with
      | [] => none
      | .key :: _ => (r.expect .flowPairKey).skip.emit (.mappingStart ⟨none, none⟩)
      | .flowSequenceEnd :: _ => r.resume.skip.emit .sequenceEnd
      | _ => (r.later .flowSequenceEntry).node false false

/-- Reads the key of a pair in a sequence.  What stands in place of a missing
key is passed. -/
def flowPairKey (r : EventReader) : Step :=
  match r.tokens with
  | [] => none
  | t :: _ =>
    if [.value, .flowEntry, .flowSequenceEnd].contains t then r.skip.emitEmpty .flowPairValue
    else (r.later .flowPairValue).node false false

/-- Reads the value of a pair in a sequence. -/
def flowPairValue (r : EventReader) : Step :=
  match r.tokens with
  | [] => none
  | .value :: _ =>
    r.skip.nodeUnless [.flowEntry, .flowSequenceEnd] (node false false) .flowPairEnd
  | _ => r.emitEmpty .flowPairEnd

/-- Reads a key of a mapping in brackets, or its end. -/
def flowMappingKey (first : Bool) (r : EventReader) : Step :=
  match r.tokens with
  | .flowMappingEnd :: _ => r.resume.skip.emit .mappingEnd
  | _ => match r.skipComma first with
    | none => none
    | some r =>
      match r.tokens with
      | [] => none
      | .key :: _ =>
        r.skip.nodeUnless [.value, .flowEntry, .flowMappingEnd] (node false false) .flowMappingValue
      | .flowMappingEnd :: _ => r.resume.skip.emit .mappingEnd
      | _ => (r.later .flowMappingEmptyValue).node false false

/-- Reads a value of a mapping in brackets. -/
def flowMappingValue (r : EventReader) : Step :=
  match r.tokens with
  | [] => none
  | .value :: _ =>
    r.skip.nodeUnless [.flowEntry, .flowMappingEnd] (node false false) .flowMappingKey
  | _ => r.emitEmpty .flowMappingKey

/-- Reads the next event. -/
def step (r : EventReader) : Step :=
  match r.expected with
  | .firstDocument => r.documentStart true
  | .document => r.documentStart false
  | .documentContent => r.documentContent
  | .documentEnd => r.documentEnd
  | .blockNode => r.node true false
  | .blockSequenceFirst => r.skip.blockSequenceEntry
  | .blockSequenceEntry => r.blockSequenceEntry
  | .indentlessEntry => r.indentlessEntry
  | .blockMappingFirst => r.skip.blockMappingKey
  | .blockMappingKey => r.blockMappingKey
  | .blockMappingValue => r.blockMappingValue
  | .flowSequenceFirst => r.skip.flowSequenceEntry true
  | .flowSequenceEntry => r.flowSequenceEntry false
  | .flowPairKey => r.flowPairKey
  | .flowPairValue => r.flowPairValue
  | .flowPairEnd => (r.expect .flowSequenceEntry).emit .mappingEnd
  | .flowMappingFirst => r.skip.flowMappingKey true
  | .flowMappingKey => r.flowMappingKey false
  | .flowMappingValue => r.flowMappingValue
  | .flowMappingEmptyValue =>
    if r.tokens.isEmpty then none else r.emitEmpty .flowMappingKey
  | .finished => some (none, r)

/-- Reads events to the end or up to a fault, and tells whether there is
none.  The events so far are given in reverse. -/
def run : (fuel : Nat) → (events : List Event) → EventReader → List Event × Bool
  | 0, events, _ => (events.reverse, false)
  | fuel + 1, events, r =>
    match r.step with
    | none => (events.reverse, false)
    | some (none, _) => (events.reverse, true)
    | some (some e, r) => run fuel (e :: events) r

end EventReader

/-- The events of a text up to a fault, and whether there is none. -/
def Event.ofText (t : Text) : List Event × Bool :=
  let tokens := (Token.ofText t).1
  (EventReader.mk tokens .firstDocument [] []).run (4 * tokens.length + 8) []

end Yaml

end BuildEnv
