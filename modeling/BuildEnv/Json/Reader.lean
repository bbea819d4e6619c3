import BuildEnv.Json.Token
import BuildEnv.Json.Value

/-!
# Reading JSON

Tokens are read by a machine with a stack: `Reader.step` takes one token.  The
stack holds the arrays and objects that are open; at most `maxDepth` can be
open at a time.
-/

namespace BuildEnv

namespace Json

/-- An array or object that is not closed yet. -/
inductive Frame where
  /-- The items, last first. -/
  | array (items : List Json)
  /-- The fields, last first, and the key of the value in progress. -/
  | object (fields : List (Text × Json)) (key : Text)

/-- What may follow. -/
inductive Place where
  /-- A value. -/
  | value
  /-- The first item of an array, or its end. -/
  | firstItem
  /-- The first key of an object, or its end. -/
  | firstKey
  /-- A key. -/
  | key
  /-- The colon after a key. -/
  | colon
  /-- A comma, or the end of the innermost array or object. -/
  | afterValue
  /-- Nothing, since a value is complete. -/
  | complete (v : Json)

/-- The reader between two tokens. -/
structure Reader where
  /-- What is open, innermost first. -/
  frames : List Frame
  place : Place

/-- How many arrays and objects can be open at a time. -/
def maxDepth : Nat := 127

namespace Reader

/-- Before the first token. -/
def start : Reader := ⟨[], .value⟩

/-- A value that is complete goes into the innermost open array or object. -/
def deliver (frames : List Frame) (v : Json) : Reader :=
  match frames with
  | [] => ⟨[], .complete v⟩
  | .array items :: outer => ⟨.array (v :: items) :: outer, .afterValue⟩
  | .object fields key :: outer => ⟨.object ((key, v) :: fields) [] :: outer, .afterValue⟩

/-- Opens an array or object. -/
def enter (frames : List Frame) (frame : Frame) (place : Place) : Option Reader :=
  if frames.length < maxDepth then some ⟨frame :: frames, place⟩ else none

/-- Closes the innermost array. -/
def closeArray : List Frame → Option Reader
  | .array items :: outer => some (deliver outer (.array items.reverse))
  | _ => none

/-- Closes the innermost object. -/
def closeObject : List Frame → Option Reader
  | .object fields _ :: outer => some (deliver outer (.object fields.reverse))
  | _ => none

/-- A token where a value has to stand. -/
def stepValue (frames : List Frame) : Token → Option Reader
  | .openArray => enter frames (.array []) .firstItem
  | .openObject => enter frames (.object [] []) .firstKey
  | .null => some (deliver frames .null)
  | .bool b => some (deliver frames (.bool b))
  | .number n => some (deliver frames (.number n))
  | .string t => some (deliver frames (.string t))
  | _ => none

/-- A token where a key has to stand. -/
def stepKey (frames : List Frame) (token : Token) : Option Reader :=
  match token, frames with
  | .string key, .object fields _ :: outer => some ⟨.object fields key :: outer, .colon⟩
  | _, _ => none

/-- A token after a value. -/
def stepAfter (frames : List Frame) (token : Token) : Option Reader :=
  match token, frames with
  | .comma, .array _ :: _ => some ⟨frames, .value⟩
  | .comma, .object _ _ :: _ => some ⟨frames, .key⟩
  | .closeArray, _ => closeArray frames
  | .closeObject, _ => closeObject frames
  | _, _ => none

/-- One token. -/
def step (r : Reader) (token : Token) : Option Reader :=
  match r.place with
  | .value => stepValue r.frames token
  | .firstItem => if token = .closeArray then closeArray r.frames else stepValue r.frames token
  | .firstKey => if token = .closeObject then closeObject r.frames else stepKey r.frames token
  | .key => stepKey r.frames token
  | .colon => if token = .colon then some ⟨r.frames, .value⟩ else none
  | .afterValue => stepAfter r.frames token
  | .complete _ => none

/-- The value at the end of the tokens. -/
def finish? (r : Reader) : Option Json :=
  match r.place with
  | .complete v => some v
  | _ => none

end Reader

/-- The value that some tokens are. -/
def ofTokens? (tokens : List Token) : Option Json :=
  (tokens.foldlM Reader.step .start).bind Reader.finish?

/-- The value that a text is. -/
def ofText? (t : Text) : Option Json :=
  (tokens? t).bind ofTokens?

end Json

end BuildEnv
