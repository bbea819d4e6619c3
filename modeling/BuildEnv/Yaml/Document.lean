import BuildEnv.Yaml.Event

/-!
# Documents of YAML

The first document of a text, as a list of items in which aliases are places
of the same list.

An anchor is numbered by how many different anchors stand before it, and an
alias means the last node that has the number of its anchor.
-/

namespace BuildEnv

namespace Yaml

/-- A part of a document. -/
inductive Item where
  /-- The node whose anchor has a number. -/
  | alias (number : Nat)
  | scalar (tag : Option Text) (text : Text) (plain : Bool)
  | sequenceStart
  | sequenceEnd
  | mappingStart
  | mappingEnd
  deriving DecidableEq, Repr

/-- A document. -/
structure Document where
  items : List Item
  /-- The places of the nodes with an anchor, by its number, the last one
  first. -/
  anchored : List (Nat × Nat)
  /-- Whether the document is well formed to its end. -/
  sound : Bool
  deriving DecidableEq, Repr

namespace Document

/-- The anchors before a place. -/
structure Anchors where
  /-- The numbers of the names, the last ones first. -/
  numbers : List (Text × Nat)
  /-- The places of the nodes, by number, the last ones first. -/
  places : List (Nat × Nat)

/-- Adds the anchor of the node at a place. -/
def Anchors.add (a : Anchors) (name : Option Text) (place : Nat) : Anchors :=
  match name with
  | none => a
  | some name =>
    let number := (a.numbers.map (·.1)).eraseDups.length
    ⟨(name, number) :: a.numbers, (number, place) :: a.places⟩

/-- The item of an event and the anchor it has.  An alias without a node is
none. -/
def item? (a : Anchors) : Event → Option (Item × Option Text)
  | .alias name => (a.numbers.find? (·.1 == name)).map fun n => (.alias n.2, none)
  | .scalar p text plain => some (.scalar p.tag text plain, p.anchor)
  | .sequenceStart p => some (.sequenceStart, p.anchor)
  | .mappingStart p => some (.mappingStart, p.anchor)
  | .sequenceEnd => some (.sequenceEnd, none)
  | .mappingEnd => some (.mappingEnd, none)
  | _ => none

/-- The items of some events, up to an alias without a node.  The items so far
are given in reverse. -/
def collect (sound : Bool) : (items : List Item) → Anchors → List Event → Document
  | items, a, [] => ⟨items.reverse, a.places, sound⟩
  | items, a, e :: events =>
    match item? a e with
    | none => ⟨items.reverse, a.places, false⟩
    | some (i, name) => collect sound (i :: items) (a.add name items.length) events

/-- The only document of a text.  It is not sound if another one follows. -/
def ofText (t : Text) : Document :=
  let (events, complete) := Event.ofText t
  match events with
  | .documentStart :: events =>
    let content := events.takeWhile (· != .documentEnd)
    let sound := complete && events.length == content.length + 1
    collect sound [] ⟨[], []⟩ content
  | _ => ⟨[], [], false⟩

/-- The items from the node of an anchor on. -/
def target (d : Document) (number : Nat) : List Item :=
  match d.anchored.find? (·.1 == number) with
  | none => []
  | some (_, place) => d.items.drop place

end Document

end Yaml

end BuildEnv
