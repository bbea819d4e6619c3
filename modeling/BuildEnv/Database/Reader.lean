import BuildEnv.Charset.Utf8
import BuildEnv.Database.Entry
import BuildEnv.Json.Reader

/-!
# Reading compilation databases

A compilation database is a JSON array in UTF-8.  An element that is no entry
is left out; a file that is no array has no entries to speak of.
-/

namespace BuildEnv

namespace Database

/-- The entries of a value, if it is an array. -/
def ofJson? : Json → Option (List Entry)
  | .array items => some (items.filterMap Entry.ofJson?)
  | _ => none

/-- The entries of a text. -/
def ofText? (t : Text) : Option (List Entry) :=
  (Json.ofText? t).bind ofJson?

/-- The entries of a file. -/
def ofBytes? (bytes : Bytes) : Option (List Entry) :=
  (Utf8.strict? bytes).bind ofText?

/-- The records that some entries give, in order.  An entry with a fault gives
none. -/
def records (entries : List Entry) : List UnitRecord :=
  entries.filterMap fun e => e.unit.toOption

end Database

end BuildEnv
