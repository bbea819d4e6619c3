import BuildEnv.Config.Validation
import BuildEnv.Yaml.Document

/-!
# Reading configurations

A configuration file is a mapping in YAML.  Every scalar can be a text, in the
way it is written.  Keys that are not known are passed over with their values,
and no key comes twice.  Of several faults the first one in the order of the
file counts.
-/

namespace BuildEnv

namespace Config

/-- Why a file is no configuration. -/
inductive ReadError where
  /-- The file is no YAML, or has not the right form. -/
  | malformed
  /-- The version of the format is another one. -/
  | unsupportedSchema (schema : Text)
  deriving DecidableEq, Repr

/-- The wording of the error, where there is one. -/
def ReadError.message? : ReadError → Option Text
  | malformed => none
  | unsupportedSchema schema =>
    some ("Unsupported schema version: ".toList ++ schema ++ ". Expected: ".toList
      ++ supportedSchema)

/-- A reader of the items of a document, from first to last. -/
abbrev ItemReader := StateT (List Yaml.Item) (Except ReadError)

/-- Reads a text. -/
def readText (d : Yaml.Document) : ItemReader Text
  | .scalar _ text _ :: rest => .ok (text, rest)
  | .alias n :: rest =>
    match d.target n with
    | .scalar _ text _ :: _ => .ok (text, rest)
    | _ => .error .malformed
  | _ => .error .malformed

/-- The words for a missing value. -/
def nullWords : List Text :=
  ["null".toList, "Null".toList, "NULL".toList, ['~']]

/-- The tag of a missing value. -/
def nullTag : Text := "tag:yaml.org,2002:null".toList

/-- A text that may be missing, by the way in which its scalar is written. -/
def optionalText (tag : Option Text) (text : Text) (plain : Bool) :
    Except ReadError (Option Text) :=
  if !plain then .ok (some text)
  else match tag with
    | none => .ok (if text.isEmpty || nullWords.contains text then none else some text)
    | some tag =>
      if tag != nullTag then .ok (some text)
      else if nullWords.contains text then .ok none
      else .error .malformed

/-- Reads a text that may be missing. -/
def readOptional (d : Yaml.Document) : ItemReader (Option Text)
  | .scalar tag text plain :: rest => (optionalText tag text plain).map (·, rest)
  | .alias n :: rest =>
    match d.target n with
    | .scalar tag text plain :: _ => (optionalText tag text plain).map (·, rest)
    | _ => .error .malformed
  | _ => .error .malformed

/-- The texts up to the end of their sequence, and the items after it. -/
def itemTexts (d : Yaml.Document) : List Yaml.Item → Except ReadError (List Text × List Yaml.Item)
  | .sequenceEnd :: rest => .ok ([], rest)
  | item :: rest => do
    let (text, _) ← readText d [item]
    let (texts, rest) ← itemTexts d rest
    .ok (text :: texts, rest)
  | [] => .error .malformed

/-- Reads a list of texts that stands here.  A missing value is an empty
list. -/
def readListHere (d : Yaml.Document) : ItemReader (List Text)
  | .sequenceStart :: rest => itemTexts d rest
  | .scalar _ [] true :: rest => .ok ([], rest)
  | _ => .error .malformed

/-- Reads a list of texts. -/
def readList (d : Yaml.Document) : ItemReader (List Text)
  | .alias n :: rest => (readListHere d (d.target n)).map fun r => (r.1, rest)
  | items => readListHere d items

/-- The items after a node that has been read to a depth. -/
def afterNode : (depth : Nat) → List Yaml.Item → Except ReadError (List Yaml.Item)
  | _, [] => .error .malformed
  | depth, .sequenceStart :: rest | depth, .mappingStart :: rest => afterNode (depth + 1) rest
  | depth, .sequenceEnd :: rest | depth, .mappingEnd :: rest =>
    if depth ≤ 1 then .ok rest else afterNode (depth - 1) rest
  | depth, _ :: rest => if depth = 0 then .ok rest else afterNode depth rest

/-- Passes over a node. -/
def skipNode : ItemReader Unit :=
  fun items => (afterNode 0 items).map ((), ·)

/-- The fields that have been read. -/
structure Fields where
  schema : Option Text
  toolset : Option Text
  charset : Option Text
  baseDirectory : Option (Option Text)
  buildLogs : Option (List Text)
  databases : Option (List Text)
  searchPath : Option (List Text)
  macros : Option (List Text)

/-- No fields. -/
def Fields.empty : Fields :=
  ⟨none, none, none, none, none, none, none, none⟩

/-- Reads the value of a key that must not have come before. -/
def once {α : Type} (earlier : Option α) (read : ItemReader α) : ItemReader (Option α) :=
  if earlier.isSome then throw .malformed else some <$> read

/-- Reads the version of the format. -/
def readSchema (d : Yaml.Document) : ItemReader Text := do
  let schema ← readText d
  if schema == supportedSchema then return schema else throw (.unsupportedSchema schema)

/-- Reads the value of a key. -/
def readField (d : Yaml.Document) (f : Fields) (key : Text) : ItemReader Fields := do
  if key == "schema".toList then
    return { f with schema := ← once f.schema (readSchema d) }
  else if key == "toolset".toList then
    return { f with toolset := ← once f.toolset (readText d) }
  else if key == "charset".toList then
    return { f with charset := ← once f.charset (readText d) }
  else if key == "base_dir".toList then
    return { f with baseDirectory := ← once f.baseDirectory (readOptional d) }
  else if key == PathList.buildLogs.name then
    return { f with buildLogs := ← once f.buildLogs (readList d) }
  else if key == PathList.databases.name then
    return { f with databases := ← once f.databases (readList d) }
  else if key == PathList.searchPath.name then
    return { f with searchPath := ← once f.searchPath (readList d) }
  else if key == "defines".toList then
    return { f with macros := ← once f.macros (readList d) }
  else
    skipNode
    return f

/-- Reads the fields up to the end of their mapping.  Every field takes at
least one item. -/
def readFields (d : Yaml.Document) : (fuel : Nat) → Fields → List Yaml.Item → Except ReadError Fields
  | 0, _, _ => .error .malformed
  | _ + 1, f, .mappingEnd :: _ => .ok f
  | fuel + 1, f, items => do
    let (key, rest) ← readText d items
    let (f, rest) ← readField d f key rest
    readFields d fuel f rest

/-- The configuration of some fields.  The version of the format must be
there. -/
def ofFields (f : Fields) : Except ReadError Config :=
  match f.schema with
  | none => .error .malformed
  | some schema => .ok {
      schema
      toolset := f.toolset.getD defaultToolset
      charset := f.charset.getD defaultCharset
      baseDirectory := f.baseDirectory.join.map Path.mk
      buildLogs := (f.buildLogs.getD []).map Path.mk
      databases := (f.databases.getD []).map Path.mk
      searchPath := (f.searchPath.getD []).map Path.mk
      macros := f.macros.getD [] }

/-- The configuration of a document. -/
def ofDocument (d : Yaml.Document) : Except ReadError Config :=
  match d.items with
  | .mappingStart :: rest => do
    let fields ← readFields d (rest.length + 1) .empty rest
    let config ← ofFields fields
    if d.sound then .ok config else .error .malformed
  | _ => .error .malformed

/-- The configuration of a text. -/
def ofText (t : Text) : Except ReadError Config :=
  ofDocument (.ofText t)

/-- Why a configuration file is not taken. -/
inductive LoadError where
  | unreadable
  | unparsable (reason : ReadError)
  | invalid (rejection : Rejection)
  deriving DecidableEq, Repr

/-- The configuration of a file. -/
def ofBytes (bytes : Bytes) : Except LoadError Config :=
  match Utf8.strict? bytes with
  | none => .error (.unparsable .malformed)
  | some t => match ofText t with
    | .error reason => .error (.unparsable reason)
    | .ok config => match config.validate with
      | .error rejection => .error (.invalid rejection)
      | .ok () => .ok config

end Config

end BuildEnv
