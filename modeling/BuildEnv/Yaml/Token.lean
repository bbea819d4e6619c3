import BuildEnv.Text.Basic

/-!
# Tokens of YAML

What a text of YAML consists of once its indentation has been turned into
tokens: a block that is indented starts with a token of its own and ends with
one, and a key that is only known by the colon after it has a token before it.
-/

namespace BuildEnv

namespace Yaml

/-- A token of YAML. -/
inductive Token where
  /-- The version directive of a document. -/
  | version (major minor : Nat)
  /-- A directive that gives the tags of a handle their beginning. -/
  | tagDirective (handle lead : Text)
  | documentStart
  | documentEnd
  | streamEnd
  | blockSequenceStart
  | blockMappingStart
  | blockEnd
  | flowSequenceStart
  | flowSequenceEnd
  | flowMappingStart
  | flowMappingEnd
  | blockEntry
  | flowEntry
  | key
  | value
  | alias (name : Text)
  | anchor (name : Text)
  /-- A tag.  A handle that is empty leaves the rest as it is. -/
  | tag (handle rest : Text)
  /-- A scalar, and whether it is neither quoted nor a block. -/
  | scalar (text : Text) (plain : Bool)
  deriving DecidableEq, Repr

end Yaml

end BuildEnv
