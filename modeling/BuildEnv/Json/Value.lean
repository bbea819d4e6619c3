import BuildEnv.Json.Numeral

/-!
# JSON values

The values of JSON and the two ways in which they are written: on one line
(`Json.compact`) and indented by two spaces (`Json.pretty`).
-/

namespace BuildEnv

/-- A value of JSON.  Objects keep all their fields in order, repeated keys
too. -/
inductive Json where
  | null
  | bool (b : Bool)
  | number (n : Numeral)
  | string (t : Text)
  | array (items : List Json)
  | object (fields : List (Text × Json))

namespace Json

/-- Four hexadecimal digits of a small code. -/
def codeDigits (n : Nat) : Text :=
  ['0', '0', Nat.digitChar (n / 16), Nat.digitChar (n % 16)]

/-- One character in a string. -/
def escaped (c : Char) : Text :=
  match c with
  | '"' => ['\\', '"']
  | '\\' => ['\\', '\\']
  | '\x08' => ['\\', 'b']
  | '\x0c' => ['\\', 'f']
  | '\n' => ['\\', 'n']
  | '\r' => ['\\', 'r']
  | '\t' => ['\\', 't']
  | c => if c.toNat < 0x20 then ['\\', 'u'] ++ codeDigits c.toNat else [c]

/-- A text as a string of JSON. -/
def quoted (t : Text) : Text :=
  '"' :: t.flatMap escaped ++ ['"']

/-- Values that are written on one line wherever they stand. -/
def atom : Json → Text
  | bool true => "true".toList
  | bool false => "false".toList
  | number n => n.text
  | string t => quoted t
  | array _ => "[]".toList
  | object _ => ['\x7b', '\x7d']
  | null => "null".toList

mutual

/-- A value on one line. -/
def compact : Json → Text
  | array items => '[' :: compactItems items ++ [']']
  | object fields => '\x7b' :: compactFields fields ++ ['\x7d']
  | v => atom v

/-- Items with commas between them. -/
def compactItems : List Json → Text
  | [] => []
  | [v] => compact v
  | v :: rest => compact v ++ ',' :: compactItems rest

/-- Fields with commas between them. -/
def compactFields : List (Text × Json) → Text
  | [] => []
  | [(key, v)] => quoted key ++ ':' :: compact v
  | (key, v) :: rest => quoted key ++ ':' :: compact v ++ ',' :: compactFields rest

end

/-- A new line, indented by two spaces for every level. -/
def newLine (level : Nat) : Text :=
  '\n' :: List.replicate (2 * level) ' '

mutual

/-- A value on lines of its own, at a level of indentation. -/
def indented (level : Nat) : Json → Text
  | array (v :: rest) =>
    '[' :: indentedItems (level + 1) (v :: rest) ++ newLine level ++ [']']
  | object (f :: rest) =>
    '\x7b' :: indentedFields (level + 1) (f :: rest) ++ newLine level ++ ['\x7d']
  | v => atom v

/-- Items, each on a new line, with commas between them. -/
def indentedItems (level : Nat) : List Json → Text
  | [] => []
  | [v] => newLine level ++ indented level v
  | v :: rest => newLine level ++ indented level v ++ ',' :: indentedItems level rest

/-- Fields, each on a new line, with commas between them. -/
def indentedFields (level : Nat) : List (Text × Json) → Text
  | [] => []
  | [(key, v)] => newLine level ++ quoted key ++ ": ".toList ++ indented level v
  | (key, v) :: rest =>
    newLine level ++ quoted key ++ ": ".toList ++ indented level v
      ++ ',' :: indentedFields level rest

end

/-- A value indented by two spaces for every level. -/
def pretty (v : Json) : Text :=
  indented 0 v

/-- The value of a key, the last one if the key is repeated. -/
def field? (fields : List (Text × Json)) (key : Text) : Option Json :=
  (fields.reverse.find? fun f => f.1 == key).map (·.2)

end Json

end BuildEnv
