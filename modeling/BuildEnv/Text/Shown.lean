import BuildEnv.Text.Basic

/-!
# Values in messages

How records, lists and optional values are shown in messages, made from the
shown forms of their parts.
-/

namespace BuildEnv

namespace Text

/-- A list, in brackets. -/
def shownList (items : List Text) : Text :=
  '[' :: joinWith ", ".toList items ++ [']']

/-- A value that may be missing. -/
def shownOption : Option Text → Text
  | none => "None".toList
  | some t => "Some(".toList ++ t ++ [')']

/-- A value with a name before it. -/
def shownCase (name : String) (t : Text) : Text :=
  name.toList ++ '(' :: t ++ [')']

/-- A record: its name, and its fields in braces. -/
def shownRecord (name : String) (fields : List (String × Text)) : Text :=
  name.toList ++ " \x7b ".toList
    ++ joinWith ", ".toList (fields.map fun f => f.1.toList ++ ": ".toList ++ f.2)
    ++ " \x7d".toList

end Text

end BuildEnv
