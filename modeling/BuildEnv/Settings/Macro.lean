import BuildEnv.Text.Basic

/-!
# Macros

A macro is a name with or without a value.  It is read from the form that
compilers take on their command line (`Macro.parse`) and shown in the form of
a `#define` line (`Macro.text`), where a missing value and an empty one look
the same.
-/

namespace BuildEnv

/-- A macro of the preprocessor.  A missing value is a macro that is only
asked for its presence. -/
structure Macro where
  name : Text
  value : Option Text
  deriving DecidableEq, Repr

namespace Macro

/-- A macro with a value, for tables. -/
def ofStrings (name value : String) : Macro :=
  ⟨name.toList, some value.toList⟩

/-- A macro without a value, for tables. -/
def flag (name : String) : Macro :=
  ⟨name.toList, none⟩

/-- The name, then the value after one space if there is one to show. -/
def text (m : Macro) : Text :=
  match m.value with
  | some (c :: value) => m.name ++ ' ' :: c :: value
  | _ => m.name

/-- Why a text defines no macro.  Both carry the trimmed text. -/
inductive ParseError where
  /-- Nothing stands before the value. -/
  | emptyName (text : Text)
  /-- A blank stands in the name. -/
  | blankInName (text : Text)
  deriving DecidableEq, Repr

/-- The wording of the error. -/
def ParseError.message : ParseError → Text
  | .emptyName t => "Macro definition has an empty name: '".toList ++ t ++ ['\'']
  | .blankInName t => "Macro name contains white space: '".toList ++ t ++ ['\'']

/-- The characters that end the name and begin the value. -/
def isValueMark (c : Char) : Bool :=
  c == '=' || c == '#'

/-- Reads `NAME`, `NAME=VALUE` or `NAME#VALUE`.  The value is all that
follows the first mark. -/
def parse (raw : Text) : Except ParseError Macro :=
  let t := Text.trim raw
  let name := t.takeWhile fun c => !isValueMark c
  if name.isEmpty then .error (.emptyName t)
  else if name.any Text.isBlank then .error (.blankInName t)
  else .ok ⟨name, (t.dropWhile fun c => !isValueMark c).tail?⟩

end Macro

end BuildEnv
