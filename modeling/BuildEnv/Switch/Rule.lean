import BuildEnv.Toolset.Feature
import BuildEnv.Text.Basic

/-!
# Switch rules

How compiler switches are recognized.  A rule says how a switch takes its
argument (`Shape`) apart from what it means (`Meaning`).  Rules are tried
with the longest switch first, so that `/MDd` is not read as `/MD` and
`/clr:pure` not as `/clr:`.
-/

namespace BuildEnv

namespace Switch

/-- How a switch takes its argument. -/
inductive Shape where
  /-- The switch stands alone. -/
  | bare
  /-- The argument is glued to the switch, or is the next word. -/
  | gluedOrNext
  /-- The argument is glued to the switch and not empty. -/
  | glued
  deriving DecidableEq, Repr

/-- What a switch means for the preprocessor. -/
inductive Meaning where
  /-- The argument is a directory for included files. -/
  | includeDirectory
  /-- The argument defines a macro. -/
  | define
  /-- The argument names a macro to take away. -/
  | undefine
  /-- The argument is a source file. -/
  | source
  /-- The argument gives the exception model by its letters. -/
  | exceptionModel
  /-- The argument names the instruction set. -/
  | instructionSet
  /-- The argument names the language standard. -/
  | languageStandard
  /-- Features are turned on. -/
  | enables (features : List Feature)
  /-- Features are turned off. -/
  | disables (features : List Feature)
  /-- What follows is for the linker. -/
  | endOfOptions
  /-- Nothing. -/
  | ignored
  deriving DecidableEq, Repr

/-- A switch, how it takes its argument, and what it means. -/
structure Rule where
  shape : Shape
  switch : Text
  meaning : Meaning
  deriving DecidableEq, Repr

/-- A rule that applied to the words at the front of a command line. -/
structure Match where
  meaning : Meaning
  argument : Option Text
  /-- How many words the switch takes, its own included. -/
  consumed : Nat
  deriving DecidableEq, Repr

namespace Rule

/-- What a rule makes of a word and the words after it. -/
def accept? (rule : Rule) (word : Text) (next : List Text) : Option Match :=
  match Text.after? rule.switch word, rule.shape with
  | some [], .bare => some ⟨rule.meaning, none, 1⟩
  | some [], .gluedOrNext => match next with
    | [] => none
    | argument :: _ => some ⟨rule.meaning, some argument, 2⟩
  | some (c :: rest), .gluedOrNext => some ⟨rule.meaning, some (c :: rest), 1⟩
  | some (c :: rest), .glued => some ⟨rule.meaning, some (c :: rest), 1⟩
  | _, _ => none

/-- Rules with the longest switch first.  Rules with switches of one length keep
their order. -/
def longestFirst (rules : List Rule) : List Rule :=
  rules.mergeSort fun a b => Text.byteLength b.switch ≤ Text.byteLength a.switch

end Rule

/-- The first rule of a list that applies. -/
def firstMatch? (rules : List Rule) (word : Text) (next : List Text) : Option Match :=
  rules.findSome? fun rule => rule.accept? word next

end Switch

end BuildEnv
