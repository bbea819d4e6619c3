import BuildEnv.Text.Basic

/-!
# Messages

What the analysis has to say beside its result.  Messages are collected in
order as data; nothing is printed here.
-/

namespace BuildEnv

/-- How much a message matters. -/
inductive Severity where
  | warning
  | debug
  deriving DecidableEq, Repr

/-- A message of the analysis. -/
structure Message where
  severity : Severity
  text : Text
  deriving DecidableEq, Repr

/-- A result together with the messages that came up on the way. -/
structure Logged (α : Type) where
  value : α
  messages : List Message

end BuildEnv
