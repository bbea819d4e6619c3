import BuildEnv.Switch.Dialect

/-!
# The walk over a command line

A compiler's words are walked from left to right.  Each step takes one word,
or two where a switch takes its argument from the next word, and the walk
ends with the words or at the switch that gives the rest to the linker.
-/

namespace BuildEnv

namespace Switch

/-- One step of the walk. -/
inductive Step where
  /-- A word that names a file of further words, which is not read. -/
  | responseFile (word : Text)
  /-- A word that is no switch and names a source file. -/
  | sourceFile (word : Text)
  /-- A word that says nothing. -/
  | unknown (word : Text)
  /-- A switch. -/
  | switch (found : Match)
  deriving DecidableEq, Repr

/-- The step at the front of a command line.  A response file is seen before
any switch. -/
def Dialect.step (d : Dialect) (word : Text) (next : List Text) : Step :=
  if word.head? == some '@' then .responseFile word
  else match d.match? (word :: next) with
    | some found => .switch found
    | none => if d.isSource word then .sourceFile word else .unknown word

/-- Whether the step is the one that ends the options. -/
def Step.endsOptions : Step → Bool
  | .switch found => found.meaning == .endOfOptions
  | _ => false

/-- How many words after its own a step takes. -/
def Step.taken : Step → Nat
  | .switch found => found.consumed - 1
  | _ => 0

/-- The steps over the words after the first `skip` ones, which a switch has
taken already. -/
def Dialect.walkAfter (d : Dialect) : (skip : Nat) → List Text → List Step
  | _, [] => []
  | skip + 1, _ :: next => d.walkAfter skip next
  | 0, word :: next =>
    let step := d.step word next
    if step.endsOptions then [] else step :: d.walkAfter step.taken next

/-- The steps over a command line, without the one that ends the options. -/
def Dialect.walk (d : Dialect) (words : List Text) : List Step :=
  d.walkAfter 0 words

end Switch

end BuildEnv
