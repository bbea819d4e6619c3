import BuildEnv.Text.Basic

/-!
# Toolset keys

The key by which a configuration names the toolset whose logs it reads.
-/

namespace BuildEnv

/-- The toolsets whose logs can be read. -/
inductive Toolset where
  | visualCpp
  deriving DecidableEq, Repr

namespace Toolset

/-- The main spelling of the key. -/
def key : Toolset → Text
  | visualCpp => "Visual C++".toList

/-- All the spellings of the keys. -/
def spellings : List (Text × Toolset) :=
  [("Visual C++".toList, visualCpp), ("vc++".toList, visualCpp), ("msvc".toList, visualCpp)]

/-- The toolset of a key, in whatever case and with blanks around it. -/
def ofKey? (key : Text) : Option Toolset :=
  (spellings.find? fun s => Text.sameIgnoringCase s.1 (Text.trim key)).map (·.2)

/-- The wording of the complaint about an unknown key. -/
def unsupportedMessage (key : Text) : Text :=
  "Unsupported toolset: '".toList ++ key ++ ['\'']

end Toolset

end BuildEnv
