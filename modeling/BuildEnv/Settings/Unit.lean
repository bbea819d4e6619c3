import BuildEnv.Settings.MacroTable
import BuildEnv.Settings.SearchPath

/-!
# Unit settings

What the preprocessor has to know to read one source file: where included
files are looked for and which macros are there from the start.
-/

namespace BuildEnv

/-- The preprocessor settings of one source file. -/
structure UnitSettings where
  searchPath : SearchPath
  macros : MacroTable
  deriving DecidableEq, Repr

/-- A source file together with its settings. -/
structure UnitRecord where
  file : Path
  settings : UnitSettings
  deriving DecidableEq, Repr

end BuildEnv
