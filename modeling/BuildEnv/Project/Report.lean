import BuildEnv.Json.Value
import BuildEnv.Project.Basic

/-!
# Reports

The document that is written about a project: the merged view at the top, and
the records of all files in the order of paths.  Macros are written as
`#define` lines.
-/

namespace BuildEnv

namespace Project

/-- A list of strings. -/
def textList (texts : List Text) : Json :=
  .array (texts.map .string)

/-- The fields of a search path and a macro table. -/
def settingsFields (searchPath : SearchPath) (macros : MacroTable) : List (Text × Json) :=
  [("include_directories".toList, textList (searchPath.directories.map Path.text)),
    ("defines".toList, textList macros.texts)]

/-- The element of a file. -/
def unitReport (file : Path) (s : UnitSettings) : Json :=
  .object (("file".toList, .string file.text) :: settingsFields s.searchPath s.macros)

/-- The elements of all files. -/
def unitReports (p : Project) : List Json :=
  p.files.filterMap fun file => (p.settings? file).map (unitReport file)

/-- The report as a value of JSON. -/
def report (p : Project) : Json :=
  .object (settingsFields p.mergedSearchPath p.mergedMacros
    ++ [("units".toList, .array p.unitReports)])

/-- The report as a text, which ends in a line feed. -/
def document (p : Project) : Text :=
  p.report.pretty ++ ['\n']

end Project

end BuildEnv
