import BuildEnv.Config.Basic
import BuildEnv.Yaml.Printer

/-!
# Showing configurations

A configuration is shown as the file that would give it, line by line after a
heading.
-/

namespace BuildEnv

namespace Config

/-- A key with its value. -/
def writeField (key : String) (value : Text) : Text :=
  Yaml.endLine (key.toList ++ ": ".toList ++ Yaml.write value)

/-- A key with a list of values. -/
def writeList (key : Text) (values : List Text) : Text :=
  if values.isEmpty then key ++ ": []\n".toList
  else key ++ ":\n".toList
    ++ values.flatMap fun value => Yaml.endLine ('-' :: ' ' :: Yaml.write value)

/-- A configuration as a file. -/
def write (c : Config) : Text :=
  writeField "schema" c.schema
    ++ writeField "toolset" c.toolset
    ++ writeField "charset" c.charset
    ++ (match c.baseDirectory with
      | none => []
      | some p => writeField "base_dir" p.text)
    ++ PathList.all.flatMap (fun list => writeList list.name ((c.paths list).map Path.text))
    ++ writeList "defines".toList c.macros

/-- A configuration as it is shown. -/
def display (c : Config) : Text :=
  "Configuration:\n".toList ++ (Text.lines c.write).flatMap fun line => line ++ ['\n']

end Config

end BuildEnv
