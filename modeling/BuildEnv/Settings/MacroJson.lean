import BuildEnv.Json.Value
import BuildEnv.Settings.Macro

/-!
# Macros in JSON

A macro is an object of its name and, if it has one, its value.
-/

namespace BuildEnv

namespace Macro

/-- The macro as a value of JSON. -/
def toJson (m : Macro) : Json :=
  .object (("name".toList, .string m.name)
    :: (m.value.map fun value => ("value".toList, Json.string value)).toList)

end Macro

end BuildEnv
