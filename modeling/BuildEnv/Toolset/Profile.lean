import BuildEnv.Toolset.Feature
import BuildEnv.Toolset.Release

/-!
# Compiler profiles

A profile is what decides the macros that a compiler predefines: the release,
the target architecture and the features.  The full version text of a build
is kept for messages only.
-/

namespace BuildEnv

/-- The machine that code is compiled for. -/
inductive Architecture where
  | x86
  | x64
  | arm
  | unspecified
  deriving DecidableEq, Repr

namespace Architecture

/-- The spellings of the architectures in build tools and directory names. -/
def spellings : List (Architecture × List String) :=
  [(x86, ["x86", "win32", "80x86", "i386"]),
    (x64, ["x64", "amd64", "x86_amd64", "x86_64"]),
    (arm, ["arm", "x86_arm", "amd64_arm"])]

/-- The architecture of a name, in whatever case. -/
def ofName? (name : Text) : Option Architecture :=
  (spellings.find? fun entry => entry.2.any fun s => s.toList == Text.lowerAscii name).map (·.1)

/-- How the architecture is written. -/
def text : Architecture → Text
  | x86 => "x86".toList
  | x64 => "x64".toList
  | arm => "arm".toList
  | unspecified => "unspecified".toList

end Architecture

/-- A recognized configuration of the compiler. -/
structure Profile where
  version : Option ToolsetVersion
  /-- The build number of the compiler as it was found. -/
  fullVersion : Option Text
  architecture : Architecture
  features : FeatureSet

namespace Profile

/-- How the version is written, with a space before it. -/
def versionText (p : Profile) : Text :=
  match p.version, p.fullVersion with
  | some v, some full => ' ' :: v.text ++ " (".toList ++ full ++ [')']
  | some v, none => ' ' :: v.text
  | none, some full => " (".toList ++ full ++ [')']
  | none, none => " (unknown version)".toList

/-- How the profile is written. -/
def text (p : Profile) : Text :=
  "msvc".toList ++ p.versionText ++ ' ' :: p.architecture.text

end Profile

end BuildEnv
