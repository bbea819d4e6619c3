import BuildEnv.Settings.Macro

/-!
# Toolset releases

The releases of the Visual C++ toolset.  A release has a number (`v141` is
141), the versions of its tools directory and of its compiler, which share
the minor number, and the macros that tell it.  `ToolsetVersion` is a
release's number; it is read from the three spellings that logs use.
-/

namespace BuildEnv

/-- One release of the toolset. -/
structure Release where
  /-- The number of the platform toolset. -/
  toolset : Nat
  /-- The major version of the tools directory. -/
  toolsMajor : Nat
  /-- The major version of the compiler. -/
  compilerMajor : Nat
  /-- The least minor version of tools directory and compiler. -/
  firstMinor : Nat
  /-- The greatest minor version of tools directory and compiler. -/
  lastMinor : Nat
  /-- The macros that tell the release. -/
  macros : List Macro

namespace Release

/-- The macros that tell a version of the compiler. -/
def versionMacros (compiler full atl : String) : List Macro :=
  [.ofStrings "_MSC_VER" compiler, .ofStrings "_MSC_FULL_VER" full, .ofStrings "_ATL_VER" atl]

/-- The language version of a compiler that is told no other. -/
def languageDefaults : List Macro :=
  [.ofStrings "__cplusplus" "199711L", .ofStrings "_MSVC_LANG" "201402L"]

/-- The known releases. -/
def all : List Release :=
  [⟨100, 10, 16, 0, 9, versionMacros "1600" "160040219" "0x0A00"⟩,
    ⟨110, 11, 17, 0, 9, versionMacros "1700" "1700610301" "0x0B00"⟩,
    ⟨120, 12, 18, 0, 9, versionMacros "1800" "180031101" "0x0C00"⟩,
    ⟨140, 14, 19, 0, 9, versionMacros "1900" "190024215" "0x0E00"⟩,
    ⟨141, 14, 19, 10, 19, versionMacros "1910" "191024629" "0x0E00" ++ languageDefaults⟩,
    ⟨142, 14, 19, 20, 29, versionMacros "1920" "192027508" "0x0E00" ++ languageDefaults⟩,
    ⟨143, 14, 19, 30, 49, versionMacros "1930" "193030705" "0x0E00" ++ languageDefaults⟩]

/-- Whether a minor version belongs to the release. -/
def hasMinor (r : Release) (minor : Nat) : Bool :=
  r.firstMinor ≤ minor && minor ≤ r.lastMinor

/-- The release of a toolset number. -/
def ofToolset? (toolset : Nat) : Option Release :=
  all.find? fun r => r.toolset == toolset

/-- The release of a version of the tools directory. -/
def ofTools? (major minor : Nat) : Option Release :=
  all.find? fun r => r.toolsMajor == major && r.hasMinor minor

/-- The release of a version of the compiler. -/
def ofCompiler? (major minor : Nat) : Option Release :=
  all.find? fun r => r.compilerMajor == major && r.hasMinor minor

end Release

/-- The number of a platform toolset.  It need not be the one of a known
release. -/
structure ToolsetVersion where
  number : Nat
  deriving DecidableEq, Repr

namespace ToolsetVersion

/-- How the version is written. -/
def text (v : ToolsetVersion) : Text :=
  'v' :: Text.ofNat v.number

/-- Whether the version is the one of a known release. -/
def isKnown (v : ToolsetVersion) : Bool :=
  (Release.ofToolset? v.number).isSome

/-- Reads the name of a platform toolset: three digits, with any number of
`v` before them. -/
def ofPlatformToolset? (t : Text) : Option ToolsetVersion :=
  let digits := (Text.trim t).dropWhile fun c => c == 'v' || c == 'V'
  if digits.length == 3 && digits.all Char.isDigit then some ⟨Text.digitsValue digits⟩ else none

/-- The minor number that a text stands for.  One digit is short for two: `1`
means `10`. -/
def minorNumber? (t : Text) : Option Nat := do
  let n ← Text.toNat? Text.max16 t
  if t.length == 1 then some (n * 10) else some n

/-- The first two numbers of a dotted version. -/
def majorMinor? (t : Text) : Option (Nat × Nat) :=
  match Text.splitOn '.' (Text.trim t) with
  | major :: minor :: _ => do
    let major ← Text.toNat? Text.max16 major
    let minor ← minorNumber? minor
    some (major, minor)
  | _ => none

/-- The toolset of a version of the tools directory, such as `14.16.27023`. -/
def ofTools? (t : Text) : Option ToolsetVersion := do
  let (major, minor) ← majorMinor? t
  let release ← Release.ofTools? major minor
  some ⟨release.toolset⟩

/-- The toolset that ships a version of the compiler, such as
`19.10.24629`. -/
def ofCompiler? (t : Text) : Option ToolsetVersion := do
  let (major, minor) ← majorMinor? t
  let release ← Release.ofCompiler? major minor
  some ⟨release.toolset⟩

end ToolsetVersion

end BuildEnv
