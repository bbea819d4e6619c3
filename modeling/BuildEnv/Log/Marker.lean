import BuildEnv.Text.Scanner
import BuildEnv.Toolset.Profile

/-!
# Markers

A marker is a fact that one line of a build log tells about the build: a
project starts, a path or an option names the toolset or the architecture,
the compiler introduces itself, or the compiler is invoked.  A line can carry
several markers.  `Marker.ofText` lists them in the order in which they take
effect: projects first, invocations last.

Every pattern counts at most once in a line, at the first place where it
fits.
-/

namespace BuildEnv

/-- A fact that a line of a log tells. -/
inductive Marker where
  /-- A project file starts to be built, as the project of a number if the
  line tells one. -/
  | project (path : Text) (context : Option Nat)
  /-- The toolset of what follows. -/
  | toolset (version : ToolsetVersion)
  /-- The banner of the compiler. -/
  | compiler (fullVersion : Text) (version : Option ToolsetVersion)
      (architecture : Option Architecture)
  /-- The architecture of what follows. -/
  | architecture (architecture : Architecture)
  /-- A call of the compiler with its arguments. -/
  | invocation (compiler arguments : Text)
  deriving DecidableEq, Repr

namespace Marker

open Scanner

/-- The separators in paths of Windows. -/
def isPathSeparator (c : Char) : Bool :=
  c == '\\' || c == '/'

/-- One separator of a path. -/
def separator : Scanner Unit := do
  let _ ← one isPathSeparator

/-- The number of a project in parentheses, without what follows a colon in
it. -/
def projectNumber : Scanner Text := do
  literal " ("
  let digits ← run1 Text.isDigit
  let _ ← Scanner.optional do
    literal ":"
    run1 Text.isDigit
  literal ")"
  pure digits

/-- A quoted path and the number after it, if there is one. -/
def quotedProject : Scanner (Text × Option Text) := do
  literal "\""
  let path ← run1 (· != '"')
  literal "\""
  let number ← Scanner.optional projectNumber
  pure (path, number)

/-- The announcement of a project.  Where one project builds another, it is
the other that starts. -/
def announcement : Scanner (Text × Option Text) := do
  literal "Project "
  let parent ← quotedProject
  let child ← Scanner.optional do
    literal " is building "
    quotedProject
  literal " on node "
  let _ ← run1 Text.isDigit
  pure (child.getD parent)

/-- The project that a line announces. -/
def projects (t : Text) : List Marker :=
  match first? announcement t with
  | some (path, number) => [.project path (number.bind (Text.toNat? Text.max32))]
  | none => []

/-- The toolset of a targets file, as in
`\v110\Microsoft.CppBuild.targets`. -/
def targetsFile : Scanner (Option ToolsetVersion) := do
  separator
  anyCase "v"
  let digits ← count Text.isDigit 3
  separator
  anyCase "microsoft.cpp"
  either (anyCase "build") (anyCase "common")
  anyCase ".targets"
  pure (ToolsetVersion.ofPlatformToolset? digits)

/-- The toolset of a platform file, as in `Microsoft.Cpp.Win32.v110.targets`. -/
def platformFile : Scanner (Option ToolsetVersion) := do
  anyCase "microsoft.cpp."
  let _ ← run1 Text.isWord
  anyCase ".v"
  let digits ← count Text.isDigit 3
  anyCase ".targets"
  pure (ToolsetVersion.ofPlatformToolset? digits)

/-- The toolset of a directory, as in `PlatformToolsets\v141\`. -/
def toolsetDirectory : Scanner (Option ToolsetVersion) := do
  anyCase "platformtoolsets"
  separator
  anyCase "v"
  let digits ← count Text.isDigit 3
  separator
  pure (ToolsetVersion.ofPlatformToolset? digits)

/-- The toolset of a property, as in `PlatformToolset=v141`. -/
def toolsetProperty : Scanner (Option ToolsetVersion) := do
  literal "PlatformToolset"
  let _ ← run Text.isBlank
  literal "="
  let _ ← run Text.isBlank
  let _ ← Scanner.optional (literal "\"")
  let _ ← one fun c => c == 'v' || c == 'V'
  let digits ← count Text.isDigit 3
  wordEnd
  pure (ToolsetVersion.ofPlatformToolset? digits)

/-- The toolset of a tools directory, as in `\VC\Tools\MSVC\14.16.27023\`. -/
def toolsDirectory : Scanner (Option ToolsetVersion) := do
  separator
  anyCase "vc"
  separator
  anyCase "tools"
  separator
  anyCase "msvc"
  separator
  let major ← run1 Text.isDigit
  literal "."
  let minor ← run1 Text.isDigit
  literal "."
  let _ ← run1 Text.isDigit
  separator
  pure (ToolsetVersion.ofTools? (major ++ '.' :: minor))

/-- The toolset of an installation, as in
`Microsoft Visual Studio 14.0\VC\bin`. -/
def installation : Scanner (Option ToolsetVersion) := do
  anyCase "microsoft visual studio "
  let major ← run1 Text.isDigit
  literal ".0"
  separator
  anyCase "vc"
  separator
  anyCase "bin"
  pure (ToolsetVersion.ofTools? (major ++ ['.', '0']))

/-- The toolsets that a line tells. -/
def toolsets (t : Text) : List Marker :=
  [targetsFile, platformFile, toolsetDirectory, toolsetProperty, toolsDirectory,
    installation].filterMap fun pattern => (first? pattern t).join.map .toolset

/-- Digits with dots between them: three groups or four. -/
def fullVersion : Scanner Text := do
  let a ← run1 Text.isDigit
  literal "."
  let b ← run1 Text.isDigit
  literal "."
  let c ← run1 Text.isDigit
  let d ← Scanner.optional do
    literal "."
    run1 Text.isDigit
  pure (Text.joinWith ['.'] ([a, b, c] ++ d.toList))

/-- The banner of the compiler: its version and the name of its target. -/
def banner : Scanner (Text × Text) := do
  literal "Microsoft (R) "
  let _ ← Scanner.optional (either (literal "32-bit ") (literal "64-bit "))
  literal "C/C++ "
  let _ ← Scanner.optional (literal "Optimizing ")
  literal "Compiler Version "
  let version ← fullVersion
  literal " for "
  let target ← run1 Text.isWord
  pure (version, target)

/-- The compiler that introduces itself. -/
def compilers (t : Text) : List Marker :=
  match first? banner t with
  | some (version, target) =>
    [.compiler version (ToolsetVersion.ofCompiler? version) (Architecture.ofName? target)]
  | none => []

/-- The architecture of a property, as in `Platform=x64`.  `Platform` has to
be the beginning of a word. -/
def platformProperty (before : Option Char) : Scanner (Option Architecture) := do
  if before.any Text.isWord then failure
  literal "Platform"
  let _ ← run Text.isBlank
  literal "="
  let _ ← run Text.isBlank
  let _ ← Scanner.optional (literal "\"")
  let name ← run1 Text.isWord
  pure (Architecture.ofName? name)

/-- The architecture of a configuration, as in `Configuration: Debug Win32`. -/
def configurationName : Scanner (Option Architecture) := do
  literal "Configuration: "
  let _ ← run1 Text.isWord
  literal " "
  let name ← run1 Text.isWord
  pure (Architecture.ofName? name)

/-- The architecture of a pair of configuration and platform, as in
`Debug|x64`. -/
def configurationPair : Scanner (Option Architecture) := do
  let _ ← one Text.isWord
  literal "|"
  let name ← run1 Text.isWord
  pure (Architecture.ofName? name)

/-- The name of the compiler at the end of its path. -/
def compilerName : Scanner Unit := do
  anyCase "cl"
  wordEnd

/-- The directories of compilers that do not target the machine they run on. -/
def crossDirectories : List String :=
  ["amd64", "x86_amd64", "x86_arm", "amd64_arm", "arm"]

/-- The architecture of a compiler's directory, as in
`\bin\x86_amd64\cl.exe`. -/
def crossCompiler : Scanner (Option Architecture) := do
  separator
  anyCase "bin"
  separator
  let name ← run1 (!isPathSeparator ·)
  if !crossDirectories.any (fun d => d.toList == name.map Text.foldCase) then failure
  separator
  compilerName
  pure (Architecture.ofName? name)

/-- The architecture of a compiler's directory, as in
`\HostX64\x64\cl.exe`. -/
def hostedCompiler : Scanner (Option Architecture) := do
  separator
  anyCase "host"
  either (anyCase "x86") (anyCase "x64")
  separator
  let name ← run1 Text.isWord
  separator
  compilerName
  pure (Architecture.ofName? name)

/-- The compiler in `\VC\bin` runs on x86 and targets it. -/
def nativeCompiler : Scanner (Option Architecture) := do
  separator
  anyCase "vc"
  separator
  anyCase "bin"
  separator
  compilerName
  pure (some .x86)

/-- The architectures that a line tells. -/
def architectures (t : Text) : List Marker :=
  [platformProperty, fun _ => configurationName, fun _ => configurationPair,
    fun _ => crossCompiler, fun _ => hostedCompiler, fun _ => nativeCompiler].filterMap
    fun pattern => (firstAfter? pattern none t).join.map .architecture

/-- A call at the front of a text: the name of the compiler, blanks, and
arguments up to the end, the first of which is a switch.  The arguments are
on one line. -/
def call? (t : Text) : Option (Text × Text) := do
  let (_, rest) ← (anyCase "cl") t
  let (_, rest) ← (Scanner.optional (anyCase ".exe")) rest
  let (_, rest) ← (Scanner.optional (literal "\"")) rest
  let name := t.take (t.length - rest.length)
  let (_, arguments) ← (run1 Text.isBlank) rest
  if (arguments.head?.any fun c => c == '/' || c == '-') && !arguments.contains '\n' then
    some (name, arguments)
  else none

/-- The characters that can stand before the name of the compiler. -/
def isBeforeCompiler (c : Char) : Bool :=
  isPathSeparator c || c == '"' || Text.isBlank c

/-- The first call that follows a path separator, a quote or a blank.  The
text before it is part of the compiler's path, and is on one line.  `lead` is
what has been passed, last character first. -/
def callWithPath? (lead : Text) : Text → Option (Text × Text)
  | [] => none
  | c :: rest =>
    match if isBeforeCompiler c then call? rest else none with
    | some (name, arguments) => some ((c :: lead).reverse ++ name, arguments)
    | none => if c = '\n' then none else callWithPath? (c :: lead) rest

/-- The call of the compiler in a line.  A call with a path is looked for
first. -/
def invocations (t : Text) : List Marker :=
  match (callWithPath? [] t).or (call? t) with
  | some (path, arguments) => [.invocation (Text.trim path) arguments]
  | none => []

/-- The markers of a line, in the order in which they take effect. -/
def ofText (t : Text) : List Marker :=
  projects t ++ toolsets t ++ compilers t ++ architectures t ++ invocations t

end Marker

end BuildEnv
