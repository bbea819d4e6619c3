import BuildEnv.Switch.Rule

/-!
# Switch dialects

The two conventions for switches: the one of the Microsoft compiler, whose
switches start with `/` or `-`, and the one of GCC and Clang, whose switches
start with `-`.  A dialect has a table of rules, a canonical form of its
switches, and a rule for what else is a source file.
-/

namespace BuildEnv

namespace Switch

/-- A convention for switches. -/
inductive Dialect where
  | msvc
  | gcc
  deriving DecidableEq, Repr

private def bare (switch : String) (meaning : Meaning) : Rule :=
  ⟨.bare, switch.toList, meaning⟩

private def gluedOrNext (switch : String) (meaning : Meaning) : Rule :=
  ⟨.gluedOrNext, switch.toList, meaning⟩

private def glued (switch : String) (meaning : Meaning) : Rule :=
  ⟨.glued, switch.toList, meaning⟩

/-- The switches of the Microsoft compiler. -/
def msvcTable : List Rule :=
  [gluedOrNext "/I" .includeDirectory,
    gluedOrNext "/external:I" .includeDirectory,
    gluedOrNext "/D" .define,
    gluedOrNext "/U" .undefine,
    gluedOrNext "/FI" .ignored,
    gluedOrNext "/AI" .ignored,
    gluedOrNext "/FU" .ignored,
    gluedOrNext "/Tp" .source,
    gluedOrNext "/Tc" .source,
    glued "/EH" .exceptionModel,
    bare "/GX" (.enables [.exceptions]),
    bare "/GX-" (.disables [.exceptions]),
    bare "/GR" (.enables [.rtti]),
    bare "/GR-" (.disables [.rtti]),
    bare "/openmp" (.enables [.openMp]),
    glued "/openmp:" (.enables [.openMp]),
    bare "/ZW" (.enables [.winRt]),
    glued "/ZW:" (.enables [.winRt]),
    bare "/clr" (.enables [.clr]),
    bare "/clr:pure" (.enables [.clr, .clrPure]),
    bare "/clr:safe" (.enables [.clr, .clrSafe]),
    glued "/clr:" (.enables [.clr]),
    glued "/std:" .languageStandard,
    bare "/Zc:__cplusplus" (.enables [.conformantCplusplus]),
    bare "/Zc:__cplusplus-" (.disables [.conformantCplusplus]),
    bare "/Zc:wchar_t" (.enables [.nativeWcharT]),
    bare "/Zc:wchar_t-" (.disables [.nativeWcharT]),
    bare "/J" (.enables [.unsignedChar]),
    bare "/MT" (.enables [.multithreadedRuntime]),
    bare "/MTd" (.enables [.multithreadedRuntime, .debugRuntime]),
    bare "/MD" (.enables [.multithreadedRuntime, .dynamicRuntime]),
    bare "/MDd" (.enables [.multithreadedRuntime, .dynamicRuntime, .debugRuntime]),
    bare "/LD" (.enables [.multithreadedRuntime]),
    bare "/LDd" (.enables [.multithreadedRuntime, .debugRuntime]),
    bare "/Zl" (.enables [.noDefaultLib]),
    glued "/arch:" .instructionSet,
    bare "/Wp64" (.enables [.wp64]),
    glued "/RTC" (.enables [.runtimeChecks]),
    bare "/link" .endOfOptions]

/-- The switches of GCC and Clang that matter for the preprocessor, and those
whose next word must not be taken for a source. -/
def gccTable : List Rule :=
  [gluedOrNext "-I" .includeDirectory,
    gluedOrNext "-isystem" .includeDirectory,
    gluedOrNext "-iquote" .includeDirectory,
    gluedOrNext "-idirafter" .includeDirectory,
    gluedOrNext "-D" .define,
    gluedOrNext "-U" .undefine,
    gluedOrNext "-include" .ignored,
    gluedOrNext "-imacros" .ignored,
    gluedOrNext "-o" .ignored,
    gluedOrNext "-x" .ignored,
    gluedOrNext "-MF" .ignored,
    gluedOrNext "-MT" .ignored,
    gluedOrNext "-MQ" .ignored,
    bare "-isysroot" .ignored]

/-- The table of a dialect. -/
def Dialect.table : Dialect → List Rule
  | msvc => msvcTable
  | gcc => gccTable

/-- The rules of a dialect in the order in which they are tried. -/
def Dialect.rules (d : Dialect) : List Rule :=
  Rule.longestFirst d.table

/-- A switch in the form in which the rules are written; other words have
none.  A dash or slash alone is no switch. -/
def Dialect.canonical? : Dialect → Text → Option Text
  | msvc, '-' :: c :: rest => some ('/' :: c :: rest)
  | msvc, '/' :: c :: rest => some ('/' :: c :: rest)
  | gcc, '-' :: c :: rest => some ('-' :: c :: rest)
  | _, _ => none

/-- The switch that the words begin with, by rules in the order in which they are
tried. -/
def Dialect.matchBy? (d : Dialect) (tried : List Rule) : List Text → Option Match
  | [] => none
  | word :: next => do
    let switch ← d.canonical? word
    firstMatch? tried switch next

/-- The switch that the words begin with. -/
def Dialect.match? (d : Dialect) (words : List Text) : Option Match :=
  d.matchBy? d.rules words

/-- The extensions of the files that are compiled. -/
def sourceExtensions : List String :=
  ["h", "hh", "H", "hp", "hxx", "hpp", "HPP", "h++", "tcc", "c", "C", "cc", "CC", "c++", "C++",
    "cxx", "cpp", "CPP", "cp", "ixx", "cppm"]

/-- Whether what follows the last dot is the extension of a source file. -/
def isSourceName (name : Text) : Bool :=
  match (Text.splitOn '.' name).reverse with
  | extension :: _ :: _ => sourceExtensions.any fun e => e.toList == extension
  | _ => false

/-- Whether a word that is no switch is a source file.  A word with a leading
slash has to be the path of a file, not of a switch: it needs one more
slash. -/
def Dialect.isSource (d : Dialect) (word : Text) : Bool :=
  match d, word with
  | msvc, '/' :: rest => rest.contains '/' && isSourceName word
  | _, '-' :: _ => false
  | _, _ => isSourceName word

end Switch

end BuildEnv
