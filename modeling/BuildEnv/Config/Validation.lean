import BuildEnv.Charset.Label
import BuildEnv.Config.Basic
import BuildEnv.Settings.Macro
import BuildEnv.Text.Quoted
import BuildEnv.Text.Shown
import BuildEnv.Toolset.Key

/-!
# Validation of configurations

All problems of a configuration are found at once and in the order of its
fields (`Config.problems`).  One problem is a rejection of its own, several
are one together.
-/

namespace BuildEnv

namespace Config

/-- What can be wrong in a configuration.  Places in lists count from zero. -/
inductive Problem where
  | unsupportedToolset (key : Text)
  | unsupportedCharset (label : Text)
  | emptyPath (list : PathList) (index : Nat)
  /-- A path is the same as one before it. -/
  | repeatedPath (list : PathList) (index : Nat)
  | badMacro (index : Nat) (reason : Macro.ParseError)
  deriving DecidableEq, Repr

/-- The wording of a problem. -/
def Problem.message : Problem → Text
  | unsupportedToolset key => Toolset.unsupportedMessage key
  | unsupportedCharset label => Charset.unsupportedMessage label
  | emptyPath list index =>
    "Empty value for field '".toList ++ list.name ++ "' at: ".toList ++ Text.ofNat index
  | repeatedPath list index =>
    "Duplicate ".toList ++ list.name ++ " entry at: ".toList ++ Text.ofNat index
  | badMacro index reason =>
    "Invalid define at ".toList ++ Text.ofNat index ++ ": ".toList ++ reason.message

/-- The reason for which a macro was refused, as it is shown. -/
def shownReason : Macro.ParseError → Text
  | .emptyName t => Text.shownCase "EmptyName" (Text.quoted t)
  | .blankInName t => Text.shownCase "InvalidName" (Text.quoted t)

/-- A problem as it is shown in a list. -/
def Problem.shown : Problem → Text
  | unsupportedToolset key => Text.shownRecord "UnsupportedToolset" [("key", Text.quoted key)]
  | unsupportedCharset label => Text.shownRecord "UnsupportedCharset" [("charset", Text.quoted label)]
  | emptyPath list index =>
    Text.shownRecord "EmptyValue" [("field", Text.quoted list.name), ("idx", Text.ofNat index)]
  | repeatedPath list index =>
    Text.shownRecord "DuplicateEntry" [("field", Text.quoted list.name), ("idx", Text.ofNat index)]
  | badMacro index reason =>
    Text.shownRecord "InvalidDefine" [("idx", Text.ofNat index), ("source", shownReason reason)]

/-- The problems of a list of paths of which some have been looked at. -/
def pathProblems (list : PathList) (seen : List Path) : List Path → List Problem
  | [] => []
  | p :: paths =>
    let here :=
      if p.text.isEmpty then [Problem.emptyPath list seen.length]
      else if seen.any p.sameAs then [Problem.repeatedPath list seen.length]
      else []
    here ++ pathProblems list (seen ++ [p]) paths

/-- The problem of one macro. -/
def macroProblem (index : Nat) (raw : Text) : Option Problem :=
  match Macro.parse raw with
  | .ok _ => none
  | .error reason => some (.badMacro index reason)

/-- The problems of macros that stand at a place and after it. -/
def macroProblems (index : Nat) : List Text → List Problem
  | [] => []
  | raw :: macros => (macroProblem index raw).toList ++ macroProblems (index + 1) macros

/-- All problems of a configuration. -/
def problems (c : Config) : List Problem :=
  (if (Toolset.ofKey? c.toolset).isSome then [] else [.unsupportedToolset c.toolset])
    ++ (if (Charset.ofLabel? c.charset).isSome then [] else [.unsupportedCharset c.charset])
    ++ PathList.all.flatMap (fun list => pathProblems list [] (c.paths list))
    ++ macroProblems 0 c.macros

/-- Why a configuration is rejected. -/
inductive Rejection where
  | single (problem : Problem)
  | several (problems : List Problem)
  deriving DecidableEq, Repr

/-- The wording of a rejection. -/
def Rejection.message : Rejection → Text
  | single problem => problem.message
  | several problems => "Multiple validation errors: ".toList
      ++ Text.shownList (problems.map Problem.shown)

/-- The rejection for some problems. -/
def Rejection.ofProblems? : List Problem → Option Rejection
  | [] => none
  | [problem] => some (.single problem)
  | problems => some (.several problems)

/-- Checks a configuration.  Its schema was checked when it was read. -/
def validate (c : Config) : Except Rejection Unit :=
  match Rejection.ofProblems? c.problems with
  | none => .ok ()
  | some rejection => .error rejection

end Config

end BuildEnv
