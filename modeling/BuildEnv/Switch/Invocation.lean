import BuildEnv.Message
import BuildEnv.Settings.MacroTable
import BuildEnv.Switch.Walk

/-!
# Invocations

What the words of one compiler invocation say about the preprocessor: the
sources, the include directories, the explicit macros and the features.  An
invocation is a fold over the steps of the walk.

Explicit macros act on a macro table in two rounds: all definitions in order,
then all removals.
-/

namespace BuildEnv

/-- An explicit definition or removal of a macro. -/
inductive MacroSwitch where
  | define (m : Macro)
  | undefine (name : Text)
  deriving DecidableEq, Repr

/-- What a compiler invocation says about the preprocessor. -/
structure Invocation where
  sources : List Text
  includeDirectories : List Text
  /-- The explicit definitions and removals, in the order of the words. -/
  macroSwitches : List MacroSwitch
  features : FeatureSet

namespace Invocation

/-- The invocation without words. -/
def empty : Invocation := ⟨[], [], [], .empty⟩

/-- Whether a letter of the exception switch is turned on: a dash after it
turns it off.  The last occurrence of the letter counts, and there is no
answer where it does not occur. -/
def letterState (letter : Char) : (letters : Text) → Option Bool
  | [] => none
  | [c] => if c = letter then some true else none
  | c :: d :: rest =>
    let later := if d = '-' then letterState letter rest else letterState letter (d :: rest)
    match later with
    | some state => some state
    | none => if c = letter then some (d != '-') else none

/-- Whether the letters of the exception switch turn exceptions on: `s` for
synchronous and `a` for asynchronous ones.  Other letters alone say nothing
about it. -/
def exceptionModel (letters : Text) : Option Bool :=
  match letterState 's' letters, letterState 'a' letters with
  | none, none => none
  | s, a => some (s.getD false || a.getD false)

/-- The feature of an instruction set. -/
def instructionSet? (name : Text) : Option Feature :=
  (List.find? (fun entry => entry.1.toList == name)
    [("IA32", Feature.fpIa32), ("SSE", .fpSse), ("AVX", .avx), ("AVX2", .avx2),
      ("AVX512", .avx512), ("ARMv7VE", .armFp), ("VFPv4", .armFp)]).map (·.2)

/-- The feature of a language standard. -/
def languageStandard? (name : Text) : Option Feature :=
  (List.find? (fun entry => entry.1.toList == name)
    [("c++14", Feature.cpp14), ("c++17", .cpp17), ("c++20", .cpp20),
      ("c++latest", .cppLatest)]).map (·.2)

/-- The effect of a switch on the features. -/
def updateFeatures (features : FeatureSet) (meaning : Switch.Meaning) (argument : Text) :
    FeatureSet :=
  match meaning with
  | .exceptionModel => match exceptionModel argument with
    | some true => features.insertAll [.exceptions]
    | some false => features.eraseAll [.exceptions]
    | none => features
  | .instructionSet =>
    (features.eraseAll Feature.instructionSets).insertAll (instructionSet? argument).toList
  | .languageStandard =>
    (features.eraseAll Feature.languageStandards).insertAll (languageStandard? argument).toList
  | .enables more => features.insertAll more
  | .disables fewer => features.eraseAll fewer
  | _ => features

/-- The explicit macros of a switch.  A definition that cannot be read is
none. -/
def macroSwitchesOf (meaning : Switch.Meaning) (argument : Text) : List MacroSwitch :=
  match meaning with
  | .define => match Macro.parse argument with
    | .ok m => [.define m]
    | .error _ => []
  | .undefine => [.undefine (Text.trim argument)]
  | _ => []

/-- The effect of a switch. -/
def addSwitch (i : Invocation) (found : Switch.Match) : Invocation :=
  let argument := found.argument.getD []
  { sources := i.sources ++ if found.meaning = .source then [argument] else []
    includeDirectories :=
      i.includeDirectories ++ if found.meaning = .includeDirectory then [argument] else []
    macroSwitches := i.macroSwitches ++ macroSwitchesOf found.meaning argument
    features := updateFeatures i.features found.meaning argument }

/-- The effect of a step of the walk. -/
def addStep (i : Invocation) : Switch.Step → Invocation
  | .sourceFile word => { i with sources := i.sources ++ [word] }
  | .switch found => i.addSwitch found
  | .responseFile _ => i
  | .unknown _ => i

/-- What a step gives to say. -/
def messagesOfStep : Switch.Step → List Message
  | .responseFile word => [⟨.debug, "Response file is not followed: ".toList ++ word⟩]
  | .switch found =>
    let argument := found.argument.getD []
    match found.meaning with
    | .define => match Macro.parse argument with
      | .ok _ => []
      | .error e => [⟨.warning, "Ignoring definition: ".toList ++ e.message⟩]
    | .instructionSet => match instructionSet? argument with
      | some _ => []
      | none =>
        [⟨.debug, "Instruction set without predefined macros: ".toList ++ argument⟩]
    | _ => []
  | _ => []

/-- The invocation that some words describe. -/
def ofWords (d : Switch.Dialect) (words : List Text) : Invocation :=
  (d.walk words).foldl addStep empty

/-- What the words of an invocation give to say. -/
def messages (d : Switch.Dialect) (words : List Text) : List Message :=
  (d.walk words).flatMap messagesOfStep

/-- The macros that are defined explicitly, in order. -/
def definitions (i : Invocation) : List Macro :=
  i.macroSwitches.filterMap fun
    | .define m => some m
    | .undefine _ => none

/-- The names that are removed explicitly, in order. -/
def removals (i : Invocation) : List Text :=
  i.macroSwitches.filterMap fun
    | .define _ => none
    | .undefine name => some name

/-- The effect of the explicit macros on a table: the definitions in order,
then the removals, which take predefined macros away as well. -/
def applyMacros (i : Invocation) (t : MacroTable) : MacroTable :=
  i.removals.foldl MacroTable.erase (t.insertAll i.definitions)

end Invocation

end BuildEnv
