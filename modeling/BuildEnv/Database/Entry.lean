import BuildEnv.CommandLine.Shell
import BuildEnv.CommandLine.Windows
import BuildEnv.Json.Value
import BuildEnv.Settings.Unit
import BuildEnv.Switch.Invocation
import BuildEnv.Toolset.Predefined

/-!
# Entries of a compilation database

A compilation database lists how source files were compiled.  An entry gives
the file, the working directory, and the command either as a list of words or
as one text.  The command of a Microsoft compiler is split by the rules of
Windows and read with its switches, since its paths are full of backslashes;
other commands are split by the rules of the shell and read as ones of GCC.

`Entry.unit` computes the settings that an entry gives to its file.
-/

namespace BuildEnv

namespace Database

/-- How one source file was compiled. -/
structure Entry where
  file : Path
  /-- The words of the command; the first one is the compiler. -/
  arguments : List Text
  /-- The command as one text. -/
  command : Text
  /-- Relative paths of the entry start here. -/
  directory : Path
  output : Option Path
  deriving DecidableEq, Repr

/-- Why an entry tells nothing. -/
inductive EntryError where
  | emptyFile
  | emptyDirectory
  /-- Neither words nor text are given as the command. -/
  | noCommand
  /-- Both words and text are given as the command. -/
  | twoCommands
  /-- A quote of the command is not closed. -/
  | openQuote
  deriving DecidableEq, Repr

/-- The wording of the error. -/
def EntryError.message : EntryError → Text
  | emptyFile => "Entry has an empty file field".toList
  | emptyDirectory => "Entry has an empty directory field".toList
  | noCommand => "Both command and arguments fields are empty".toList
  | twoCommands => "Both command and arguments fields are present".toList
  | openQuote => "Entry has an invalid command field: missing closing quote".toList

namespace Entry

/-- The entry of a command that is one text. -/
def ofCommand (file : Path) (command : Text) (directory : Path) : Entry :=
  ⟨file, [], command, directory, none⟩

/-- Checks that the fields fit together. -/
def validate (e : Entry) : Except EntryError Unit :=
  if e.file.text.isEmpty then .error .emptyFile
  else if e.directory.text.isEmpty then .error .emptyDirectory
  else if e.command.isEmpty && e.arguments.isEmpty then .error .noCommand
  else if !e.command.isEmpty && !e.arguments.isEmpty then .error .twoCommands
  else .ok ()

/-- The names of the compilers that take the switches of Microsoft's. -/
def microsoftCompilers : List Text :=
  ["cl".toList, "clang-cl".toList]

/-- Whether a word names a compiler that takes the switches of Microsoft's. -/
def isMicrosoftCompiler (executable : Text) : Bool :=
  match (Path.ofLog executable).stem? with
  | none => false
  | some stem => microsoftCompilers.any (Text.sameIgnoringCase stem)

/-- Whether a command starts with such a compiler. -/
def isMicrosoftCommand (words : List Text) : Bool :=
  words.head?.any isMicrosoftCompiler

/-- The words of a command that is one text. -/
def splitCommand (command : Text) : Except EntryError (List Text) :=
  let words := CommandLine.Windows.split command
  if isMicrosoftCommand words then .ok words
  else match CommandLine.Shell.split? command with
    | some words => .ok words
    | none => .error .openQuote

/-- The words of the entry's command. -/
def words (e : Entry) : Except EntryError (List Text) := do
  e.validate
  if e.arguments.isEmpty then splitCommand e.command else .ok e.arguments

/-- The convention by which the switches of a command are read. -/
def dialect (words : List Text) : Switch.Dialect :=
  if isMicrosoftCommand words then .msvc else .gcc

/-- The macros from which the explicit ones start.  A database tells neither
the version of the compiler nor the architecture. -/
def predefined (d : Switch.Dialect) (i : Invocation) : MacroTable :=
  match d with
  | .msvc => Profile.predefined ⟨none, none, .unspecified, i.features⟩
  | .gcc => .empty

/-- The settings that some words give in a directory. -/
def settings (words : List Text) (directory : Path) : UnitSettings :=
  let d := dialect words
  let i := Invocation.ofWords d (words.drop 1)
  { searchPath := .ofList (i.includeDirectories.map fun p => directory.absoluteTo (.ofLog p))
    macros := i.applyMacros (predefined d i) }

/-- The file of the entry with its settings. -/
def unit (e : Entry) : Except EntryError UnitRecord := do
  let words ← e.words
  let directory := e.directory.normalize
  .ok ⟨directory.absoluteTo e.file, settings words directory⟩

/-- The record of an entry whose command is split. -/
theorem unit_of_words {e : Entry} {words : List Text} (hwords : e.words = .ok words) :
    e.unit = .ok ⟨e.directory.normalize.absoluteTo e.file,
      settings words e.directory.normalize⟩ := by
  rw [unit, hwords]
  rfl

/-- The entry as a value of JSON.  Empty fields that may be missing are left
out. -/
def toJson (e : Entry) : Json :=
  .object (
    [("file".toList, .string e.file.text)]
    ++ (if e.arguments.isEmpty then []
      else [("arguments".toList, .array (e.arguments.map .string))])
    ++ (if e.command.isEmpty then [] else [("command".toList, .string e.command)])
    ++ [("directory".toList, .string e.directory.text)]
    ++ match e.output with
      | none => []
      | some output => [("output".toList, .string output.text)])

/-- A string. -/
def text? : Json → Option Text
  | .string t => some t
  | _ => none

/-- A list of strings. -/
def texts? : Json → Option (List Text)
  | .array items => items.mapM text?
  | _ => none

/-- A string, or nothing. -/
def output? : Json → Option (Option Path)
  | .null => some none
  | .string t => some (some ⟨t⟩)
  | _ => none

/-- A field that may be missing. -/
def fieldOr {α : Type} (missing : α) (read : Json → Option α) : Option Json → Option α
  | none => some missing
  | some v => read v

/-- The entry of an object.  Keys of other names do not matter. -/
def ofFields? (fields : List (Text × Json)) : Option Entry := do
  let field (key : String) := Json.field? fields key.toList
  let file ← (← field "file") |> text?
  let arguments ← fieldOr [] texts? (field "arguments")
  let command ← fieldOr [] text? (field "command")
  let directory ← (← field "directory") |> text?
  let output ← fieldOr none output? (field "output")
  some ⟨⟨file⟩, arguments, command, ⟨directory⟩, output⟩

/-- The entry of a list: file, words, text, directory and, if it is there,
output. -/
def ofItems? : List Json → Option Entry
  | file :: arguments :: command :: directory :: rest => do
    let file ← text? file
    let arguments ← texts? arguments
    let command ← text? command
    let directory ← text? directory
    let output ← match rest with
      | [] => some none
      | [v] => output? v
      | _ => none
    some ⟨⟨file⟩, arguments, command, ⟨directory⟩, output⟩
  | _ => none

/-- The entry that a value of JSON is. -/
def ofJson? : Json → Option Entry
  | .object fields => ofFields? fields
  | .array items => ofItems? items
  | _ => none

end Entry

end Database

end BuildEnv
