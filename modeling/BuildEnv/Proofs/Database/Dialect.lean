import BuildEnv.Proofs.CommandLine.FirstWord
import BuildEnv.Proofs.Database.Agreement
import BuildEnv.Proofs.Switch.Composition

/-!
# Rules of splitting and convention of switches

An entry whose command is one text decides twice whether the command calls a
Microsoft compiler.  The first word by the rules of Windows decides the rules by which
the command is split, and the first of the words that come out decides how the
switches are read.

By the rules of Windows the two decisions agree.  By those of the shell they agree
unless the shell alone finds such a compiler in front, which takes a first word that
the two sets of rules read differently: single quotes around the name are enough
(`Entry.dialect_of_words_singleQuotes`).  Such a command is read with the switches of
Microsoft, and its backslashes are gone by then.
-/

namespace BuildEnv

namespace Database

open CommandLine (Front)

/-- The two sets of rules by which a command is split. -/
inductive Rules where
  | windows
  | shell
  deriving DecidableEq, Repr

/-- The words of a command by a set of rules. -/
def Rules.split? : Rules → Text → Option (List Text)
  | windows, command => some (CommandLine.Windows.split command)
  | shell, command => CommandLine.Shell.split? command

namespace Entry

variable {e : Entry} {command : Text} {words : List Text}

/-- The set of rules by which a command is split. -/
def rulesOf (command : Text) : Rules :=
  if isMicrosoftCommand (CommandLine.Windows.split command) then .windows else .shell

/-- The Windows rules are used exactly if they find the Microsoft compiler. -/
theorem rulesOf_eq_windows_iff :
    rulesOf command = .windows ↔ isMicrosoftCommand (CommandLine.Windows.split command) := by
  by_cases h : isMicrosoftCommand (CommandLine.Windows.split command) <;> simp [rulesOf, h]

/-- Switches are read as those of the Microsoft compiler exactly if it is called. -/
theorem dialect_eq_msvc_iff : dialect words = .msvc ↔ isMicrosoftCommand words := by
  by_cases h : isMicrosoftCommand words <;> simp [dialect, h]

/-- A command is split by its rules, and what can fail is a quote that is not closed. -/
theorem splitCommand_eq (command : Text) :
    splitCommand command =
      ((rulesOf command).split? command).elim (.error .openQuote) .ok := by
  unfold splitCommand rulesOf
  by_cases h : isMicrosoftCommand (CommandLine.Windows.split command)
  · rw [if_pos h, if_pos h]
    rfl
  · rw [if_neg h, if_neg h]
    show _ = (CommandLine.Shell.split? command).elim _ _
    cases CommandLine.Shell.split? command <;> rfl

/-- The words of an entry with a command are those of its rules. -/
theorem split?_of_words (hcommand : e.command ≠ []) (hwords : e.words = .ok words) :
    (rulesOf e.command).split? e.command = some words := by
  have hsplit : splitCommand e.command = .ok words := by
    unfold Entry.words at hwords
    cases hvalid : e.validate with
    | error _ =>
        rw [hvalid] at hwords
        cases hwords
    | ok _ =>
        have hnone : e.arguments.isEmpty := by
          cases hsome : e.arguments.isEmpty with
          | true => rfl
          | false =>
              simp only [validate, hsome, List.isEmpty_eq_false_iff.mpr hcommand] at hvalid
              split at hvalid
              · cases hvalid
              · split at hvalid <;> cases hvalid
        rw [hvalid] at hwords
        exact (if_pos hnone).symm.trans hwords
  rw [splitCommand_eq] at hsplit
  cases hfound : (rulesOf e.command).split? e.command with
  | none =>
      rw [hfound] at hsplit
      cases hsplit
  | some found =>
      rw [hfound] at hsplit
      exact congrArg some (Except.ok.inj hsplit)

/-- The rules of Windows are chosen for commands that are read with the switches of
Microsoft, and for no other ones. -/
theorem dialect_of_rules_windows (hsplit : (rulesOf command).split? command = some words)
    (hrules : rulesOf command = .windows) : dialect words = .msvc := by
  rw [hrules] at hsplit
  obtain rfl : CommandLine.Windows.split command = words := Option.some.inj hsplit
  exact dialect_eq_msvc_iff.mpr (rulesOf_eq_windows_iff.mp hrules)

/-- **Where the two decisions agree**: unless the shell alone finds a compiler of
Microsoft in front. -/
theorem dialect_iff_rules (hsplit : (rulesOf command).split? command = some words) :
    (dialect words = .msvc ↔ rulesOf command = .windows) ↔
      ((CommandLine.Shell.split? command).any isMicrosoftCommand →
        isMicrosoftCommand (CommandLine.Windows.split command)) := by
  cases hrules : rulesOf command with
  | windows =>
      have hmicrosoft := rulesOf_eq_windows_iff.mp hrules
      have hdialect := dialect_of_rules_windows hsplit hrules
      simp [hmicrosoft, hdialect]
  | shell =>
      have hnot : ¬ isMicrosoftCommand (CommandLine.Windows.split command) := by
        rw [← rulesOf_eq_windows_iff, hrules]
        exact Rules.noConfusion
      rw [hrules] at hsplit
      have hshell : CommandLine.Shell.split? command = some words := hsplit
      simp [dialect_eq_msvc_iff, hshell, hnot]

/-- A first word that both sets of rules read alike is either such a compiler or not. -/
theorem isMicrosoftCommand_of_front (f : Front)
    (hshell : (CommandLine.Shell.split? f.text).any isMicrosoftCommand) :
    isMicrosoftCommand (CommandLine.Windows.split f.text) := by
  obtain ⟨words, hwords, hmicrosoft⟩ := Option.any_eq_true _ _ |>.mp hshell
  unfold isMicrosoftCommand at hmicrosoft ⊢
  rw [f.head?_windows]
  rwa [f.head?_shell hwords] at hmicrosoft

/-- **Splitting and switches of a command.**  The words of a valid entry with a command
come from the rules that the first word by Windows chooses, and the unit is read from
them with the convention that their own first word chooses.  By the rules of Windows
that is the one of Microsoft.  The converse holds exactly if the shell does not find a
compiler of Microsoft in front where Windows finds none, and it holds for every command
whose first word both read alike. -/
theorem dialect_of_words (hcommand : e.command ≠ []) (hwords : e.words = .ok words) :
    (rulesOf e.command).split? e.command = some words ∧
      e.unit = .ok ⟨e.directory.normalize.absoluteTo e.file,
        settings words e.directory.normalize⟩ ∧
      (rulesOf e.command = .windows → dialect words = .msvc) ∧
      ((dialect words = .msvc ↔ rulesOf e.command = .windows) ↔
        ((CommandLine.Shell.split? e.command).any isMicrosoftCommand →
          isMicrosoftCommand (CommandLine.Windows.split e.command))) ∧
      ∀ f : Front, f.text = e.command →
        (dialect words = .msvc ↔ rulesOf e.command = .windows) := by
  have hsplit := split?_of_words hcommand hwords
  refine ⟨hsplit, unit_of_words hwords, dialect_of_rules_windows hsplit,
    dialect_iff_rules hsplit, ?_⟩
  intro f hf
  refine (dialect_iff_rules hsplit).mpr ?_
  rw [← hf]
  exact isMicrosoftCommand_of_front f

/-- A path in double quotes: the words keep the backslashes of the command. -/
theorem dialect_of_words_doubleQuotes :
    let e := ofCommand ⟨"main.cpp".toList⟩
      "\"C:/Program Files/cl.exe\" /c /IC:\\inc main.cpp".toList ⟨"/src".toList⟩
    let words := ["C:/Program Files/cl.exe".toList, "/c".toList, "/IC:\\inc".toList,
      "main.cpp".toList]
    e.command ≠ [] ∧ e.words = .ok words ∧ rulesOf e.command = .windows ∧
      dialect words = .msvc := by
  intro e words
  have hcommand : e.command ≠ [] := List.cons_ne_nil _ _
  have hsplit : CommandLine.Windows.split e.command = words := by decide +kernel
  have hmicrosoft : isMicrosoftCommand words := by decide +kernel
  have hcut : e.words = splitCommand e.command :=
    words_ofCommand (List.cons_ne_nil _ _) (List.cons_ne_nil _ _) hcommand
  have hwords : e.words = .ok words := by
    rw [hcut, splitCommand, hsplit]
    exact if_pos hmicrosoft
  obtain ⟨-, -, -, -, hfront⟩ := dialect_of_words hcommand hwords
  have hagree := hfront
    { gap := []
      parts := [.quoted "C:/Program Files/cl.exe".toList]
      rest := " /c /IC:\\inc main.cpp".toList
      gap_separates := fun _ hc => absurd hc List.not_mem_nil
      parts_alike := by
        intro part hpart
        rw [List.mem_singleton.mp hpart]
        decide
      begins := ⟨'"', rfl, by decide⟩
      rest_separates := by
        intro c hc
        obtain rfl : ' ' = c := Option.some.inj hc
        rfl } rfl
  have hdialect : dialect words = .msvc := dialect_eq_msvc_iff.mpr hmicrosoft
  exact ⟨hcommand, hwords, hagree.mp hdialect, hdialect⟩

/-- **A name in single quotes.**  The shell takes them off and eats the backslash of the
include directory, and then the words are read with the switches of Microsoft: the
directory `C:\inc` has become a file name below the directory of the entry. -/
theorem dialect_of_words_singleQuotes :
    let e := ofCommand ⟨"main.cpp".toList⟩ "'cl' /c /DNAME /IC:\\inc main.cpp".toList
      ⟨"/src".toList⟩
    let words := ["cl".toList, "/c".toList, "/DNAME".toList, "/IC:inc".toList,
      "main.cpp".toList]
    e.command ≠ [] ∧ e.words = .ok words ∧
      ¬ (dialect words = .msvc ↔ rulesOf e.command = .windows) ∧
      ∃ u, e.unit = .ok u ∧ u.settings.searchPath.directories = [⟨"/src/C:inc".toList⟩] := by
  intro e words
  have hcommand : e.command ≠ [] := List.cons_ne_nil _ _
  have hrules : rulesOf e.command = .shell := by decide +kernel
  have hdialect : dialect words = .msvc := by decide
  have hshell : CommandLine.Shell.split? e.command = some words := by decide +kernel
  have hcut : e.words = splitCommand e.command :=
    words_ofCommand (List.cons_ne_nil _ _) (List.cons_ne_nil _ _) hcommand
  have hwords : e.words = .ok words := by
    rw [hcut, splitCommand_eq, hrules, Rules.split?, hshell]
    rfl
  have hinclude : (Invocation.ofWords .msvc (words.drop 1)).includeDirectories =
      ["C:inc".toList] := by
    cbv
  refine ⟨hcommand, hwords, ?_, _, unit_of_words hwords, ?_⟩
  · rw [hrules, hdialect]
    simp
  · show (SearchPath.ofList ((Invocation.ofWords (dialect words)
      (words.drop 1)).includeDirectories.map _)).directories = _
    rw [hdialect, hinclude]
    decide +kernel

end Entry

end Database

end BuildEnv
