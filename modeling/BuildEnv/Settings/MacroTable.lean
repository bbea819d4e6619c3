import BuildEnv.Settings.Macro

/-!
# Macro tables

A macro table holds macros that are unique by name, in the order in which
their names came.  A later macro of the same name takes the value over and
keeps the place; a name that was removed and comes again goes to the end.
-/

namespace BuildEnv

/-- Macros unique by name, in the order of their names' arrival. -/
structure MacroTable where
  entries : List Macro
  deriving DecidableEq, Repr

namespace MacroTable

/-- The table without macros. -/
def empty : MacroTable := ⟨[]⟩

/-- Puts a macro at the place of its name, at the end if the name is new. -/
def insertEntry (m : Macro) : List Macro → List Macro
  | [] => [m]
  | e :: rest => if e.name = m.name then m :: rest else e :: insertEntry m rest

/-- Adds a macro.  One of the same name is overwritten in its place. -/
def insert (t : MacroTable) (m : Macro) : MacroTable :=
  ⟨insertEntry m t.entries⟩

/-- Adds macros from first to last. -/
def insertAll (t : MacroTable) (macros : List Macro) : MacroTable :=
  macros.foldl insert t

/-- The table of a list of macros. -/
def ofList (macros : List Macro) : MacroTable :=
  empty.insertAll macros

/-- The macro of a name. -/
def get? (t : MacroTable) (name : Text) : Option Macro :=
  t.entries.find? fun m => m.name == name

/-- Whether a name is in the table. -/
def contains (t : MacroTable) (name : Text) : Bool :=
  (t.get? name).isSome

/-- Takes the macro of a name out; the others keep their order. -/
def erase (t : MacroTable) (name : Text) : MacroTable :=
  ⟨t.entries.eraseP fun m => m.name == name⟩

/-- Takes the macro of a name out and hands it over, if the name is in the table. -/
def remove (t : MacroTable) (name : Text) : Option Macro × MacroTable :=
  match t.entries.findIdx? fun m => m.name == name with
  | none => (none, t)
  | some i => (t.entries[i]?, ⟨t.entries.eraseIdx i⟩)

/-- The names, in order. -/
def names (t : MacroTable) : List Text :=
  t.entries.map Macro.name

/-- How many macros there are. -/
def size (t : MacroTable) : Nat :=
  t.entries.length

/-- The macros as `#define` lines. -/
def texts (t : MacroTable) : List Text :=
  t.entries.map Macro.text

end MacroTable

end BuildEnv
