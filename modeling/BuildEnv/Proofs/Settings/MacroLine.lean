import Mathlib.Data.List.TakeWhile
import BuildEnv.Settings.Unit

/-!
# Macros read from their lines

A report shows a macro as one line: its name, and after a space its value.  The
line is read again up to the first space (`Macro.ofLine`), which gives the macro
back if its name has no blank in it; but the line does not tell a missing value
from an empty one (`Macro.ofLine_text`).  Whatever was read by `Macro.parse` has
such a name (`Macro.hasPlainName_of_parse`).
-/

namespace BuildEnv

namespace Macro

/-- Reads a line: the name up to the first space, and the value after it. -/
def ofLine (line : Text) : Macro :=
  ⟨line.takeWhile (· != ' '), (line.dropWhile (· != ' ')).tail?⟩

/-- What a line tells of a macro: an empty value is as good as none. -/
def shown (m : Macro) : Macro :=
  match m.value with
  | some [] => ⟨m.name, none⟩
  | _ => m

/-- No blank is in the name. -/
def HasPlainName (m : Macro) : Prop :=
  ¬ m.name.any Text.isBlank

instance (m : Macro) : Decidable m.HasPlainName :=
  inferInstanceAs (Decidable (¬ m.name.any Text.isBlank))

@[simp]
theorem name_shown (m : Macro) : m.shown.name = m.name := by
  unfold shown
  split <;> rfl

/-- **A line is read again** up to the difference between an empty value and
none. -/
theorem ofLine_text {m : Macro} (h : m.HasPlainName) : ofLine m.text = m.shown := by
  obtain ⟨name, value⟩ := m
  have hname : ∀ c ∈ name, (c != ' ') = true := by
    intro c hc
    have hne : c ≠ ' ' := by
      rintro rfl
      exact h (List.any_eq_true.mpr ⟨' ', hc, rfl⟩)
    simpa using hne
  have hwhole : ofLine name = ⟨name, none⟩ := by
    rw [ofLine, List.takeWhile_eq_self_iff.mpr hname, List.dropWhile_eq_nil_iff.mpr hname]
    rfl
  cases value with
  | none => exact hwhole
  | some value =>
      cases value with
      | nil => exact hwhole
      | cons d value =>
          show ofLine (name ++ ' ' :: d :: value) = ⟨name, some (d :: value)⟩
          rw [ofLine, List.takeWhile_append_of_pos hname, List.dropWhile_append_of_pos hname]
          simp

/-- What is read as a macro has no blank in its name. -/
theorem hasPlainName_of_parse {raw : Text} {m : Macro} (h : parse raw = .ok m) :
    m.HasPlainName := by
  unfold parse at h
  simp only at h
  split at h
  · cases h
  · split at h
    · cases h
    · next hblank =>
      cases h
      exact hblank

end Macro

namespace MacroTable

/-- What the lines of a table tell. -/
def shown (t : MacroTable) : MacroTable :=
  ⟨t.entries.map Macro.shown⟩

@[simp]
theorem names_shown (t : MacroTable) : t.shown.names = t.names := by
  simp [shown, names]

/-- No name of the table has a blank in it. -/
def PlainNames (t : MacroTable) : Prop :=
  ∀ m ∈ t.entries, m.HasPlainName

instance (t : MacroTable) : Decidable t.PlainNames :=
  inferInstanceAs (Decidable (∀ m ∈ t.entries, m.HasPlainName))

/-- **The lines of a table are read again.** -/
theorem PlainNames.map_ofLine {t : MacroTable} (h : t.PlainNames) :
    t.texts.map Macro.ofLine = t.shown.entries := by
  rw [texts, List.map_map]
  exact List.map_congr_left fun m hm => Macro.ofLine_text (h m hm)

theorem plainNames_empty : PlainNames .empty := by
  intro m hm
  cases hm

/-- After an insertion there is nothing but the new entry and the old ones. -/
theorem mem_insertEntry {m x : Macro} {entries : List Macro} (hx : x ∈ insertEntry m entries) :
    x = m ∨ x ∈ entries := by
  induction entries with
  | nil => exact .inl (List.mem_singleton.mp hx)
  | cons e rest ih =>
      unfold insertEntry at hx
      split at hx
      · rcases List.mem_cons.mp hx with rfl | hx
        · exact .inl rfl
        · exact .inr (List.mem_cons_of_mem _ hx)
      · rcases List.mem_cons.mp hx with rfl | hx
        · exact .inr List.mem_cons_self
        · exact (ih hx).imp id (List.mem_cons_of_mem _)

/-- A macro with a plain name keeps the names plain. -/
theorem PlainNames.insert {t : MacroTable} (h : t.PlainNames) {m : Macro}
    (hm : m.HasPlainName) : (t.insert m).PlainNames := by
  intro x hx
  rcases mem_insertEntry hx with rfl | hx
  · exact hm
  · exact h x hx

theorem PlainNames.insertAll {t : MacroTable} (h : t.PlainNames) {ms : List Macro}
    (hms : ∀ m ∈ ms, m.HasPlainName) : (t.insertAll ms).PlainNames := by
  induction ms generalizing t with
  | nil => exact h
  | cons m rest ih =>
      exact ih (h.insert (hms m List.mem_cons_self)) fun x hx => hms x (List.mem_cons_of_mem _ hx)

/-- Removals keep the names plain. -/
theorem PlainNames.eraseAll {t : MacroTable} (h : t.PlainNames) (names : List Text) :
    (names.foldl MacroTable.erase t).PlainNames := by
  induction names generalizing t with
  | nil => exact h
  | cons name rest ih => exact ih fun m hm => h m (List.mem_of_mem_eraseP hm)

end MacroTable

namespace UnitSettings

/-- What the lines of a report tell of some settings. -/
def shown (s : UnitSettings) : UnitSettings :=
  ⟨s.searchPath, s.macros.shown⟩

end UnitSettings

/-- What the lines of a report tell of a record. -/
def UnitRecord.shown (u : UnitRecord) : UnitRecord :=
  ⟨u.file, u.settings.shown⟩

end BuildEnv
