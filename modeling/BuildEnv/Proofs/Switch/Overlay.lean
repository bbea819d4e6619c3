import BuildEnv.Proofs.Settings.Containers
import BuildEnv.Switch.Invocation

/-!
# Explicit macros over a table

An invocation puts its explicit macros over a table in two rounds: all definitions,
and then all removals.  What comes out (`MacroTable.Overlaid`) does not depend on
where the removals stand among the definitions.

* `MacroTable.eraseAll_eq_restrict`: a round of removals keeps the other macros, in
  their order.
* `Invocation.applyMacros_eq`: the two rounds, one after the other.
* `Invocation.overlaid_applyMacros`: presence, value and order of all names.
* `Invocation.applyMacros_congr`: definitions in the same order and removals of
  the same names have the same effect.
-/

namespace BuildEnv

/-- First occurrences may be chosen before or after a choice of elements. -/
theorem filter_eraseDups {α : Type} [BEq α] [LawfulBEq α] (p : α → Bool) (l : List α) :
    l.eraseDups.filter p = (l.filter p).eraseDups := by
  induction hn : l.length using Nat.strongRecOn generalizing l with
  | ind n ih =>
      cases l with
      | nil => rfl
      | cons a rest =>
          have hlength : (rest.filter fun b => !b == a).length < n := by
            have := List.length_filter_le (fun b => !b == a) rest
            simp only [List.length_cons] at hn
            omega
          have hrest := ih _ hlength _ rfl
          rw [List.eraseDups_cons]
          by_cases ha : p a
          · rw [List.filter_cons_of_pos ha, List.filter_cons_of_pos ha, List.eraseDups_cons, hrest,
              List.filter_comm]
          · have hother : (rest.filter p).filter (fun b => !b == a) = rest.filter p := by
              refine List.filter_eq_self.mpr ?_
              intro b hb
              have hne : b ≠ a := by
                rintro rfl
                exact ha (List.mem_filter.mp hb).2
              simpa using hne
            rw [List.filter_cons_of_neg ha, List.filter_cons_of_neg ha, hrest, List.filter_comm,
              hother]

namespace MacroSwitch

/-- The macro that is defined. -/
def macro? : MacroSwitch → Option Macro
  | define m => some m
  | undefine _ => none

/-- The macros that are defined, in order. -/
def definitions (switches : List MacroSwitch) : List Macro :=
  switches.filterMap macro?

/-- The last definition of a name. -/
def lastDefinition? (name : Text) (switches : List MacroSwitch) : Option Macro :=
  (definitions switches).reverse.find? fun m => m.name == name

theorem mem_definitions {m : Macro} {switches : List MacroSwitch} :
    m ∈ definitions switches ↔ define m ∈ switches := by
  rw [definitions, List.mem_filterMap]
  constructor
  · rintro ⟨s, hs, hm⟩
    cases s with
    | define m' =>
        obtain rfl := Option.some.inj hm
        exact hs
    | undefine name => cases hm
  · intro hm
    exact ⟨define m, hm, rfl⟩

end MacroSwitch

namespace MacroTable

open MacroSwitch (definitions lastDefinition?)

/-- A table over which explicit macros were put.  A name is there if the table
had it or a definition names it, and no removal does. -/
structure Overlaid (t : MacroTable) (switches : List MacroSwitch) (after : MacroTable) : Prop where
  contains_iff : ∀ name, after.contains name ↔
    (t.contains name ∨ ∃ m, .define m ∈ switches ∧ m.name = name) ∧ .undefine name ∉ switches
  /-- The last definition of a name counts, and without one the table does. -/
  get?_eq : ∀ name, after.get? name =
    if .undefine name ∈ switches then none
    else (lastDefinition? name switches).or (t.get? name)
  /-- The names of the table come first, in their order, and then the other ones in
  the order of their first definitions. -/
  names_eq : after.names =
    (t.names.filter fun name => .undefine name ∉ switches) ++
      (((definitions switches).map Macro.name).filter fun name =>
        name ∉ t.names ∧ .undefine name ∉ switches).eraseDups

/-- Some of the macros of a table, chosen by their names. -/
def restrict (t : MacroTable) (keep : Text → Bool) : MacroTable :=
  ⟨t.entries.filter fun m => keep m.name⟩

theorem names_restrict (t : MacroTable) (keep : Text → Bool) :
    (t.restrict keep).names = t.names.filter keep := by
  rw [names, names, List.filter_map]
  rfl

theorem get?_restrict (t : MacroTable) (keep : Text → Bool) (name : Text) :
    (t.restrict keep).get? name = if keep name then t.get? name else none := by
  obtain ⟨entries⟩ := t
  show (entries.filter fun m => keep m.name).find? _ = if _ then entries.find? _ else none
  induction entries with
  | nil => split <;> rfl
  | cons e rest ih =>
      by_cases hname : e.name = name
      · subst hname
        by_cases hkeep : keep e.name
        · simp [hkeep]
        · simpa [hkeep] using ih
      · by_cases hkeep : keep e.name
        · simpa [hkeep, hname] using ih
        · simpa [hkeep, hname] using ih

/-- A macro is taken out by its name alone. -/
theorem erase_eq_restrict {t : MacroTable} (h : t.names.Nodup) (name : Text) :
    t.erase name = t.restrict fun other => other ≠ name := by
  obtain ⟨entries⟩ := t
  show (⟨entries.eraseP _⟩ : MacroTable) = ⟨entries.filter _⟩
  congr 1
  induction entries with
  | nil => rfl
  | cons e rest ih =>
      obtain ⟨he, hrest⟩ := List.nodup_cons.mp (show (e.name :: rest.map Macro.name).Nodup from h)
      by_cases hname : e.name = name
      · subst hname
        have hothers : rest.filter (fun m => decide (m.name ≠ e.name)) = rest := by
          refine List.filter_eq_self.mpr ?_
          intro m hm
          refine decide_eq_true ?_
          intro heq
          exact he (heq ▸ List.mem_map_of_mem hm)
        simp only [ne_eq, beq_self_eq_true, List.eraseP_cons_of_pos, not_true_eq_false,
          decide_false, Bool.false_eq_true, not_false_eq_true, List.filter_cons_of_neg]
        exact hothers.symm
      · simpa [hname] using ih hrest

/-- **A round of removals.** -/
theorem eraseAll_eq_restrict {t : MacroTable} (h : t.names.Nodup) (names : List Text) :
    names.foldl erase t = t.restrict fun name => name ∉ names := by
  induction names generalizing t with
  | nil => simp [restrict]
  | cons name rest ih =>
      rw [List.foldl_cons, ih (nodup_names_erase h name), erase_eq_restrict h]
      simp only [restrict, List.filter_filter, List.mem_cons, not_or, Bool.decide_and,
        Bool.and_comm, ne_eq]

end MacroTable

namespace Invocation

open MacroSwitch (lastDefinition? mem_definitions)

variable {i j : Invocation} {t : MacroTable}

/-- The definitions of an invocation are those of its macro switches. -/
theorem definitions_eq (i : Invocation) :
    i.definitions = MacroSwitch.definitions i.macroSwitches :=
  rfl

theorem mem_removals {name : Text} : name ∈ i.removals ↔ .undefine name ∈ i.macroSwitches := by
  rw [removals, List.mem_filterMap]
  constructor
  · rintro ⟨s, hs, hname⟩
    cases s with
    | define m => cases hname
    | undefine other =>
        obtain rfl := Option.some.inj hname
        exact hs
  · intro hname
    exact ⟨.undefine name, hname, rfl⟩

/-- **The two rounds**: of the macros after all definitions, those stay that no
removal names. -/
theorem applyMacros_eq (i : Invocation) (h : t.names.Nodup) :
    i.applyMacros t = (t.insertAll i.definitions).restrict fun name => name ∉ i.removals := by
  refine MacroTable.eraseAll_eq_restrict ?_ i.removals
  rw [MacroTable.names_insertAll h]
  exact nodup_eraseDups _

/-- **Explicit macros.**  Presence, value and order of every name. -/
theorem overlaid_applyMacros (i : Invocation) (h : t.names.Nodup) :
    t.Overlaid i.macroSwitches (i.applyMacros t) := by
  have hget : ∀ name, (i.applyMacros t).get? name =
      if .undefine name ∈ i.macroSwitches then none
      else (lastDefinition? name i.macroSwitches).or (t.get? name) := by
    intro name
    rw [applyMacros_eq i h, MacroTable.get?_restrict, MacroTable.get?_insertAll, definitions_eq]
    simp only [mem_removals, decide_eq_true_eq, ite_not]
    rfl
  refine ⟨?_, hget, ?_⟩
  · intro name
    rw [MacroTable.contains, hget]
    split
    · next hname => simp [hname]
    · next hname =>
        have hdefined : (lastDefinition? name i.macroSwitches).isSome ↔
            ∃ m, .define m ∈ i.macroSwitches ∧ m.name = name := by
          rw [lastDefinition?, List.find?_isSome]
          simp only [List.mem_reverse, mem_definitions, beq_iff_eq]
        rw [Option.isSome_or, Bool.or_eq_true, hdefined]
        simp only [MacroTable.contains, hname, not_false_eq_true, and_true]
        exact or_comm
  · rw [applyMacros_eq i h, MacroTable.names_restrict, MacroTable.names_insertAll h, definitions_eq,
      List.eraseDups_append, eraseDups_of_nodup h, List.filter_append, filter_eraseDups,
      List.removeAll, List.filter_filter]
    simp only [mem_removals]
    congr 2
    refine List.filter_congr ?_
    intro name _
    simp [Bool.and_comm]

/-- **The order of definitions and removals** among each other does not matter. -/
theorem applyMacros_congr (h : t.names.Nodup) (hdefinitions : j.definitions = i.definitions)
    (hremovals : ∀ name, name ∈ j.removals ↔ name ∈ i.removals) :
    j.applyMacros t = i.applyMacros t := by
  rw [applyMacros_eq j h, applyMacros_eq i h, hdefinitions]
  simp only [hremovals]

end Invocation

end BuildEnv
