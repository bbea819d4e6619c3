import BuildEnv.Database.Entry
import BuildEnv.Proofs.Settings.MacroHistory
import BuildEnv.Proofs.Switch.MacroSwitch

/-!
# Explicit macros in the order of the command line

GCC and Clang take definitions and removals in the order in which they stand: a
definition counts if no removal of the name follows it (`MacroTable.get?_inOrder`).
An entry of a database puts them on the table in two rounds instead, all definitions
and then all removals.  The two ways differ exactly for a name that is defined again
behind its removal.

* `MacroTable.restrict_applyInOrder`: of names that are never removed, both ways
  leave the same.
* `MacroTable.applyMacros_empty_eq_iff`: when the two ways leave the same table.
* `Database.Entry.macros_in_rounds`: what an entry of another compiler than
  Microsoft's gives, and when this is what the order of its words gives.
* `Database.Entry.macros_in_rounds_redefined`: an entry for which it is not.
-/

namespace BuildEnv

namespace MacroSwitch

/-- A further switch decides if it defines the name, and changes nothing otherwise. -/
theorem lastDefinition?_append_singleton (name : Text) (switches : List MacroSwitch)
    (s : MacroSwitch) :
    lastDefinition? name (switches ++ [s]) =
      (s.macro?.filter fun m => m.name = name).or (lastDefinition? name switches) := by
  rw [lastDefinition?, lastDefinition?, definitions, definitions, List.filterMap_append,
    List.reverse_append, List.find?_append]
  cases s with
  | undefine other => rfl
  | define m => by_cases h : m.name = name <;> simp [macro?, h, Option.filter_some]

/-- Of a name that is never removed, the last definition stands. -/
theorem standing?_eq_lastDefinition? {name : Text} {switches : List MacroSwitch}
    (h : undefine name ∉ switches) : standing? name switches = lastDefinition? name switches := by
  induction switches using List.reverseRecOn with
  | nil => rfl
  | append_singleton rest s ih =>
      rw [List.mem_append, not_or] at h
      rw [standing?_append_singleton, lastDefinition?_append_singleton, ih h.1]
      cases s with
      | define m => by_cases hm : m.name = name <;> simp [about, macro?, hm, Option.filter_some]
      | undefine other =>
          have hother : other ≠ name := by
            rintro rfl
            exact h.2 (List.mem_singleton_self _)
          simp [about, macro?, hother]

end MacroSwitch

namespace MacroTable

open MacroSwitch (definitions standing?)

/-! ### Names that are never removed -/

section Kept

variable {keep : Text → Bool} {t t' : MacroTable}

/-- Leaving names out before or after an insertion comes to the same. -/
theorem filter_insertEntry (m : Macro) (entries : List Macro) :
    ((insertEntry m entries).filter fun e => keep e.name) =
      if keep m.name then insertEntry m (entries.filter fun e => keep e.name)
      else entries.filter fun e => keep e.name := by
  induction entries with
  | nil => by_cases hm : keep m.name <;> simp [insertEntry, hm]
  | cons e rest ih =>
      rw [insertEntry]
      by_cases he : e.name = m.name
      · by_cases hm : keep m.name <;> simp [insertEntry, he, hm]
      · by_cases hkeep : keep e.name
        · by_cases hm : keep m.name <;> simp [insertEntry, he, hkeep, hm, ih]
        · simp [he, hkeep, ih]

/-- A table without some names ignores the insertion of one of them. -/
theorem restrict_insert (t : MacroTable) (m : Macro) :
    (t.insert m).restrict keep =
      if keep m.name then (t.restrict keep).insert m else t.restrict keep := by
  show (⟨(insertEntry m t.entries).filter fun e => keep e.name⟩ : MacroTable) = _
  rw [filter_insertEntry]
  split <;> rfl

/-- A table without some names ignores the removal of one of them. -/
theorem restrict_erase (h : t.names.Nodup) {name : Text} (hname : keep name = false) :
    (t.erase name).restrict keep = t.restrict keep := by
  rw [erase_eq_restrict h, restrict, restrict, restrict, List.filter_filter]
  congr 1
  refine List.filter_congr ?_
  intro m _
  by_cases hm : m.name = name
  · simp [hm, hname]
  · simp [hm]

/-- **Of names that are never removed**, switches in their order leave what their
definitions alone do. -/
theorem restrict_applyInOrder (ht : t.Built) (h : t.restrict keep = t'.restrict keep)
    {switches : List MacroSwitch} (hkeep : ∀ name, .undefine name ∈ switches → keep name = false) :
    (t.applyInOrder switches).restrict keep =
      (t'.insertAll (definitions switches)).restrict keep := by
  -- The two tables agree on the kept names, and nothing is said of the other ones.
  induction switches generalizing t t' with
  | nil => exact h
  | cons s rest ih =>
      have hrest : ∀ name, .undefine name ∈ rest → keep name = false := by
        intro name hname
        exact hkeep name (List.mem_cons_of_mem s hname)
      cases s with
      | define m =>
          refine ih (ht.insert m) ?_ hrest
          show (t.insert m).restrict keep = (t'.insert m).restrict keep
          rw [restrict_insert, restrict_insert, h]
      | undefine name =>
          refine ih (ht.erase name) ?_ hrest
          show (t.erase name).restrict keep = t'.restrict keep
          rw [restrict_erase ht.nodup (hkeep name List.mem_cons_self), h]

/-- A table is its own part for names among which all of its own are. -/
theorem restrict_eq_self (h : ∀ name, (t.get? name).isSome → keep name) : t.restrict keep = t := by
  obtain ⟨entries⟩ := t
  rw [restrict]
  congr 1
  refine List.filter_eq_self.mpr ?_
  intro m hm
  refine h m.name (List.find?_isSome.mpr ⟨m, hm, ?_⟩)
  exact beq_self_eq_true m.name

end Kept

/-- **Two rounds and one.**  The two rounds of an invocation leave the table that its
switches leave in their order exactly if no removed name stands defined in the end. -/
theorem applyMacros_empty_eq_iff (i : Invocation) :
    i.applyMacros .empty = inOrder i.macroSwitches ↔
      ∀ name, .undefine name ∈ i.macroSwitches → standing? name i.macroSwitches = none := by
  have hrounds := i.overlaid_applyMacros Built.empty.nodup
  constructor
  · intro heq name hname
    rw [← get?_inOrder, ← heq, hrounds.get?_eq, if_pos hname]
  · intro hnone
    -- No removed name is left in order either, so that both tables are their kept part.
    have hkept : (inOrder i.macroSwitches).restrict (fun name => name ∉ i.removals) =
        inOrder i.macroSwitches := by
      refine restrict_eq_self ?_
      intro name hsome
      refine decide_eq_true ?_
      intro hremoved
      rw [get?_inOrder, hnone name (Invocation.mem_removals.mp hremoved)] at hsome
      cases hsome
    rw [Invocation.applyMacros_eq i Built.empty.nodup, ← hkept]
    refine (restrict_applyInOrder Built.empty rfl ?_).symm
    intro name hname
    exact decide_eq_false (not_not_intro (Invocation.mem_removals.mpr hname))

end MacroTable

namespace Database

namespace Entry

open MacroSwitch (standing?)

variable {e : Entry} {words : List Text}

/-- The explicit macros are put on a table that is empty. -/
theorem macros_settings (hgcc : isMicrosoftCommand words = false) (directory : Path) :
    (settings words directory).macros =
      (Invocation.ofWords .gcc (words.drop 1)).applyMacros .empty := by
  have hdialect : dialect words = .gcc := if_neg (by simp [hgcc])
  rw [settings, hdialect]
  rfl

/-- The definitions of an entry for another compiler are all applied, and then all
removals. -/
theorem overlaid_settings (hgcc : isMicrosoftCommand words = false) (directory : Path) :
    MacroTable.empty.Overlaid (Invocation.ofWords .gcc (words.drop 1)).macroSwitches
      (settings words directory).macros := by
  rw [macros_settings hgcc]
  exact Invocation.overlaid_applyMacros _ MacroTable.Built.empty.nodup

/-- **The macros of an entry of another compiler than Microsoft's**: those of its own
words and no others, in two rounds.  A name stands defined if some word defines it and
none removes it.  The order of the words gives the same for a name exactly if it does
not stand defined behind a removal. -/
theorem macros_in_rounds (hwords : e.words = .ok words) (hgcc : isMicrosoftCommand words = false) :
    ∃ u, e.unit = .ok u ∧
      let switches := (Invocation.ofWords .gcc (words.drop 1)).macroSwitches
      let macros := u.settings.macros
      MacroTable.empty.Overlaid switches macros ∧
      (∀ name, (MacroTable.inOrder switches).get? name = standing? name switches) ∧
      (∀ name, macros.get? name = standing? name switches ↔
        (.undefine name ∈ switches → standing? name switches = none)) ∧
      (macros = MacroTable.inOrder switches ↔
        ∀ name, .undefine name ∈ switches → standing? name switches = none) ∧
      ∀ word next, (Invocation.ofWords .gcc (word :: next)).macroSwitches =
        Switch.Dialect.gcc.macrosAt word next ++
          (Invocation.ofWords .gcc
            ((word :: next).drop (Switch.Dialect.gcc.step word next).consumed)).macroSwitches := by
  refine ⟨_, unit_of_words hwords, ?_⟩
  intro switches macros
  have hoverlaid : MacroTable.empty.Overlaid switches macros := overlaid_settings hgcc _
  refine ⟨hoverlaid, MacroTable.get?_inOrder switches, ?_, ?_, ?_⟩
  · intro name
    rw [hoverlaid.get?_eq]
    split
    · next hname => simp [hname, eq_comm]
    · next hname =>
        have hempty : MacroTable.empty.get? name = none := rfl
        simp [hname, hempty, MacroSwitch.standing?_eq_lastDefinition? hname]
  · have hmacros : macros = (Invocation.ofWords .gcc (words.drop 1)).applyMacros .empty :=
      macros_settings hgcc _
    rw [hmacros]
    exact MacroTable.applyMacros_empty_eq_iff _
  · intro word next
    rw [Invocation.macroSwitches_ofWords_cons, Switch.Dialect.endsOptions_gcc, if_neg (by simp)]

/-- Definitions that override each other, and a removal behind them: the two rounds are
what the order gives. -/
theorem macros_in_rounds_override :
    let e : Entry := ⟨⟨"main.c".toList⟩, ["gcc".toList, "-DB=1".toList, "-D".toList, "A".toList,
      "-DA=2".toList, "-UB".toList, "main.c".toList], [], ⟨"/src".toList⟩, none⟩
    e.words = .ok e.arguments ∧ isMicrosoftCommand e.arguments = false ∧
      ∃ u, e.unit = .ok u ∧
        u.settings.macros = MacroTable.inOrder
          (Invocation.ofWords .gcc (e.arguments.drop 1)).macroSwitches ∧
        u.settings.macros.get? "A".toList = some (.ofStrings "A" "2") ∧
        u.settings.macros.get? "B".toList = none := by
  intro e
  have hwords : e.words = .ok e.arguments := rfl
  have hgcc : isMicrosoftCommand e.arguments = false := by decide
  have hswitches : (Invocation.ofWords .gcc (e.arguments.drop 1)).macroSwitches =
      [.define (.ofStrings "B" "1"), .define (.flag "A"), .define (.ofStrings "A" "2"),
        .undefine "B".toList] := by
    cbv
  obtain ⟨u, hu, -, horder, -, heq, -⟩ := macros_in_rounds hwords hgcc
  have hmacros : u.settings.macros = MacroTable.inOrder
      (Invocation.ofWords .gcc (e.arguments.drop 1)).macroSwitches := by
    refine heq.mpr ?_
    rw [hswitches]
    intro name hname
    obtain rfl : name = "B".toList := by simpa using hname
    decide
  refine ⟨hwords, hgcc, u, hu, hmacros, ?_, ?_⟩
  · rw [hmacros, horder, hswitches]
    decide
  · rw [hmacros, horder, hswitches]
    decide

/-- **A name that is defined again behind its removal** stands defined, and the entry
does not define it. -/
theorem macros_in_rounds_redefined :
    let e : Entry := ⟨⟨"main.c".toList⟩, ["gcc".toList, "-c".toList, "-UNAME".toList,
      "-DNAME=1".toList, "main.c".toList], [], ⟨"/src".toList⟩, none⟩
    e.words = .ok e.arguments ∧ isMicrosoftCommand e.arguments = false ∧
      (MacroTable.inOrder (Invocation.ofWords .gcc (e.arguments.drop 1)).macroSwitches).get?
        "NAME".toList = some (.ofStrings "NAME" "1") ∧
      ∃ u, e.unit = .ok u ∧ u.settings.macros.get? "NAME".toList = none := by
  intro e
  have hgcc : isMicrosoftCommand e.arguments = false := by decide
  have hswitches : (Invocation.ofWords .gcc (e.arguments.drop 1)).macroSwitches =
      [.undefine "NAME".toList, .define (.ofStrings "NAME" "1")] := by
    cbv
  refine ⟨rfl, hgcc, ?_, _, unit_of_words rfl, ?_⟩
  · rw [MacroTable.get?_inOrder, hswitches]
    decide
  · rw [(overlaid_settings hgcc _).get?_eq, hswitches]
    exact if_pos List.mem_cons_self

end Entry

end Database

end BuildEnv
