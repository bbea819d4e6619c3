import BuildEnv.Proofs.Switch.Overlay
import Mathlib.Data.List.Induction
import Mathlib.Data.Nat.Find

/-!
# What a macro table remembers of its history

A macro table is made by insertions and removals.  Its values follow the last
insertion of a name and its order the first one since the last removal of the name,
so that a table tells less than the history from which it comes, and all that it
tells is told by the history (`MacroTable.Reflects`).

* `MacroSwitch.standing?`: the macro of a name in the end of a history.
* `MacroSwitch.ArrivesAt`: the place in a history from which on a name is there.
* `MacroTable.Reflects.insert`, `MacroTable.Reflects.erase`: one step of a history.
* `MacroTable.reflects_run`: tables after any operations.
-/

namespace BuildEnv

namespace MacroSwitch

/-- The name that is defined or removed. -/
def about : MacroSwitch → Text
  | define m => m.name
  | undefine name => name

/-- The effect on a table at the place of the switch. -/
def applyTo (t : MacroTable) : MacroSwitch → MacroTable
  | define m => t.insert m
  | undefine name => t.erase name

/-- The definition of a name that stands in the end: the one of the last switch about
the name, if that one is a definition. -/
def standing? (name : Text) (switches : List MacroSwitch) : Option Macro :=
  (switches.reverse.find? fun s => s.about == name).bind macro?

/-- A further switch decides about its own name only. -/
theorem standing?_append_singleton (name : Text) (switches : List MacroSwitch) (s : MacroSwitch) :
    standing? name (switches ++ [s]) =
      if s.about = name then s.macro? else standing? name switches := by
  rw [standing?, List.reverse_append, List.reverse_singleton, List.singleton_append,
    List.find?_cons]
  by_cases h : s.about = name
  · simp [h]
  · rw [if_neg h, beq_eq_false_iff_ne.mpr h, standing?]

/-- A definition stands for names only that occur. -/
theorem mem_about_of_standing? {name : Text} {switches : List MacroSwitch}
    (h : (standing? name switches).isSome) : name ∈ switches.map about := by
  obtain ⟨m, hm⟩ := Option.isSome_iff_exists.mp h
  obtain ⟨s, hs, -⟩ := Option.bind_eq_some_iff.mp hm
  refine List.mem_map.mpr ⟨s, List.mem_reverse.mp (List.mem_of_find?_eq_some hs), ?_⟩
  simpa using List.find?_some hs

/-- The switch at a place defines the name. -/
def DefinesAt (history : List MacroSwitch) (name : Text) (i : Nat) : Prop :=
  ∃ m, history[i]? = some (.define m) ∧ m.name = name

/-- **The first definition of a name since its last removal.**  No removal of the name
follows, and one stands between it and every definition before. -/
structure ArrivesAt (history : List MacroSwitch) (name : Text) (i : Nat) : Prop where
  defines : DefinesAt history name i
  stays : ∀ k, i < k → history[k]? ≠ some (.undefine name)
  first : ∀ j, j < i → DefinesAt history name j →
    ∃ k, j < k ∧ k < i ∧ history[k]? = some (.undefine name)

section Arrival

variable {history : List MacroSwitch} {name : Text} {s : MacroSwitch} {m : Macro} {i : Nat}

/-- A switch of the longer history is one of the shorter, or the last one. -/
theorem getElem?_append_singleton_eq_some_iff {x : MacroSwitch} :
    (history ++ [s])[i]? = some x ↔ history[i]? = some x ∨ i = history.length ∧ s = x := by
  rcases Nat.lt_trichotomy i history.length with hlt | rfl | hgt
  · rw [List.getElem?_append_left hlt]
    exact ⟨.inl, fun h => h.resolve_right fun ⟨heq, _⟩ => absurd heq (Nat.ne_of_lt hlt)⟩
  · simp
  · have hnone : (history ++ [s])[i]? = none := by
      rw [List.getElem?_eq_none_iff, List.length_append]
      exact hgt
    have hnone' : history[i]? = none := List.getElem?_eq_none_iff.mpr (Nat.le_of_lt hgt)
    simp [hnone, hnone', Nat.ne_of_gt hgt]

theorem DefinesAt.lt_length (h : DefinesAt history name i) : i < history.length := by
  obtain ⟨m, hm, -⟩ := h
  exact (List.getElem?_eq_some_iff.mp hm).1

/-- The definitions of the longer history are those of the shorter, and the last switch
if it is one. -/
theorem definesAt_append_singleton :
    DefinesAt (history ++ [s]) name i ↔
      DefinesAt history name i ∨ i = history.length ∧ ∃ m, s = .define m ∧ m.name = name := by
  simp only [DefinesAt, getElem?_append_singleton_eq_some_iff]
  constructor
  · rintro ⟨m, hm | ⟨hi, hs⟩, hname⟩
    · exact .inl ⟨m, hm, hname⟩
    · exact .inr ⟨hi, m, hs, hname⟩
  · rintro (⟨m, hm, hname⟩ | ⟨hi, m, hs, hname⟩)
    · exact ⟨m, .inl hm, hname⟩
    · exact ⟨m, .inr ⟨hi, hs⟩, hname⟩

/-- A name has arrived if some definition of it is followed by no removal. -/
theorem exists_arrivesAt {j : Nat} (hj : DefinesAt history name j)
    (hstays : ∀ k, j < k → history[k]? ≠ some (.undefine name)) :
    ∃ i, ArrivesAt history name i := by
  classical
  have hex : ∃ j, DefinesAt history name j ∧
      ∀ k, j < k → history[k]? ≠ some (.undefine name) := ⟨j, hj, hstays⟩
  obtain ⟨hdefines, hstays⟩ := Nat.find_spec hex
  refine ⟨Nat.find hex, hdefines, hstays, ?_⟩
  intro j hlt hj
  -- The definition at `j` is not the first of these, so a removal follows it.
  have hremoved : ∃ k, j < k ∧ history[k]? = some (.undefine name) := by
    by_contra hnone
    refine Nat.find_min hex hlt ⟨hj, ?_⟩
    intro k hk hundefine
    exact hnone ⟨k, hk, hundefine⟩
  obtain ⟨k, hjk, hk⟩ := hremoved
  refine ⟨k, hjk, ?_, hk⟩
  rcases Nat.lt_trichotomy k (Nat.find hex) with hlt | heq | hgt
  · exact hlt
  · obtain ⟨m, hm, -⟩ := hdefines
    rw [heq, hm] at hk
    cases hk
  · exact absurd hk (hstays k hgt)

/-- A switch about another name leaves the arrival. -/
theorem arrivesAt_append_of_ne (h : s.about ≠ name) :
    ArrivesAt (history ++ [s]) name i ↔ ArrivesAt history name i := by
  have hdefines : ∀ j, DefinesAt (history ++ [s]) name j ↔ DefinesAt history name j := by
    intro j
    rw [definesAt_append_singleton]
    refine or_iff_left ?_
    rintro ⟨-, m, rfl, hm⟩
    exact h hm
  have hundefine : ∀ k : Nat, (history ++ [s])[k]? = some (undefine name) ↔
      history[k]? = some (undefine name) := by
    intro k
    rw [getElem?_append_singleton_eq_some_iff]
    refine or_iff_left ?_
    rintro ⟨-, rfl⟩
    exact h rfl
  constructor
  · intro ⟨hi, hstays, hfirst⟩
    simp only [hdefines, ne_eq, hundefine] at hi hstays hfirst
    exact ⟨hi, hstays, hfirst⟩
  · intro ⟨hi, hstays, hfirst⟩
    refine ⟨(hdefines i).mpr hi, ?_, ?_⟩
    · simpa only [ne_eq, hundefine] using hstays
    · simpa only [hdefines, hundefine] using hfirst

/-- **A removal** takes the arrival of its name away. -/
theorem arrivesAt_append_undefine {removed : Text} :
    ArrivesAt (history ++ [.undefine removed]) name i ↔
      name ≠ removed ∧ ArrivesAt history name i := by
  by_cases hname : name = removed
  · subst hname
    refine iff_of_false ?_ fun h => h.1 rfl
    intro h
    have hlast : (history ++ [undefine name])[history.length]? = some (undefine name) :=
      getElem?_append_singleton_eq_some_iff.mpr (.inr ⟨rfl, rfl⟩)
    rcases definesAt_append_singleton.mp h.defines with hi | ⟨-, m, hm, -⟩
    · exact h.stays history.length hi.lt_length hlast
    · cases hm
  · rw [arrivesAt_append_of_ne (Ne.symm hname)]
    exact (and_iff_right hname).symm

/-- A definition puts no removal into a history. -/
theorem getElem?_append_define {k : Nat} :
    (history ++ [.define m])[k]? = some (.undefine name) ↔
      history[k]? = some (.undefine name) := by
  rw [getElem?_append_singleton_eq_some_iff]
  refine or_iff_left ?_
  rintro ⟨-, hne⟩
  cases hne

/-- A definition before the end is where it was, whatever is defined last. -/
theorem arrivesAt_append_define_of_lt (hi : i < history.length) :
    ArrivesAt (history ++ [.define m]) name i ↔ ArrivesAt history name i := by
  have hdefines : ∀ j, j ≤ i →
      (DefinesAt (history ++ [.define m]) name j ↔ DefinesAt history name j) := by
    intro j hj
    rw [definesAt_append_singleton]
    refine or_iff_left ?_
    rintro ⟨rfl, -⟩
    omega
  constructor
  · intro ⟨hat, hstays, hfirst⟩
    refine ⟨(hdefines i le_rfl).mp hat, ?_, ?_⟩
    · simpa only [ne_eq, getElem?_append_define] using hstays
    · intro j hj hdef
      have hfound := hfirst j hj ((hdefines j (Nat.le_of_lt hj)).mpr hdef)
      simpa only [getElem?_append_define] using hfound
  · intro ⟨hat, hstays, hfirst⟩
    refine ⟨(hdefines i le_rfl).mpr hat, ?_, ?_⟩
    · simpa only [ne_eq, getElem?_append_define] using hstays
    · intro j hj hdef
      simpa only [getElem?_append_define] using hfirst j hj ((hdefines j (Nat.le_of_lt hj)).mp hdef)

/-- **A definition of a name that is there** changes no arrival. -/
theorem arrivesAt_append_define_known (h : ∃ i, ArrivesAt history m.name i) :
    ArrivesAt (history ++ [.define m]) name i ↔ ArrivesAt history name i := by
  by_cases hname : m.name = name
  · subst hname
    obtain ⟨i₀, h₀⟩ := h
    constructor
    · intro hi
      refine (arrivesAt_append_define_of_lt ?_).mp hi
      rcases definesAt_append_singleton.mp hi.defines with hdef | ⟨rfl, -⟩
      · exact hdef.lt_length
      · obtain ⟨k, hk, -, hundefine⟩ := hi.first i₀ h₀.defines.lt_length
          (definesAt_append_singleton.mpr (.inl h₀.defines))
        exact absurd (getElem?_append_define.mp hundefine) (h₀.stays k hk)
    · intro hi
      exact (arrivesAt_append_define_of_lt hi.defines.lt_length).mpr hi
  · exact arrivesAt_append_of_ne hname

/-- A name that is not there arrives with its definition. -/
theorem arrivesAt_length (h : ¬ ∃ i, ArrivesAt history m.name i) :
    ArrivesAt (history ++ [.define m]) m.name history.length := by
  refine ⟨definesAt_append_singleton.mpr (.inr ⟨rfl, m, rfl, rfl⟩), ?_, ?_⟩
  · intro k hk hundefine
    have hlt := (List.getElem?_eq_some_iff.mp (getElem?_append_define.mp hundefine)).1
    omega
  · intro j hj hdef
    have hdef' : DefinesAt history m.name j := by
      refine (definesAt_append_singleton.mp hdef).resolve_right ?_
      rintro ⟨rfl, -⟩
      omega
    by_contra hnone
    refine h (exists_arrivesAt hdef' ?_)
    intro k hk hundefine
    have hlt := (List.getElem?_eq_some_iff.mp hundefine).1
    exact hnone ⟨k, hk, hlt, getElem?_append_define.mpr hundefine⟩

/-- **A definition of a name that is not there** is its arrival. -/
theorem arrivesAt_append_define_new (h : ¬ ∃ i, ArrivesAt history m.name i) :
    ArrivesAt (history ++ [.define m]) name i ↔
      if m.name = name then i = history.length else ArrivesAt history name i := by
  by_cases hname : m.name = name
  · subst hname
    rw [if_pos rfl]
    constructor
    · intro hi
      rcases definesAt_append_singleton.mp hi.defines with hdef | ⟨heq, -⟩
      · exact absurd ⟨i, (arrivesAt_append_define_of_lt hdef.lt_length).mp hi⟩ h
      · exact heq
    · rintro rfl
      exact arrivesAt_length h
  · rw [if_neg hname]
    exact arrivesAt_append_of_ne hname

end Arrival

end MacroSwitch

namespace MacroTable

open MacroSwitch (standing? ArrivesAt)

theorem get?_erase {t : MacroTable} (h : t.names.Nodup) (name other : Text) :
    (t.erase name).get? other = if name = other then none else t.get? other := by
  rw [erase_eq_restrict h, get?_restrict]
  by_cases hname : name = other
  · simp [hname]
  · simp [hname, Ne.symm hname]

/-- A removal takes one name out. -/
theorem names_erase {t : MacroTable} (h : t.names.Nodup) (name : Text) :
    (t.erase name).names = t.names.filter fun other => other ≠ name := by
  rw [erase_eq_restrict h, names_restrict]

theorem mem_names_iff {t : MacroTable} {name : Text} : name ∈ t.names ↔ (t.get? name).isSome := by
  rw [get?, List.find?_isSome, names, List.mem_map]
  simp only [beq_iff_eq]

/-- A removal hands over the macro of the name. -/
theorem remove_eq (t : MacroTable) (name : Text) : t.remove name = (t.get? name, t.erase name) := by
  obtain ⟨entries⟩ := t
  rw [remove, get?, erase, List.eraseP_eq_eraseIdx]
  cases hplace : entries.findIdx? fun m => m.name == name with
  | none =>
      have hnone : (entries.find? fun m => m.name == name) = none := by
        rw [List.find?_eq_none]
        intro m hm
        simpa using List.findIdx?_eq_none_iff.mp hplace m hm
      simp only [hnone]
  | some i =>
      obtain ⟨hlt, hi, hbefore⟩ := List.findIdx?_eq_some_iff_getElem.mp hplace
      have hsome : (entries.find? fun m => m.name == name) = some entries[i] :=
        List.find?_eq_some_iff_getElem.mpr
          ⟨hi, i, hlt, rfl, fun j hj => by simpa using hbefore j hj⟩
      simp only [hsome, List.getElem?_eq_getElem hlt]

/-- A table is what its history says. -/
structure Reflects (t : MacroTable) (history : List MacroSwitch) : Prop where
  names_nodup : t.names.Nodup
  /-- The last definition of a name counts, unless a removal follows it. -/
  get?_eq : ∀ name, t.get? name = standing? name history
  /-- The names are those that have arrived, in the order of their arrivals. -/
  mem_names : ∀ name, name ∈ t.names ↔ ∃ i, ArrivesAt history name i
  in_order : t.names.Pairwise fun a b =>
    ∀ i j, ArrivesAt history a i → ArrivesAt history b j → i < j

section Steps

variable {t : MacroTable} {history : List MacroSwitch}

theorem reflects_empty : Reflects .empty [] where
  names_nodup := List.nodup_nil
  get?_eq _ := rfl
  mem_names name := by
    refine iff_of_false (List.not_mem_nil) ?_
    rintro ⟨i, hi⟩
    exact Nat.not_lt_zero i hi.defines.lt_length
  in_order := List.Pairwise.nil

/-- **One insertion.**  A name that is there keeps its place, and a new one is the
last. -/
theorem Reflects.insert (h : Reflects t history) (m : Macro) :
    Reflects (t.insert m) (history ++ [.define m]) := by
  have hget : ∀ name, (t.insert m).get? name = standing? name (history ++ [.define m]) := by
    intro name
    rw [get?_insert, MacroSwitch.standing?_append_singleton, h.get?_eq]
    rfl
  by_cases hname : m.name ∈ t.names
  · have hnames : (t.insert m).names = t.names := by rw [names_insert, if_pos hname]
    have harrives : ∀ name i, ArrivesAt (history ++ [.define m]) name i ↔
        ArrivesAt history name i :=
      fun _ _ => MacroSwitch.arrivesAt_append_define_known ((h.mem_names m.name).mp hname)
    refine ⟨hnames ▸ h.names_nodup, hget, ?_, ?_⟩
    · simpa only [hnames, harrives] using h.mem_names
    · simpa only [hnames, harrives] using h.in_order
  · have hnames : (t.insert m).names = t.names ++ [m.name] := by rw [names_insert, if_neg hname]
    have harrives : ∀ name i, ArrivesAt (history ++ [.define m]) name i ↔
        if m.name = name then i = history.length else ArrivesAt history name i :=
      fun _ _ => MacroSwitch.arrivesAt_append_define_new (mt (h.mem_names m.name).mpr hname)
    refine ⟨nodup_names_insert h.names_nodup m, hget, ?_, ?_⟩
    · intro name
      rw [hnames, List.mem_append, List.mem_singleton, h.mem_names]
      simp only [harrives]
      by_cases heq : m.name = name
      · simp [heq]
      · simp [heq, Ne.symm heq]
    · -- The arrivals of the other names lie in the history before.
      have hother : ∀ name ∈ t.names, m.name ≠ name := fun name hmem heq => hname (heq ▸ hmem)
      rw [hnames, List.pairwise_append]
      refine ⟨?_, List.pairwise_singleton _ _, ?_⟩
      · refine h.in_order.imp_of_mem ?_
        intro a b ha hb hab i j hi hj
        rw [harrives, if_neg (hother a ha)] at hi
        rw [harrives, if_neg (hother b hb)] at hj
        exact hab i j hi hj
      · intro a ha b hb i j hi hj
        obtain rfl := List.mem_singleton.mp hb
        rw [harrives, if_neg (hother a ha)] at hi
        rw [harrives, if_pos rfl] at hj
        exact hj ▸ hi.defines.lt_length

/-- **One removal.**  The other names keep their order. -/
theorem Reflects.erase (h : Reflects t history) (removed : Text) :
    Reflects (t.erase removed) (history ++ [.undefine removed]) where
  names_nodup := nodup_names_erase h.names_nodup removed
  get?_eq name := by
    rw [get?_erase h.names_nodup, MacroSwitch.standing?_append_singleton, h.get?_eq]
    rfl
  mem_names name := by
    rw [names_erase h.names_nodup, List.mem_filter, decide_eq_true_iff, h.mem_names]
    simp only [MacroSwitch.arrivesAt_append_undefine, exists_and_left]
    exact and_comm
  in_order := by
    rw [names_erase h.names_nodup]
    refine (h.in_order.filter _).imp ?_
    intro a b hab i j hi hj
    exact hab i j (MacroSwitch.arrivesAt_append_undefine.mp hi).2
      (MacroSwitch.arrivesAt_append_undefine.mp hj).2

end Steps

/-- The table after some switches, one after the other. -/
def applyInOrder (t : MacroTable) (switches : List MacroSwitch) : MacroTable :=
  switches.foldl MacroSwitch.applyTo t

/-- The macros of some switches that are taken in their order. -/
def inOrder (switches : List MacroSwitch) : MacroTable :=
  empty.applyInOrder switches

/-- Switches keep a table built. -/
theorem Built.applyInOrder {t : MacroTable} (h : Built t) (switches : List MacroSwitch) :
    Built (t.applyInOrder switches) := by
  induction switches generalizing t with
  | nil => exact h
  | cons s rest ih =>
      cases s with
      | define m => exact ih (h.insert m)
      | undefine name => exact ih (h.erase name)

/-- **A whole history.** -/
theorem reflects_inOrder (history : List MacroSwitch) : Reflects (inOrder history) history := by
  induction history using List.reverseRecOn with
  | nil => exact reflects_empty
  | append_singleton rest s ih =>
      have hstep : inOrder (rest ++ [s]) = s.applyTo (inOrder rest) := List.foldl_append
      rw [hstep]
      cases s with
      | define m => exact ih.insert m
      | undefine name => exact ih.erase name

/-- **In order, the last switch about a name decides.** -/
theorem get?_inOrder (switches : List MacroSwitch) (name : Text) :
    (inOrder switches).get? name = standing? name switches :=
  (reflects_inOrder switches).get?_eq name

/-- There are as many macros as names that stand. -/
theorem Reflects.size_eq {t : MacroTable} {history : List MacroSwitch} (h : Reflects t history) :
    t.size = (history.map MacroSwitch.about).eraseDups.countP fun name =>
      (standing? name history).isSome := by
  have hperm : t.names.Perm ((history.map MacroSwitch.about).eraseDups.filter fun name =>
      (standing? name history).isSome) := by
    refine (List.perm_ext_iff_of_nodup h.names_nodup ((nodup_eraseDups _).filter _)).mpr ?_
    intro name
    rw [mem_names_iff, h.get?_eq, List.mem_filter, List.mem_eraseDups]
    exact ⟨fun hsome => ⟨MacroSwitch.mem_about_of_standing? hsome, hsome⟩, fun hboth => hboth.2⟩
  have hsize : t.size = t.names.length := (List.length_map _).symm
  rw [hsize, hperm.length_eq, List.countP_eq_length_filter]

/-! ### Operations -/

/-- An operation on a macro table. -/
inductive Operation where
  | insert (m : Macro)
  | extend (ms : List Macro)
  | remove (name : Text)
  deriving DecidableEq, Repr

/-- The effect of an operation. -/
def Operation.apply (t : MacroTable) : Operation → MacroTable
  | insert m => t.insert m
  | extend ms => t.insertAll ms
  | remove name => (t.remove name).2

/-- The single definitions and removals of an operation. -/
def Operation.switches : Operation → List MacroSwitch
  | insert m => [.define m]
  | extend ms => ms.map .define
  | remove name => [.undefine name]

/-- The table after some operations on the empty one. -/
def run (ops : List Operation) : MacroTable :=
  ops.foldl Operation.apply empty

/-- The single definitions and removals of some operations, in order. -/
def historyOf (ops : List Operation) : List MacroSwitch :=
  ops.flatMap Operation.switches

/-- An operation is its switches, one after the other. -/
theorem Operation.apply_eq (t : MacroTable) (op : Operation) :
    op.apply t = t.applyInOrder op.switches := by
  cases op with
  | insert m => rfl
  | extend ms =>
      show ms.foldl MacroTable.insert t = (ms.map MacroSwitch.define).foldl MacroSwitch.applyTo t
      rw [List.foldl_map]
      rfl
  | remove name => exact congrArg Prod.snd (remove_eq t name)

/-- A run is all its switches, one after the other. -/
theorem run_eq (ops : List Operation) : run ops = inOrder (historyOf ops) := by
  have hfold : ∀ t : MacroTable, ops.foldl Operation.apply t = t.applyInOrder (historyOf ops) := by
    induction ops with
    | nil => exact fun _ => rfl
    | cons op rest ih =>
        intro t
        rw [List.foldl_cons, ih, Operation.apply_eq]
        exact List.foldl_append.symm
  exact hfold empty

/-- **A table remembers its history.**  After any operations, names are distinct, the
macro of a name is that of its last definition unless it was removed after it, and the
names stand in the order of their first definitions since their last removals.  A removal
hands the macro over and leaves all others as they are.  A definition of a name that is
there keeps its place, and one of a removed name comes last. -/
theorem reflects_run (ops : List Operation) :
    Reflects (run ops) (historyOf ops) ∧
    (run ops).size = (((historyOf ops).map MacroSwitch.about).eraseDups.countP fun name =>
      (standing? name (historyOf ops)).isSome) ∧
    (∀ name, ((run ops).remove name).1 = standing? name (historyOf ops) ∧
      ((run ops).remove name).2.entries = (run ops).entries.filter fun m => m.name ≠ name) ∧
    (∀ m, ((run ops).insert m).names =
      if m.name ∈ (run ops).names then (run ops).names else (run ops).names ++ [m.name]) ∧
    ∀ m, (((run ops).remove m.name).2.insert m).names =
      ((run ops).names.filter fun name => name ≠ m.name) ++ [m.name] := by
  have hreflects : Reflects (run ops) (historyOf ops) := run_eq ops ▸ reflects_inOrder _
  refine ⟨hreflects, hreflects.size_eq, ?_, names_insert (run ops), ?_⟩
  · intro name
    rw [remove_eq, hreflects.get?_eq, erase_eq_restrict hreflects.names_nodup]
    exact ⟨rfl, rfl⟩
  · intro m
    have hgone : m.name ∉ ((run ops).names.filter fun name => name ≠ m.name) := by simp
    rw [remove_eq, names_insert, names_erase hreflects.names_nodup, if_neg hgone]

end MacroTable

end BuildEnv
