import BuildEnv.Log.Entry
import Mathlib.Data.List.Infix

/-!
# A log as a sequence of sightings

A sighting is a marker together with the number of its line.  The reading of
a log looks at the sightings one after the other (`records_eq_outcomes`), so
that lines matter only for the number that they give to their markers.

`BuildState.context_setContext_self` and its companions say which context a
marker changes.  The contexts of numbers that no marker was routed to are not
stored; such a number follows the shared context.
-/

namespace BuildEnv

/-- A marker on a line of a number. -/
structure Sighting where
  line : Option Nat
  marker : Marker
  deriving DecidableEq, Repr

namespace Sighting

/-- The number that the marker is routed to.  An announcement with a number goes to
that one, and everything else to the number of its line. -/
def target (e : Sighting) : Option Nat :=
  match e.marker with
  | .project _ (some own) => some own
  | _ => e.line

/-- The reading routes markers so. -/
theorem route_eq_target (e : Sighting) : BuildState.route e.line e.marker = e.target := by
  obtain ⟨line, m⟩ := e
  cases m with
  | project path own => cases own <;> rfl
  | _ => rfl

/-- The sightings of a line, in the order in which they take effect. -/
def ofLine (line : Text) : List Sighting :=
  (Marker.ofText (LogLine.split line).text).map (Sighting.mk (LogLine.split line).context)

/-- The sightings of a log. -/
def ofLines (lines : List Text) : List Sighting :=
  lines.flatMap ofLine

/-- A sighting has the number of the prefix of its line. -/
theorem line_of_mem_ofLine {line : Text} {e : Sighting} (he : e ∈ ofLine line) :
    e.line = (LogLine.split line).context := by
  obtain ⟨m, _, rfl⟩ := List.mem_map.mp he
  rfl

end Sighting

namespace BuildState

theorem lookup_setEntry_self (n : Nat) (c : BuildContext) (entries : List (Nat × BuildContext)) :
    (setEntry n c entries).lookup n = some c := by
  induction entries with
  | nil => simp [setEntry]
  | cons e rest ih =>
      unfold setEntry
      by_cases he : e.1 = n
      · simp [he]
      · rw [if_neg he, List.lookup_cons, beq_eq_false_iff_ne.mpr (Ne.symm he)]
        exact ih

theorem lookup_setEntry_of_ne {n k : Nat} (hne : k ≠ n) (c : BuildContext)
    (entries : List (Nat × BuildContext)) :
    (setEntry n c entries).lookup k = entries.lookup k := by
  induction entries with
  | nil => simp [setEntry, hne]
  | cons e rest ih =>
      obtain ⟨i, d⟩ := e
      unfold setEntry
      by_cases he : i = n
      · subst he
        simp [List.lookup_cons, beq_eq_false_iff_ne.mpr hne]
      · rw [if_neg he, List.lookup_cons, List.lookup_cons, ih]

/-- The context of a target is the one that was set. -/
@[simp]
theorem context_setContext_self (s : BuildState) (c : BuildContext) (target : Option Nat) :
    (s.setContext c target).context target = c := by
  cases target with
  | none => rfl
  | some n => simp [setContext, context, lookup_setEntry_self]

/-- A change of a numbered context leaves all others alone. -/
theorem context_setContext_some {s : BuildState} {target : Option Nat} {n : Nat}
    (hne : target ≠ some n) (c : BuildContext) :
    (s.setContext c (some n)).context target = s.context target := by
  cases target with
  | none => rfl
  | some k =>
      have hk : k ≠ n := fun h => hne (congrArg some h)
      simp [setContext, context, lookup_setEntry_of_ne hk]

/-- A number with a context of its own does not follow the shared one. -/
theorem context_setContext_none_of_isSome {s : BuildState} {n : Nat}
    (h : (s.numbered.lookup n).isSome) (c : BuildContext) :
    (s.setContext c none).context (some n) = s.context (some n) := by
  obtain ⟨d, hd⟩ := Option.isSome_iff_exists.mp h
  simp [setContext, context, hd]

/-- A number without a context of its own follows the shared one. -/
theorem context_eq_shared {s : BuildState} {n : Nat}
    (h : ¬ (s.numbered.lookup n).isSome) : s.context (some n) = s.context none := by
  rw [Option.not_isSome_iff_eq_none] at h
  simp [context, h]

/-- The effect of a sighting. -/
def see (base : Path) (s : BuildState) (e : Sighting) : BuildState :=
  s.readMarker base e.line e.marker

/-- A sighting changes the context of the number that it is routed to. -/
theorem see_eq (base : Path) (s : BuildState) (e : Sighting) :
    s.see base e = s.setContext (updated base (s.context e.target) e.marker) e.target := by
  rw [← e.route_eq_target]
  rfl

/-- What a sighting gives. -/
def given (base : Path) (s : BuildState) (e : Sighting) : List UnitRecord :=
  (s.outcome base e.line e.marker).value

/-- What some sightings give, each in the state that the ones before it
leave. -/
def givenAlong (base : Path) : BuildState → List Sighting → List (List UnitRecord)
  | _, [] => []
  | s, e :: rest => s.given base e :: givenAlong base (s.see base e) rest

/-- Sightings give what the first of them give, and then what the rest give. -/
theorem givenAlong_append (base : Path) (s : BuildState) (es fs : List Sighting) :
    givenAlong base s (es ++ fs) =
      givenAlong base s es ++ givenAlong base (es.foldl (see base) s) fs := by
  induction es generalizing s with
  | nil => rfl
  | cons e rest ih => simp [givenAlong, ih]

/-- Each sighting gives what it gives after all the ones before it. -/
theorem givenAlong_eq_map (base : Path) (s : BuildState) (es : List Sighting) :
    givenAlong base s es =
      (es.inits.zip es).map fun (past, e) => (past.foldl (see base) s).given base e := by
  induction es generalizing s with
  | nil => rfl
  | cons e rest ih =>
      rw [List.inits_cons, List.zip_cons_cons, List.map_cons, List.zip_map_left, List.map_map]
      simp only [givenAlong, ih]
      rfl

/-- The markers of a line act as its sightings. -/
theorem readMarkers_eq (base : Path) (line : Option Nat) (s : BuildState) (ms : List Marker) :
    (readMarkers base line s ms).1 = (ms.map (Sighting.mk line)).foldl (see base) s ∧
      (readMarkers base line s ms).2.map (·.value) =
        givenAlong base s (ms.map (Sighting.mk line)) := by
  induction ms generalizing s with
  | nil => exact ⟨rfl, rfl⟩
  | cons m rest ih =>
      obtain ⟨hstate, hgiven⟩ := ih (s.readMarker base line m)
      exact ⟨hstate, congrArg (List.cons _) hgiven⟩

/-- A line changes the state as its sightings do, one after the other. -/
theorem readLine_state (base : Path) (s : BuildState) (line : Text) :
    (s.readLine base line).1 = (Sighting.ofLine line).foldl (see base) s :=
  (readMarkers_eq base _ s _).1

/-- A line gives what its sightings give. -/
theorem readLine_given (base : Path) (s : BuildState) (line : Text) :
    (s.readLine base line).2.flatMap (·.value) =
      (givenAlong base s (Sighting.ofLine line)).flatten := by
  rw [List.flatMap_def]
  exact congrArg List.flatten (readMarkers_eq base _ s _).2

end BuildState

namespace BuildLog

/-- The records of every line from a state on. -/
theorem flatten_map_readLines (base : Path) (s : BuildState) (lines : List Text) :
    ((BuildState.readLines base s lines).map fun outcomes => outcomes.flatMap (·.value)).flatten =
      (BuildState.givenAlong base s (Sighting.ofLines lines)).flatten := by
  induction lines generalizing s with
  | nil => rfl
  | cons line rest ih =>
      have hlines : Sighting.ofLines (line :: rest) =
          Sighting.ofLine line ++ Sighting.ofLines rest := rfl
      rw [hlines, BuildState.givenAlong_append, List.flatten_append, ← ih,
        ← BuildState.readLine_given, ← BuildState.readLine_state]
      rfl

/-- **The reading of a log looks at one sighting after the other.** -/
theorem records_eq_outcomes (lines : List Text) (base : Path) :
    records lines base =
      ((Sighting.ofLines lines).inits.zip (Sighting.ofLines lines)).flatMap fun (past, e) =>
        (past.foldl (BuildState.see base) .start).given base e := by
  rw [records, recordsByLine, flatten_map_readLines, BuildState.givenAlong_eq_map]
  rfl

/-- The records are the result of the reading. -/
theorem value_read (lines : List Text) (base : Path) :
    (read lines base).value = records lines base := by
  show (BuildState.readLines base .start lines).flatten.flatMap _ = List.flatten (List.map _ _)
  induction BuildState.readLines base .start lines with
  | nil => rfl
  | cons outcomes rest ih => simp [ih]

end BuildLog

end BuildEnv
