import BuildEnv.Proofs.Log.Sighting
import BuildEnv.Proofs.Switch.Walk
import Mathlib.Data.List.Induction
import Mathlib.Data.List.TakeWhile

/-!
# Which facts an invocation is read with

The reading of a log keeps contexts that change all the time and that start as
copies of one another.  This file says what they hold without speaking of
contexts (`Sighting.known`): a fact about a number is the latest one that was
routed to it; where there is none, the latest one that was routed to the lines
without a number before anything was routed to the number.

* `BuildState.context_foldl_see`: after any sightings, every context holds
  exactly what is known.
* `BuildLog.records_eq_resolved`: the records of a log, in terms of what is
  known at each invocation.
-/

namespace BuildEnv

namespace Marker

/-- The toolset version that a marker tells. -/
def version? : Marker → Option ToolsetVersion
  | .toolset v => some v
  | .compiler _ v _ => v
  | _ => none

/-- The full version that a marker tells. -/
def fullVersion? : Marker → Option Text
  | .compiler full _ _ => some full
  | _ => none

/-- The architecture that a marker tells. -/
def architecture? : Marker → Option Architecture
  | .architecture a => some a
  | .compiler _ _ a => a
  | _ => none

/-- The project file that a marker tells. -/
def projectFile? : Marker → Option Text
  | .project path _ => some path
  | _ => none

end Marker

namespace Sighting

variable {α : Type} (tell : Marker → Option α)

/-- The latest fact that was routed to a number, or to the lines without
one. -/
def latest (past : List Sighting) (target : Option Nat) : Option α :=
  ((past.filter fun e => e.target = target).filterMap fun e => tell e.marker).getLast?

/-- The sightings before the first one that was routed to a number. -/
def beforeFirst (past : List Sighting) (n : Nat) : List Sighting :=
  past.takeWhile fun e => e.target ≠ some n

/-- The fact that holds for a number, or for the lines without one. -/
def known (past : List Sighting) : Option Nat → Option α
  | none => latest tell past none
  | some n => (latest tell past (some n)).or (latest tell (beforeFirst past n) none)

/-- What the sightings so far tell about a number. -/
def contextAfter (base : Path) (past : List Sighting) (target : Option Nat) : BuildContext where
  directory := (known Marker.projectFile? past target).bind (BuildState.projectDirectory base)
  version := known Marker.version? past target
  fullVersion := known Marker.fullVersion? past target
  architecture := (known Marker.architecture? past target).getD .unspecified

/-- A further sighting is the latest of its target, if it tells anything. -/
theorem latest_append_singleton (past : List Sighting) (e : Sighting) (target : Option Nat) :
    latest tell (past ++ [e]) target =
      if e.target = target then (tell e.marker).or (latest tell past target)
      else latest tell past target := by
  unfold latest
  rw [List.filter_append, List.filterMap_append, List.getLast?_append]
  by_cases h : e.target = target
  · cases htell : tell e.marker <;> simp [h, htell]
  · simp [h]

/-- Nothing is told of a target that nothing was routed to. -/
theorem latest_eq_none {past : List Sighting} {target : Option Nat}
    (h : ∀ e ∈ past, e.target ≠ target) : latest tell past target = none := by
  have hfilter : past.filter (fun e => e.target = target) = [] :=
    List.filter_eq_nil_iff.mpr fun e he => by simpa using h e he
  rw [latest, hfilter]
  rfl

/-- What comes before the first sighting of a number ends with that sighting. -/
theorem beforeFirst_cons (e : Sighting) (rest : List Sighting) (n : Nat) :
    beforeFirst (e :: rest) n = if e.target = some n then [] else e :: beforeFirst rest n := by
  by_cases h : e.target = some n <;> simp [beforeFirst, h]

/-- Once something was routed to a number, what comes later does not count as
before. -/
theorem beforeFirst_append_of_mem {past : List Sighting} {n : Nat} {e : Sighting}
    (he : e ∈ past) (htarget : e.target = some n) (more : List Sighting) :
    beforeFirst (past ++ more) n = beforeFirst past n := by
  induction past with
  | nil => cases he
  | cons f rest ih =>
      rw [List.cons_append, beforeFirst_cons, beforeFirst_cons]
      by_cases hf : f.target = some n
      · rw [if_pos hf, if_pos hf]
      · have hrest : e ∈ rest := by
          rcases List.mem_cons.mp he with rfl | he
          · exact absurd htarget hf
          · exact he
        rw [if_neg hf, if_neg hf, ih hrest]

/-- Nothing was routed to the number. -/
def Unseen (past : List Sighting) (n : Nat) : Prop :=
  ∀ e ∈ past, e.target ≠ some n

variable {past : List Sighting} {e : Sighting} {n : Nat}

/-- A sighting of something else leaves a number unseen. -/
theorem Unseen.append_singleton (h : Unseen past n) (hne : e.target ≠ some n) :
    Unseen (past ++ [e]) n := by
  intro f hf
  rcases List.mem_append.mp hf with hf | hf
  · exact h f hf
  · exact List.mem_singleton.mp hf ▸ hne

theorem unseen_of_not_exists (h : ¬ ∃ e ∈ past, e.target = some n) : Unseen past n :=
  fun e he htarget => h ⟨e, he, htarget⟩

theorem beforeFirst_eq_self (h : Unseen past n) : beforeFirst past n = past :=
  List.takeWhile_eq_self_iff.mpr fun e he => by simpa using h e he

/-- A number to which nothing was routed knows what the lines without a number
know. -/
theorem known_of_unseen (h : Unseen past n) : known tell past (some n) = known tell past none := by
  simp [known, latest_eq_none tell h, beforeFirst_eq_self h]

/-- The number that a marker is routed to knows what the marker tells, and
else what it knew before. -/
theorem known_append_target (past : List Sighting) (e : Sighting) :
    known tell (past ++ [e]) e.target = (tell e.marker).or (known tell past e.target) := by
  cases htarget : e.target with
  | none => simp [known, latest_append_singleton, htarget]
  | some n =>
      have hbefore : beforeFirst (past ++ [e]) n = beforeFirst past n := by
        by_cases hseen : ∃ f ∈ past, f.target = some n
        · obtain ⟨f, hf, hfn⟩ := hseen
          exact beforeFirst_append_of_mem hf hfn [e]
        · have hunseen := unseen_of_not_exists hseen
          rw [beforeFirst, List.takeWhile_append_of_pos (by simpa [Unseen] using hunseen),
            beforeFirst_eq_self hunseen]
          simp [htarget]
      simp [known, latest_append_singleton, htarget, hbefore, Option.or_assoc]

/-- A number that has a context of its own, or no part in a marker, knows what
it knew before. -/
theorem known_append_other {target : Option Nat} (hne : e.target ≠ target)
    (hown : e.target ≠ none ∨ ∀ n, target = some n → ∃ f ∈ past, f.target = some n) :
    known tell (past ++ [e]) target = known tell past target := by
  cases target with
  | none => simp [known, latest_append_singleton, hne]
  | some n =>
      by_cases hseen : ∃ f ∈ past, f.target = some n
      · obtain ⟨f, hf, hfn⟩ := hseen
        simp [known, latest_append_singleton, hne, beforeFirst_append_of_mem hf hfn]
      · have hnumbered : e.target ≠ none := hown.resolve_right fun h => hseen (h n rfl)
        have hpast := unseen_of_not_exists hseen
        rw [known_of_unseen tell (hpast.append_singleton hne), known_of_unseen tell hpast]
        simp [known, latest_append_singleton, hnumbered]

variable (base : Path)

/-- A marker changes what is known of its number as it changes a context. -/
theorem contextAfter_append_target (past : List Sighting) (e : Sighting) :
    contextAfter base (past ++ [e]) e.target =
      BuildState.updated base (contextAfter base past e.target) e.marker := by
  simp only [contextAfter, known_append_target]
  cases e.marker with
  | compiler full version architecture => cases architecture <;> rfl
  | _ => rfl

/-- A sighting leaves a context alone that it is not routed to, once the context is no
longer the shared one. -/
theorem contextAfter_append_other {target : Option Nat} (hne : e.target ≠ target)
    (hown : e.target ≠ none ∨ ∀ n, target = some n → ∃ f ∈ past, f.target = some n) :
    contextAfter base (past ++ [e]) target = contextAfter base past target := by
  simp only [contextAfter, known_append_other _ hne hown]

/-- An unseen number has the context that lines without a number have. -/
theorem contextAfter_of_unseen (h : Unseen past n) :
    contextAfter base past (some n) = contextAfter base past none := by
  simp only [contextAfter, known_of_unseen _ h]

end Sighting

namespace BuildState

variable (base : Path)

/-- The contexts of a state hold what the sightings so far tell, and the
numbers with a context of their own are those that something was routed to. -/
structure Holds (past : List Sighting) (s : BuildState) : Prop where
  own : ∀ n, (s.numbered.lookup n).isSome ↔ ∃ e ∈ past, e.target = some n
  context : ∀ target, s.context target = Sighting.contextAfter base past target

theorem holds_start : Holds base [] .start := by
  refine ⟨fun n => by simp [start], fun target => ?_⟩
  cases target <;> rfl

variable {base}

/-- The numbers with a context of their own after a marker. -/
theorem Holds.own_see {past : List Sighting} {s : BuildState} (h : Holds base past s)
    (e : Sighting) (n : Nat) :
    ((s.see base e).numbered.lookup n).isSome ↔ ∃ f ∈ past ++ [e], f.target = some n := by
  have hmem : (∃ f ∈ past ++ [e], f.target = some n) ↔
      (s.numbered.lookup n).isSome ∨ e.target = some n := by
    rw [h.own n]
    simp [or_and_right, exists_or]
  rw [hmem, see_eq]
  cases htarget : e.target with
  | none => simp [setContext]
  | some k =>
      by_cases hk : n = k
      · subst hk
        simp [setContext, lookup_setEntry_self]
      · simp [setContext, lookup_setEntry_of_ne hk, Ne.symm hk]

/-- **One marker.**  A state that holds what is known still does after a
marker. -/
theorem Holds.see {past : List Sighting} {s : BuildState} (h : Holds base past s)
    (e : Sighting) : Holds base (past ++ [e]) (s.see base e) := by
  have hself : (s.see base e).context e.target =
      Sighting.contextAfter base (past ++ [e]) e.target := by
    rw [see_eq, context_setContext_self, Sighting.contextAfter_append_target, ← h.context]
  refine ⟨h.own_see e, fun target => ?_⟩
  by_cases hne : e.target = target
  · exact hne ▸ hself
  by_cases hown : e.target ≠ none ∨ ∀ n, target = some n → ∃ f ∈ past, f.target = some n
  · -- the marker does not reach the context of the target
    rw [Sighting.contextAfter_append_other base hne hown, ← h.context, see_eq]
    cases htarget : e.target with
    | some k => exact context_setContext_some (fun h => hne (htarget.trans h.symm)) _
    | none =>
        cases target with
        | none => exact absurd htarget hne
        | some n =>
            have hseen := (hown.resolve_left (not_not.mpr htarget)) n rfl
            exact context_setContext_none_of_isSome ((h.own n).mpr hseen) _
  · -- the target is a number that still follows the shared context
    obtain ⟨hnone, hunseen⟩ := not_or.mp hown
    obtain ⟨n, himp⟩ := not_forall.mp hunseen
    obtain ⟨rfl, hn⟩ := Classical.not_imp.mp himp
    have hstill : Sighting.Unseen (past ++ [e]) n :=
      (Sighting.unseen_of_not_exists hn).append_singleton hne
    have hlookup : ¬ ((s.see base e).numbered.lookup n).isSome := fun hsome => by
      obtain ⟨f, hf, hfn⟩ := (h.own_see e n).mp hsome
      exact hstill f hf hfn
    rw [context_eq_shared hlookup, Sighting.contextAfter_of_unseen base hstill,
      ← not_not.mp hnone]
    exact hself

/-- **All markers.**  After any sightings, the contexts hold what is known. -/
theorem holds_foldl_see (past : List Sighting) :
    Holds base past (past.foldl (see base) .start) := by
  induction past using List.reverseRecOn with
  | nil => exact holds_start base
  | append_singleton past e ih =>
      rw [List.foldl_append]
      exact ih.see e

/-- **The contexts of a state** are what the sightings told last. -/
theorem context_foldl_see (past : List Sighting) (target : Option Nat) :
    (past.foldl (see base) .start).context target = Sighting.contextAfter base past target :=
  (holds_foldl_see past).context target

end BuildState

namespace Sighting

/-- What a sighting gives after others: one record for each source of an
invocation, read with what is known of the number of its line. -/
def recordsAfter (base : Path) (past : List Sighting) (e : Sighting) : List UnitRecord :=
  match e.marker with
  | .invocation _ arguments =>
    let invocation := Invocation.ofWords .msvc (CommandLine.Windows.split arguments)
    let directory :=
      ((known Marker.projectFile? past e.line).bind fun path =>
        (base.absoluteTo (.ofLog path)).parent?).getD base
    let profile : Profile :=
      { version := known Marker.version? past e.line
        fullVersion := known Marker.fullVersion? past e.line
        architecture := (known Marker.architecture? past e.line).getD .unspecified
        features := invocation.features }
    invocation.sources.map fun source =>
      { file := directory.absoluteTo (.ofLog source)
        settings :=
          { searchPath := .ofList (invocation.includeDirectories.map fun d =>
              directory.absoluteTo (.ofLog d))
            macros := invocation.applyMacros profile.predefined } }
  | _ => []

/-- What a sighting gives is determined by the sightings before it. -/
theorem given_foldl_see (base : Path) (past : List Sighting) (e : Sighting) :
    (past.foldl (BuildState.see base) .start).given base e = e.recordsAfter base past := by
  unfold BuildState.given recordsAfter
  cases e.marker with
  | invocation compiler arguments =>
      simp only [BuildState.outcome, BuildState.context_foldl_see]
      rfl
  | _ => rfl

end Sighting

namespace BuildLog

/-- **What a log tells.**  The reading of a log gives, in the order of the
lines and of the markers on them, the records of every invocation with the
facts that are known there, and nothing else. -/
theorem records_eq_resolved (lines : List Text) (base : Path) :
    records lines base =
        ((Sighting.ofLines lines).inits.zip (Sighting.ofLines lines)).flatMap
          (fun (past, e) => e.recordsAfter base past) ∧
      (read lines base).value = records lines base := by
  refine ⟨?_, value_read lines base⟩
  rw [records_eq_outcomes]
  simp only [Sighting.given_foldl_see]

/-- Two projects in one log.  The second one is announced by its number and has a
toolset of its own; the first one has the toolset that was told before the
first line with its number. -/
theorem records_eq_resolved_two_projects :
    records
        ["PlatformToolset=v141".toList,
          "Project \"/src/all.sln\" (1) is building \"/src/lib/lib.vcxproj\" (2) on node 1.".toList,
          "1>Platform=x64".toList,
          "PlatformToolset=v143".toList,
          "2>PlatformToolset=v140".toList,
          "2>cl /c a.cpp".toList,
          "1>cl /c b.cpp".toList] ⟨"/build".toList⟩ =
      [⟨⟨"/src/lib/a.cpp".toList⟩,
          ⟨.empty, Profile.predefined ⟨some ⟨140⟩, none, .unspecified, .empty⟩⟩⟩,
        ⟨⟨"/build/b.cpp".toList⟩,
          ⟨.empty, Profile.predefined ⟨some ⟨141⟩, none, .x64, .empty⟩⟩⟩] := by
  have hsightings : Sighting.ofLines
      ["PlatformToolset=v141".toList,
        "Project \"/src/all.sln\" (1) is building \"/src/lib/lib.vcxproj\" (2) on node 1.".toList,
        "1>Platform=x64".toList,
        "PlatformToolset=v143".toList,
        "2>PlatformToolset=v140".toList,
        "2>cl /c a.cpp".toList,
        "1>cl /c b.cpp".toList] =
      [⟨none, .toolset ⟨141⟩⟩,
        ⟨none, .project "/src/lib/lib.vcxproj".toList (some 2)⟩,
        ⟨some 1, .architecture .x64⟩,
        ⟨none, .toolset ⟨143⟩⟩,
        ⟨some 2, .toolset ⟨140⟩⟩,
        ⟨some 2, .invocation "cl".toList "/c a.cpp".toList⟩,
        ⟨some 1, .invocation "cl".toList "/c b.cpp".toList⟩] := by
    decide +kernel
  have hfirst : Invocation.ofWords .msvc (CommandLine.Windows.split "/c a.cpp".toList) =
      { Invocation.empty with sources := ["a.cpp".toList] } :=
    Invocation.ofWords_compileOnly (by decide) rfl (by decide)
  have hsecond : Invocation.ofWords .msvc (CommandLine.Windows.split "/c b.cpp".toList) =
      { Invocation.empty with sources := ["b.cpp".toList] } :=
    Invocation.ofWords_compileOnly (by decide) rfl (by decide)
  rw [(records_eq_resolved _ _).1, hsightings]
  simp only [List.inits, List.map_cons, List.map_nil, List.zip_cons_cons, List.zip_nil_right,
    List.flatMap_cons, List.flatMap_nil, Sighting.recordsAfter, hfirst, hsecond]
  decide +kernel

end BuildLog

end BuildEnv
