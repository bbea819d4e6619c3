import BuildEnv.Proofs.CommandLine.Windows
import BuildEnv.Proofs.Log.Resolution

/-!
# A log of one call

The markers of a line end with its call of the compiler, if it has one, and
what stands before are facts, which give no records
(`Marker.ofText_eq_append_invocation`).  So a log of one line gives the records
of its call, read with the facts of that line alone
(`BuildLog.records_singleton`).

A call without a path begins with a letter.  Its line has no decorations
(`split_callText`), and its words are the name of the compiler and the words of
the arguments (`words_callText`).
-/

namespace BuildEnv

namespace LogLine

/-- A time stamp begins with a digit. -/
theorem timestamp_cons_of_not_isDigit {c : Char} (h : ¬ Text.isDigit c) (rest : Text) :
    timestamp (c :: rest) = none := by
  have hcount : Scanner.count Text.isDigit 4 (c :: rest) = none := by
    simp [Scanner.count, h]
  unfold timestamp
  simp only [bind, StateT.bind, hcount, Option.bind_none]

/-- The number of a project begins with a digit. -/
theorem contextDigits_cons_of_not_isDigit {c : Char} (h : ¬ Text.isDigit c) (rest : Text) :
    contextDigits (c :: rest) = none := by
  have hrun : Scanner.run1 Text.isDigit (c :: rest) = none := by
    simp [Scanner.run1, h]
  unfold contextDigits
  simp only [bind, StateT.bind, hrun, Option.bind_none]

/-- A line that begins with none of the characters that a decoration begins
with has no decorations. -/
theorem split_cons {c : Char} (hmark : ¬ isByteOrderMark c) (hdigit : ¬ Text.isDigit c)
    (hblank : ¬ Text.isBlank c) (rest : Text) : split (c :: rest) = ⟨none, c :: rest⟩ := by
  have hbom : (c :: rest).dropWhile isByteOrderMark = c :: rest :=
    List.dropWhile_cons_of_neg hmark
  have htime : dropTimestamp (c :: rest) = c :: rest := by
    rw [dropTimestamp, timestamp_cons_of_not_isDigit hdigit]
  have hbare : (c :: rest).dropWhile Text.isBlank = c :: rest :=
    List.dropWhile_cons_of_neg hblank
  rw [split, hbom, htime, hbare, contextDigits_cons_of_not_isDigit hdigit]

end LogLine

namespace Marker

/-- Whether a marker is a call of the compiler. -/
def isInvocation : Marker → Bool
  | .invocation _ _ => true
  | _ => false

/-- What stands before the calls in the markers of a line. -/
def facts (t : Text) : List Marker :=
  projects t ++ toolsets t ++ compilers t ++ architectures t

section Parts

variable {t : Text} {m : Marker}

/-- What the search for projects finds are projects. -/
theorem exists_of_mem_projects (h : m ∈ projects t) : ∃ path number, m = .project path number := by
  unfold projects at h
  split at h
  · exact ⟨_, _, List.mem_singleton.mp h⟩
  · cases h

theorem exists_of_mem_toolsets (h : m ∈ toolsets t) : ∃ v, m = .toolset v := by
  obtain ⟨pattern, -, hfound⟩ := List.mem_filterMap.mp h
  obtain ⟨v, -, rfl⟩ := Option.map_eq_some_iff.mp hfound
  exact ⟨v, rfl⟩

theorem exists_of_mem_compilers (h : m ∈ compilers t) :
    ∃ full version architecture, m = .compiler full version architecture := by
  unfold compilers at h
  split at h
  · exact ⟨_, _, _, List.mem_singleton.mp h⟩
  · cases h

theorem exists_of_mem_architectures (h : m ∈ architectures t) : ∃ a, m = .architecture a := by
  obtain ⟨pattern, -, hfound⟩ := List.mem_filterMap.mp h
  obtain ⟨a, -, rfl⟩ := Option.map_eq_some_iff.mp hfound
  exact ⟨a, rfl⟩

theorem exists_of_mem_invocations (h : m ∈ invocations t) :
    ∃ compiler arguments, m = .invocation compiler arguments := by
  unfold invocations at h
  split at h
  · exact ⟨_, _, List.mem_singleton.mp h⟩
  · cases h

/-- The facts of a line invoke nothing. -/
theorem not_isInvocation_of_mem_facts (h : m ∈ facts t) : ¬ m.isInvocation := by
  simp only [facts, List.mem_append] at h
  rcases h with ((h | h) | h) | h
  · obtain ⟨_, _, rfl⟩ := exists_of_mem_projects h
    exact Bool.false_ne_true
  · obtain ⟨_, rfl⟩ := exists_of_mem_toolsets h
    exact Bool.false_ne_true
  · obtain ⟨_, _, _, rfl⟩ := exists_of_mem_compilers h
    exact Bool.false_ne_true
  · obtain ⟨_, rfl⟩ := exists_of_mem_architectures h
    exact Bool.false_ne_true

end Parts

/-- The calls of a line are its invocations. -/
theorem filter_isInvocation_ofText (t : Text) : (ofText t).filter isInvocation = invocations t := by
  have hfacts : (facts t).filter isInvocation = [] :=
    List.filter_eq_nil_iff.mpr fun _ hf => not_isInvocation_of_mem_facts hf
  have hcalls : (invocations t).filter isInvocation = invocations t := by
    unfold invocations
    split <;> rfl
  show (facts t ++ invocations t).filter isInvocation = invocations t
  rw [List.filter_append, hfacts, hcalls, List.nil_append]

/-- The markers of a line end with its call, if there is one. -/
theorem ofText_eq_append_invocation {t : Text} {m : Marker} (hm : m ∈ ofText t)
    (hcall : m.isInvocation) :
    ∃ facts, ofText t = facts ++ [m] ∧ ∀ f ∈ facts, ¬ f.isInvocation := by
  refine ⟨facts t, ?_, fun f hf => not_isInvocation_of_mem_facts hf⟩
  have hmem : m ∈ invocations t := by
    rw [← filter_isInvocation_ofText]
    exact List.mem_filter.mpr ⟨hm, hcall⟩
  have hinv : invocations t = [m] := by
    unfold invocations at hmem ⊢
    split at hmem
    · rw [List.mem_singleton.mp hmem]
    · cases hmem
  rw [ofText, hinv, facts]

end Marker

namespace BuildState

/-- Facts give no records. -/
theorem givenAlong_facts (base : Path) (s : BuildState) {es : List Sighting}
    (h : ∀ e ∈ es, ¬ e.marker.isInvocation) : (givenAlong base s es).flatten = [] := by
  induction es generalizing s with
  | nil => rfl
  | cons e rest ih =>
      have hgiven : s.given base e = [] := by
        have hfact := h e List.mem_cons_self
        obtain ⟨line, m⟩ := e
        cases m with
        | invocation compiler arguments => exact absurd rfl hfact
        | _ => rfl
      show s.given base e ++ (givenAlong base (s.see base e) rest).flatten = []
      rw [hgiven, ih _ fun f hf => h f (List.mem_cons_of_mem _ hf), List.append_nil]

end BuildState

namespace BuildLog

/-- **A log of one line.**  A call gives its records with what the other
markers of its line tell. -/
theorem records_singleton {line : Text} {m : Marker}
    (hm : m ∈ Marker.ofText (LogLine.split line).text) (hcall : m.isInvocation) (base : Path) :
    ∃ facts, Marker.ofText (LogLine.split line).text = facts ++ [m] ∧
      records [line] base =
        (Sighting.mk (LogLine.split line).context m).recordsAfter base
          (facts.map (Sighting.mk (LogLine.split line).context)) := by
  obtain ⟨facts, hmarkers, hfacts⟩ := Marker.ofText_eq_append_invocation hm hcall
  have hline : Sighting.ofLines [line] =
      facts.map (Sighting.mk (LogLine.split line).context) ++
        [Sighting.mk (LogLine.split line).context m] := by
    show Sighting.ofLine line ++ [] = _
    rw [List.append_nil, Sighting.ofLine, hmarkers, List.map_append, List.map_singleton]
  have hnone : (BuildState.givenAlong base .start
      (facts.map (Sighting.mk (LogLine.split line).context))).flatten = [] := by
    refine BuildState.givenAlong_facts base .start fun e he => ?_
    obtain ⟨f, hf, rfl⟩ := List.mem_map.mp he
    exact hfacts f hf
  refine ⟨facts, hmarkers, ?_⟩
  rw [records, recordsByLine, flatten_map_readLines, hline, BuildState.givenAlong_append,
    List.flatten_append, hnone, List.nil_append, ← Sighting.given_foldl_see]
  exact List.append_nil _

end BuildLog

/-- A call of the compiler without a path. -/
def callText (arguments : Text) : Text :=
  "cl ".toList ++ arguments

/-- A call of the compiler by its bare name has no line prefix. -/
theorem split_callText (arguments : Text) :
    LogLine.split (callText arguments) = ⟨none, callText arguments⟩ :=
  LogLine.split_cons (by decide) (by decide) (by decide) _

/-- The first word of the call is the compiler. -/
theorem words_callText (arguments : Text) :
    CommandLine.Windows.split (callText arguments) =
      "cl".toList :: CommandLine.Windows.split arguments := by
  have hname : CommandLine.Windows.split "cl".toList = ["cl".toList] := by decide
  have hcut := CommandLine.Windows.split_append_blank (t := "cl".toList) (by decide)
    (c := ' ') (by decide) arguments
  rwa [hname] at hcut

/-- **A log of one call** gives the records of the call, in the context that
the facts of its line make. -/
theorem BuildLog.records_callText {compiler arguments : Text}
    (hcall : .invocation compiler arguments ∈ Marker.ofText (callText arguments)) (base : Path) :
    ∃ facts, Marker.ofText (callText arguments) = facts ++ [.invocation compiler arguments] ∧
      records [callText arguments] base =
        (Sighting.contextAfter base (facts.map (Sighting.mk none)) none).records base
          (Invocation.ofWords .msvc (CommandLine.Windows.split arguments)) := by
  have hsplit := split_callText arguments
  have hline : .invocation compiler arguments ∈
      Marker.ofText (LogLine.split (callText arguments)).text := by rwa [hsplit]
  obtain ⟨facts, hfacts, hrecords⟩ := records_singleton hline rfl base
  rw [hsplit] at hfacts hrecords
  exact ⟨facts, hfacts, hrecords⟩

end BuildEnv
