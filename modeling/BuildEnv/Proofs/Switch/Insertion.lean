import BuildEnv.Proofs.Path.Normal
import BuildEnv.Proofs.Switch.Table
import BuildEnv.Proofs.Text.Scanner

/-!
# A word between the words of a command line

The steps of a walk up to some place do not change with the words behind that
place (`Dialect.Reaches.exchange`).  So a word can be put wherever the walk comes
to a word (`Dialect.SwitchPlace`), and the walk takes the same steps before it.
If the word says nothing, the invocation is the same as without it; if it is a
source, that is all that it adds.

The switches for precompiled headers are in no rule.  With a dash they say
nothing.  With a slash they are read as the path of a file, so that a header
whose name has one more slash and ends like a source counts as a source:
`Invocation.ofWords_insert_header` says what they add, and
`Invocation.ofWords_insert_header_path` is a header that is compiled.
-/

namespace BuildEnv

namespace Text

/-- What has no separator is put before the first part. -/
theorem splitOn_append_of_not_mem {sep : Char} {lead : Text} (h : sep ∉ lead) {t part : Text}
    {parts : List Text} (ht : splitOn sep t = part :: parts) :
    splitOn sep (lead ++ t) = (lead ++ part) :: parts := by
  induction lead with
  | nil => exact ht
  | cons c lead ih =>
      obtain ⟨hc, hlead⟩ : sep ≠ c ∧ sep ∉ lead := by simpa using h
      rw [List.cons_append, splitOn, if_neg (Ne.symm hc), ih hlead]
      rfl

end Text

namespace Switch

/-- What stands before the first dot is no extension. -/
theorem isSourceName_append {lead : Text} (h : '.' ∉ lead) (name : Text) :
    isSourceName (lead ++ name) = isSourceName name := by
  obtain ⟨part, parts, hparts⟩ : ∃ part parts, Text.splitOn '.' name = part :: parts :=
    List.exists_cons_of_ne_nil (Text.splitOn_ne_nil name)
  unfold isSourceName
  rw [Text.splitOn_append_of_not_mem h hparts, hparts, List.reverse_cons, List.reverse_cons]
  cases parts.reverse with
  | nil => rfl
  | cons extension before => cases before <;> rfl

/-! ### What stands behind a switch -/

/-- A rule that takes one word, or none, does not look at the words behind it,
unless they are missing. -/
theorem Rule.accept?_congr {rule : Rule} {word : Text} {next : List Text} (hnext : next ≠ [])
    (h : ∀ found, rule.accept? word next = some found → found.consumed = 1) (next' : List Text) :
    rule.accept? word next' = rule.accept? word next := by
  obtain ⟨argument, later, rfl⟩ := List.exists_cons_of_ne_nil hnext
  revert h
  unfold accept?
  cases Text.after? rule.switch word with
  | none => exact fun _ => rfl
  | some rest =>
      cases rest with
      | cons c rest => exact fun _ => by cases rule.shape <;> rfl
      | nil =>
          cases rule.shape with
          | bare => exact fun _ => rfl
          | glued => exact fun _ => rfl
          | gluedOrNext => exact fun h => nomatch h _ rfl

/-- A match of one word only does not depend on the words behind. -/
theorem firstMatch?_congr_next {rules : List Rule} {word : Text} {next : List Text}
    (hnext : next ≠ [])
    (h : ∀ found, firstMatch? rules word next = some found → found.consumed = 1)
    (next' : List Text) : firstMatch? rules word next' = firstMatch? rules word next := by
  unfold firstMatch? at h ⊢
  induction rules with
  | nil => rfl
  | cons rule rules ih =>
      have hrule : rule.accept? word next' = rule.accept? word next := by
        refine Rule.accept?_congr hnext (fun found hfound => h found ?_) next'
        rw [List.findSome?_cons, hfound]
      rw [List.findSome?_cons, List.findSome?_cons, hrule]
      cases hfirst : rule.accept? word next with
      | some found => rfl
      | none =>
          refine ih fun found hfound => h found ?_
          rw [List.findSome?_cons, hfirst]
          exact hfound

namespace Dialect

variable {d : Dialect} {word : Text} {next words rest front back : List Text}
  {steps : List Step}

/-- A match of one word only does not depend on the words behind. -/
theorem match?_congr (hnext : next ≠ [])
    (h : ∀ found, d.match? (word :: next) = some found → found.consumed = 1)
    (next' : List Text) : d.match? (word :: next') = d.match? (word :: next) := by
  rw [match?, match?, matchBy?, matchBy?]
  cases hcanonical : d.canonical? word with
  | none => rfl
  | some switch =>
      refine firstMatch?_congr_next hnext (fun found hfound => h found ?_) next'
      rw [match?, matchBy?, hcanonical]
      exact hfound

/-- A step that takes one word does not look at the words behind it, unless they
are missing. -/
theorem step_congr (hnext : next ≠ []) (h : (d.step word next).consumed = 1)
    (next' : List Text) : d.step word next' = d.step word next := by
  rw [step] at h
  rw [step, step]
  by_cases hfile : (word.head? == some '@') = true
  · rw [if_pos hfile, if_pos hfile]
  · rw [if_neg hfile] at h
    rw [match?_congr hnext (fun found hfound => ?_) next']
    rw [hfound] at h
    exact h

/-- The words after its own that a step takes, and what stands behind them. -/
theorem exists_taken (d : Dialect) (word : Text) (next : List Text) :
    ∃ taken, next = taken ++ (word :: next).drop (d.step word next).consumed ∧
      taken.length = (d.step word next).taken := by
  obtain ⟨hconsumed, hfits⟩ := consumed_step d word next
  rw [hconsumed, List.length_cons] at hfits
  rw [hconsumed, List.drop_succ_cons]
  exact ⟨next.take (d.step word next).taken, (List.take_append_drop _ _).symm,
    List.length_take_of_le (Nat.le_of_succ_le_succ hfits)⟩

/-- A step does not look behind the words that it takes, unless there are none and
the switch waits for one. -/
theorem step_taken_append {taken behind : List Text} (hnext : next = taken ++ behind)
    (htaken : taken.length = (d.step word next).taken) (hwait : next ≠ [] ∨ ¬ d.Awaits word)
    (behind' : List Text) : d.step word (taken ++ behind') = d.step word next := by
  cases taken with
  | cons argument more =>
      rw [hnext, step_append (.inl (List.cons_ne_nil _ _)),
        step_append (.inl (List.cons_ne_nil _ _))]
  | nil =>
      by_cases hne : next = []
      · rw [hne] at hwait ⊢
        exact step_append (hwait.imp_left fun h => absurd rfl h) behind'
      · refine step_congr hne ?_ _
        rw [(consumed_step d word next).1, ← htaken]
        rfl

/-- A step and a run from where it ends are a run. -/
theorem Reaches.cons {step : Step} (hstep : d.step word next = step)
    (hgoes : step.endsOptions = false)
    (htail : d.Reaches ((word :: next).drop step.consumed) steps rest) :
    d.Reaches (word :: next) (step :: steps) rest := by
  subst hstep
  exact .step hgoes (consumed_step d word next).2 htail

/-- **The steps up to a place do not change** with the words behind it, unless
there are none and the last switch waits for one. -/
theorem Reaches.exchange (h : d.Reaches words steps rest)
    (hsettled : rest ≠ [] ∨ ∀ steps word, d.Reaches words steps [word] → ¬ d.Awaits word) :
    ∃ front, words = front ++ rest ∧ ∀ rest', d.Reaches (front ++ rest') steps rest' := by
  induction h with
  | refl words => exact ⟨[], rfl, .refl⟩
  | @step word next rest steps hgoes hfits tail ih =>
      obtain ⟨front, hfront, hreaches⟩ := ih (hsettled.imp_right fun hlast steps' word' htail =>
        hlast _ word' (.step hgoes hfits htail))
      obtain ⟨taken, hnext, htaken⟩ := exists_taken d word next
      rw [hfront] at hnext
      have hwait : next ≠ [] ∨ ¬ d.Awaits word := by
        rcases hsettled with hrest | hlast
        · exact .inl (by simp [hnext, hrest])
        · by_cases hnil : next = []
          · subst hnil
            exact .inr (hlast [] word (.refl _))
          · exact .inl hnil
      refine ⟨word :: (taken ++ front), by simp [hnext], fun rest' => ?_⟩
      have hstep : d.step word (taken ++ front ++ rest') = d.step word next := by
        rw [List.append_assoc]
        exact step_taken_append hnext htaken hwait _
      have hbehind : (word :: (taken ++ front ++ rest')).drop (d.step word next).consumed =
          front ++ rest' := by
        rw [(consumed_step d word next).1, ← htaken, List.drop_succ_cons, List.append_assoc,
          List.drop_left]
      exact .cons hstep hgoes (hbehind ▸ hreaches rest')

/-- The walk goes on from where a run has come to. -/
theorem Reaches.walk_eq (h : d.Reaches words steps rest) : d.walk words = steps ++ d.walk rest := by
  induction h with
  | refl words => rfl
  | step hgoes hfits tail ih => rw [walk_cons, if_neg (by simp [hgoes]), ih, List.cons_append]

/-- **A place for a switch.**  A word that is put between the words is one that
the walk comes to: neither the argument of a switch, nor for the linker. -/
def SwitchPlace (d : Dialect) (front back : List Text) : Prop :=
  ∃ word steps, d.Reaches (front ++ word :: back) steps (word :: back)

/-- There is a place for a switch wherever a walk comes to, but not at the end of
words of which the last one waits for an argument. -/
theorem Reaches.switchPlace (h : d.Reaches (front ++ back) steps back)
    (hsettled : back ≠ [] ∨
      ∀ steps word, d.Reaches (front ++ back) steps [word] → ¬ d.Awaits word) :
    d.SwitchPlace front back := by
  obtain ⟨front', hfront, hreaches⟩ := h.exchange hsettled
  obtain rfl := List.append_cancel_right hfront
  exact ⟨[], steps, hreaches _⟩

/-- The walk takes the same steps up to the place, whatever stands there. -/
theorem SwitchPlace.walk_append (h : d.SwitchPlace front back) :
    ∃ steps, ∀ rest, d.walk (front ++ rest) = steps ++ d.walk rest := by
  obtain ⟨word, steps, hreaches⟩ := h
  obtain ⟨front', hfront, hrest⟩ := hreaches.exchange (.inl (List.cons_ne_nil _ _))
  obtain rfl := List.append_cancel_right hfront
  exact ⟨steps, fun rest => (hrest rest).walk_eq⟩

/-! ### The switches for precompiled headers -/

/-- The switches that make and use a precompiled header, without their mark. -/
def headerSwitches : List Text :=
  ["Yc".toList, "Yu".toList]

variable {name : Text}

/-- No rule takes a switch for a precompiled header. -/
theorem match?_header (hname : name ∈ headerSwitches) {file : Text}
    (hword : unmarked? word = some (name ++ file)) (next : List Text) :
    msvc.match? (word :: next) = none := by
  have hrules : ∀ name ∈ headerSwitches, ∀ rule ∈ msvcTable,
      Text.after? rule.switch ('/' :: name) = none ∧
        Text.after? ('/' :: name) rule.switch = none := by
    decide
  refine match?_eq_none (fun switch hcanonical rule hrule => ?_) next
  obtain ⟨name', -, hword', rfl⟩ := canonical?_eq_some_iff.mp hcanonical
  obtain rfl := Option.some.inj (hword.symm.trans hword')
  obtain ⟨hbegins, hbegins'⟩ := hrules name hname rule hrule
  exact Text.after?_append_eq_none hbegins hbegins' file

/-- A switch about a header is unknown, or it is taken for a source file. -/
theorem step_header (hname : name ∈ headerSwitches) {file : Text}
    (hword : unmarked? word = some (name ++ file)) (next : List Text) :
    msvc.step word next = if msvc.isSource word then .sourceFile word else .unknown word :=
  step_of_match?_eq_none (head?_ne_of_unmarked? hword) (match?_header hname hword next)

/-- With a slash, the switch is read as a path if the header has a directory. -/
theorem isSource_header (hname : name ∈ headerSwitches) (file : Text) :
    msvc.isSource ('/' :: (name ++ file)) ↔ '/' ∈ file ∧ isSourceName file := by
  have hplain : ∀ name ∈ headerSwitches, '/' ∉ name ∧ '.' ∉ '/' :: name := by decide
  obtain ⟨hslash, hdot⟩ := hplain name hname
  have hsource : isSourceName ('/' :: (name ++ file)) = isSourceName file :=
    isSourceName_append hdot file
  simp [isSource, hsource, hslash]

end Dialect

end Switch

namespace Invocation

open Switch Switch.Dialect

variable {d : Dialect} {word : Text} {front back : List Text}

/-- Steps add their sources to those that are there. -/
theorem sources_foldl_addStep (i : Invocation) (steps : List Step) :
    (steps.foldl addStep i).sources = i.sources ++ (steps.foldl addStep empty).sources := by
  refine foldl_addStep_append sources rfl (fun i step => ?_) i steps
  cases step <;> simp [addStep, addSwitch, empty]

/-- Nothing else depends on the sources. -/
theorem foldl_addStep_sources (i : Invocation) (names : List Text) (steps : List Step) :
    steps.foldl addStep { i with sources := names } =
      { steps.foldl addStep i with
        sources := names ++ (steps.foldl addStep empty).sources } := by
  induction steps generalizing i names with
  | nil => exact congrArg (fun names => { i with sources := names }) (List.append_nil names).symm
  | cons step steps ih =>
      have hstep : addStep { i with sources := names } step =
          { i.addStep step with sources := names ++ (empty.addStep step).sources } := by
        cases step <;> simp [addStep, addSwitch, empty]
      rw [List.foldl_cons, hstep, ih, List.append_assoc, ← sources_foldl_addStep]
      rfl

/-- A word that says nothing can be put anywhere. -/
theorem ofWords_insert_unknown (hplace : d.SwitchPlace front back)
    (hword : d.step word back = .unknown word) :
    ofWords d (front ++ word :: back) = ofWords d (front ++ back) := by
  obtain ⟨steps, hsteps⟩ := hplace.walk_append
  have hwalk : d.walk (word :: back) = .unknown word :: d.walk back := by
    rw [walk_cons, hword]
    rfl
  rw [ofWords, ofWords, hsteps, hsteps, hwalk, List.foldl_append, List.foldl_append]
  rfl

/-- A source that is put between the words is all that is added. -/
theorem ofWords_insert_source (hplace : d.SwitchPlace front back)
    (hword : d.step word back = .sourceFile word) :
    ∃ before after, (ofWords d (front ++ back)).sources = before ++ after ∧
      ofWords d (front ++ word :: back) =
        { ofWords d (front ++ back) with sources := before ++ word :: after } := by
  obtain ⟨steps, hsteps⟩ := hplace.walk_append
  have hwalk : d.walk (word :: back) = .sourceFile word :: d.walk back := by
    rw [walk_cons, hword]
    rfl
  refine ⟨(steps.foldl addStep empty).sources, (ofWords d back).sources, ?_, ?_⟩
  · rw [ofWords, ofWords, hsteps, List.foldl_append, sources_foldl_addStep]
  · rw [ofWords, ofWords, ofWords, hsteps, hsteps, hwalk, List.foldl_append, List.foldl_append,
      List.foldl_cons]
    refine (foldl_addStep_sources _ _ _).trans ?_
    rw [List.append_assoc]
    rfl

/-- **Switches for precompiled headers.**  With a dash they say nothing, wherever
they stand.  With a slash they say nothing either, unless the header has a
directory and ends like a source: then the switch is one more source. -/
theorem ofWords_insert_header {name : Text} (hname : name ∈ headerSwitches) (file : Text)
    (hplace : msvc.SwitchPlace front back) :
    ofWords .msvc (front ++ ('-' :: (name ++ file)) :: back) = ofWords .msvc (front ++ back) ∧
      (¬ ('/' ∈ file ∧ isSourceName file) →
        ofWords .msvc (front ++ ('/' :: (name ++ file)) :: back) =
          ofWords .msvc (front ++ back)) ∧
      ('/' ∈ file ∧ isSourceName file →
        ∃ before after, (ofWords .msvc (front ++ back)).sources = before ++ after ∧
          ofWords .msvc (front ++ ('/' :: (name ++ file)) :: back) =
            { ofWords .msvc (front ++ back) with
              sources := before ++ ('/' :: (name ++ file)) :: after }) := by
  have hslash : msvc.step ('/' :: (name ++ file)) back = if msvc.isSource ('/' :: (name ++ file))
      then .sourceFile ('/' :: (name ++ file)) else .unknown ('/' :: (name ++ file)) :=
    step_header hname rfl back
  refine ⟨ofWords_insert_unknown hplace (step_header hname rfl back), fun hplain => ?_,
    fun hpath => ?_⟩
  · refine ofWords_insert_unknown hplace ?_
    rw [hslash, if_neg (mt (isSource_header hname file).mp hplain)]
  · refine ofWords_insert_source hplace ?_
    rw [hslash, if_pos ((isSource_header hname file).mpr hpath)]

/-- Behind a directory for included files, a header without directory is no
source. -/
theorem ofWords_insert_header_plain :
    "Yu".toList ∈ headerSwitches ∧
      msvc.SwitchPlace ["/I".toList, "include".toList] ["main.cpp".toList] ∧
      ofWords .msvc ["/I".toList, "include".toList, "/Yustdafx.h".toList, "main.cpp".toList] =
        ofWords .msvc ["/I".toList, "include".toList, "main.cpp".toList] := by
  have hname : "Yu".toList ∈ headerSwitches := by decide
  have hdirectory : msvc.step "/I".toList ["include".toList, "main.cpp".toList] =
      .switch ⟨.includeDirectory, some "include".toList, 2⟩ := by
    cbv
  have hplace : msvc.SwitchPlace ["/I".toList, "include".toList] ["main.cpp".toList] :=
    Reaches.switchPlace (.cons hdirectory rfl (.refl _)) (.inl (List.cons_ne_nil _ _))
  exact ⟨hname, hplace,
    (ofWords_insert_header hname "stdafx.h".toList hplace).2.1 (by decide)⟩

/-- A header that is read as a source, unless its switch is written with a dash. -/
theorem ofWords_insert_header_path :
    msvc.SwitchPlace ["/c".toList] ["main.cpp".toList] ∧
      (ofWords .msvc ["/c".toList, "main.cpp".toList]).sources = ["main.cpp".toList] ∧
      ofWords .msvc ["/c".toList, "-Ycpch/stdafx.h".toList, "main.cpp".toList] =
        ofWords .msvc ["/c".toList, "main.cpp".toList] ∧
      (ofWords .msvc ["/c".toList, "/Ycpch/stdafx.h".toList, "main.cpp".toList]).sources =
        ["/Ycpch/stdafx.h".toList, "main.cpp".toList] := by
  have hcompile : msvc.step "/c".toList ["main.cpp".toList] = .unknown "/c".toList := by cbv
  have hplace : msvc.SwitchPlace ["/c".toList] ["main.cpp".toList] :=
    Reaches.switchPlace (.cons hcompile rfl (.refl _)) (.inl (List.cons_ne_nil _ _))
  have hdash : msvc.step "-Ycpch/stdafx.h".toList ["main.cpp".toList] =
      .unknown "-Ycpch/stdafx.h".toList :=
    step_header (List.mem_cons_self : "Yc".toList ∈ headerSwitches) rfl _
  exact ⟨hplace, sources_compileOnly (by decide) rfl (by decide),
    ofWords_insert_unknown hplace hdash, by cbv⟩

end Invocation

end BuildEnv
