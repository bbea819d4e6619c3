import BuildEnv.Proofs.Log.Announcement
import BuildEnv.Proofs.Log.Place
import BuildEnv.Proofs.Log.Search

/-!
# The lines of a numbered project

An announcement tells the directory of a project to the number of the project,
and the lines of the project carry the number before them
(`ProjectNumber.numbered`).  What was told last holds until something else is
told (`Sighting.known_append_silent`), so that a call of the compiler on such a
line works in that directory: `BuildLog.recordsByLine_numbered`.

This holds for a number of digits alone.  The announcement drops what follows a
colon, and the line keeps it and so has no number at all;
`BuildLog.recordsByLine_numbered_colon` is such a call.
-/

namespace BuildEnv

/-! ### What was told last -/

namespace Sighting

variable {α : Type} (tell : Marker → Option α)

/-- What was told last is told later if it is told there at all. -/
theorem latest_append (past more : List Sighting) (target : Option Nat) :
    latest tell (past ++ more) target =
      (latest tell more target).or (latest tell past target) := by
  rw [latest, List.filter_append, List.filterMap_append, List.getLast?_append]
  rfl

/-- Sightings that tell nothing leave the latest fact as it is. -/
theorem latest_append_silent {more : List Sighting} (hsilent : ∀ f ∈ more, tell f.marker = none)
    (past : List Sighting) (target : Option Nat) :
    latest tell (past ++ more) target = latest tell past target := by
  have hnone : latest tell more target = none := by
    have hfilter : ((more.filter fun f => f.target = target).filterMap fun f =>
        tell f.marker) = [] :=
      List.filterMap_eq_nil_iff.mpr fun f hf => hsilent f (List.mem_of_mem_filter hf)
    rw [latest, hfilter]
    rfl
  rw [latest_append, hnone, Option.none_or]

variable {e : Sighting} {more : List Sighting}

/-- **A fact holds for its number** until something else is told. -/
theorem known_append_silent {a : α} (htell : tell e.marker = some a)
    (hsilent : ∀ f ∈ more, tell f.marker = none) (past : List Sighting) :
    known tell (past ++ e :: more) e.target = some a := by
  have hlatest : latest tell (past ++ e :: more) e.target = some a := by
    rw [List.append_cons, latest_append_silent tell hsilent, latest_append_singleton,
      if_pos rfl, htell, Option.some_or]
  cases htarget : e.target with
  | none =>
      rw [htarget] at hlatest
      exact hlatest
  | some n =>
      rw [htarget] at hlatest
      rw [known, hlatest, Option.some_or]

/-- A fact for a number does not hold for the lines without one. -/
theorem known_none_append_silent (htarget : e.target ≠ none)
    (hsilent : ∀ f ∈ more, tell f.marker = none) (past : List Sighting) :
    known tell (past ++ e :: more) none = known tell past none := by
  show latest tell (past ++ e :: more) none = latest tell past none
  rw [List.append_cons, latest_append_silent tell hsilent, latest_append_singleton,
    if_neg htarget]

end Sighting

/-! ### The records of one line -/

namespace BuildLog

variable (base : Path) (before after : List Text)

/-- What a line gives depends on the lines before it. -/
theorem getElem?_readLines (s : BuildState) (line : Text) :
    (BuildState.readLines base s (before ++ line :: after))[before.length]? =
      some (((Sighting.ofLines before).foldl (BuildState.see base) s).readLine base line).2 := by
  induction before generalizing s with
  | nil => rfl
  | cons first rest ih =>
      have hlines : Sighting.ofLines (first :: rest) =
          Sighting.ofLine first ++ Sighting.ofLines rest := rfl
      rw [hlines, List.foldl_append, ← BuildState.readLine_state]
      exact ih _

/-- A line with a call gives the records of the call, read with what the lines
before it and the other markers of the line tell. -/
theorem getElem?_recordsByLine {line : Text} {m : Marker}
    (hm : m ∈ Marker.ofText (LogLine.split line).text) (hcall : m.isInvocation) :
    ∃ facts, Sighting.ofLine line = facts ++ [⟨(LogLine.split line).context, m⟩] ∧
      (recordsByLine (before ++ line :: after) base)[before.length]? =
        some ((Sighting.mk (LogLine.split line).context m).recordsAfter base
          (Sighting.ofLines before ++ facts)) := by
  obtain ⟨facts, hmarkers, hfacts⟩ := Marker.ofText_eq_append_invocation hm hcall
  refine ⟨facts.map (Sighting.mk (LogLine.split line).context), ?_, ?_⟩
  · rw [Sighting.ofLine, hmarkers, List.map_append, List.map_singleton]
  · have hsilent : ∀ s, (BuildState.givenAlong base s
        (facts.map (Sighting.mk (LogLine.split line).context))).flatten = [] := by
      refine fun s => BuildState.givenAlong_facts base s fun e he => ?_
      obtain ⟨f, hf, rfl⟩ := List.mem_map.mp he
      exact hfacts f hf
    rw [recordsByLine, List.getElem?_map, getElem?_readLines, Option.map_some,
      BuildState.readLine_given, Sighting.ofLine, hmarkers, List.map_append,
      BuildState.givenAlong_append, List.flatten_append, hsilent, List.nil_append,
      ← List.foldl_append, ← Sighting.given_foldl_see]
    exact congrArg some (List.append_nil _)

end BuildLog

/-! ### The lines of a project -/

namespace Marker

variable {t lead before name arguments : Text}

/-- Only the announcement of a line tells a project. -/
theorem ofText_eq_projects_append (t : Text) :
    ∃ others, ofText t = projects t ++ others ∧ ∀ m ∈ others, m.projectFile? = none := by
  refine ⟨toolsets t ++ compilers t ++ architectures t ++ invocations t, ?_, fun m hm => ?_⟩
  · simp only [ofText, List.append_assoc]
  simp only [List.mem_append] at hm
  rcases hm with ((hm | hm) | hm) | hm
  · obtain ⟨_, rfl⟩ := exists_of_mem_toolsets hm
    rfl
  · obtain ⟨_, _, _, rfl⟩ := exists_of_mem_compilers hm
    rfl
  · obtain ⟨_, rfl⟩ := exists_of_mem_architectures hm
    rfl
  · obtain ⟨_, _, rfl⟩ := exists_of_mem_invocations hm
    rfl

/-- There is one first call at most. -/
theorem FirstCall.unique {before' name' arguments' : Text} (h : FirstCall t before name arguments)
    (h' : FirstCall t before' name' arguments') :
    before = before' ∧ name = name' ∧ arguments = arguments' := by
  obtain ⟨gap, ht, hcall⟩ := h.split
  obtain ⟨gap', ht', hcall'⟩ := h'.split
  have hlength : before.length = before'.length :=
    Nat.le_antisymm (h.first _ _ _ h'.toHasCall) (h'.first _ _ _ h.toHasCall)
  obtain ⟨hbefore, hrest⟩ := List.append_inj (ht.symm.trans ht') hlength
  have hread : call? (name ++ (gap ++ arguments)) = some (name, arguments) :=
    call?_eq_some_iff.mpr ⟨gap, rfl, hcall⟩
  rw [hrest, call?_eq_some_iff.mpr ⟨gap', rfl, hcall'⟩] at hread
  obtain ⟨hname, harguments⟩ := Prod.mk.inj (Option.some.inj hread)
  exact ⟨hbefore, hname.symm, harguments.symm⟩

/-- The search finds the first call, with all that stands before its arguments. -/
theorem FirstCall.search (h : FirstCall t before name arguments) (hline : '\n' ∉ t)
    (lead : Text) :
    callWithPath? lead t = some (lead.reverse ++ (before ++ name), arguments) := by
  rcases callWithPath?_spec lead hline with ⟨-, hno⟩ | ⟨before', name', arguments', hfirst, hfound⟩
  · exact absurd h.toHasCall (hno before name arguments)
  · obtain ⟨rfl, rfl, rfl⟩ := h.unique hfirst
    exact hfound

/-- A call with a path is found behind any text without a separator. -/
theorem FirstCall.mem_ofText_append (h : FirstCall t before name arguments) (hline : '\n' ∉ t)
    {lead : Text} (hlead : ∀ c ∈ lead, ¬ isBeforeCompiler c) :
    ∃ compiler, .invocation compiler arguments ∈ ofText (lead ++ t) := by
  have hbreak : '\n' ∉ lead := fun hmem => hlead _ hmem (by decide)
  have hsearch : callWithPath? [] (lead ++ t) = some (lead ++ (before ++ name), arguments) := by
    rw [callWithPath?_append hbreak, h.search hline, List.append_nil, List.reverse_reverse]
    intro passed c rest hsplit hseparator
    refine absurd hseparator (hlead c ?_)
    rw [hsplit]
    exact List.mem_append_right _ List.mem_cons_self
  refine ⟨Text.trim (lead ++ (before ++ name)), List.mem_append_right _ ?_⟩
  rw [invocations, hsearch]
  exact List.mem_singleton_self _

end Marker

namespace ProjectNumber

/-- A line of the project of the number. -/
def numbered (n : ProjectNumber) (line : Text) : Text :=
  n.text ++ '>' :: line

/-- **The number of a line** is taken off if it consists of digits alone. -/
theorem split_numbered (n : ProjectNumber) (line : Text) :
    LogLine.split (n.numbered line) =
      if n.more = none then ⟨n.value?, line⟩ else ⟨none, n.numbered line⟩ := by
  obtain ⟨digits, more, hdigits, hmore⟩ := n
  cases more with
  | none =>
      have hsplit := LogLine.split_digits hdigits (c := '>') (by decide) (by decide) line
      simpa [numbered, text, value?] using hsplit
  | some m =>
      have hsplit := LogLine.split_digits hdigits (c := ':') (by decide) (by decide)
        (m ++ '>' :: line)
      simpa [numbered, text] using hsplit

/-- No character of a line prefix separates a path from the compiler. -/
theorem not_isBeforeCompiler_of_mem_text (n : ProjectNumber) :
    ∀ c ∈ n.text ++ ['>'], ¬ Marker.isBeforeCompiler c := by
  have hdigits : ∀ {digits : Text}, Text.IsDigits digits →
      ∀ c ∈ digits, ¬ Marker.isBeforeCompiler c := by
    intro digits h c hc
    have hdigit := h.digit c hc
    have hslash : c ≠ '/' := Text.ne_of_isDigit hdigit (by decide)
    have hbackslash : c ≠ '\\' := Text.ne_of_isDigit hdigit (by decide)
    have hquote : c ≠ '"' := Text.ne_of_isDigit hdigit (by decide)
    simp [Marker.isBeforeCompiler, Marker.isPathSeparator, hslash, hbackslash, hquote,
      Text.not_isBlank_of_isDigit hdigit]
  intro c hc
  simp only [text, List.append_assoc, List.mem_append, List.mem_singleton] at hc
  rcases hc with hc | hc | rfl
  · exact hdigits n.isDigits c hc
  · cases hmore : n.more with
    | none => simp [hmore] at hc
    | some m =>
        rw [hmore] at hc
        rcases List.mem_cons.mp hc with rfl | hc
        · decide
        · exact hdigits (n.isDigits_more m hmore) c hc
  · decide

/-- A call with a path is found on a line of a project, in both notations of its
number. -/
theorem mem_ofText_numbered (n : ProjectNumber) {call before name arguments : Text}
    (hline : '\n' ∉ call) (hcall : Marker.FirstCall call before name arguments) :
    ∃ compiler, .invocation compiler arguments ∈
      Marker.ofText (LogLine.split (n.numbered call)).text := by
  rw [split_numbered]
  by_cases hmore : n.more = none
  · have hnil : ∀ c ∈ ([] : Text), ¬ Marker.isBeforeCompiler c := List.forall_mem_nil _
    rw [if_pos hmore]
    exact hcall.mem_ofText_append hline hnil
  · rw [if_neg hmore, numbered, List.append_cons]
    exact hcall.mem_ofText_append hline n.not_isBeforeCompiler_of_mem_text

end ProjectNumber

/-- The first sighting of an announcement tells the project, and no other one
does. -/
theorem Announcement.ofLine_text (a : Announcement) :
    ∃ others, Sighting.ofLine a.text =
        ⟨none, .project a.child a.childNumber.value?⟩ :: others ∧
      ∀ e ∈ others, e.marker.projectFile? = none := by
  have hsplit : LogLine.split a.text = ⟨none, a.text⟩ :=
    LogLine.split_cons (by decide) (by decide) (by decide) _
  obtain ⟨others, hmarkers, hothers⟩ := Marker.ofText_eq_projects_append a.text
  refine ⟨others.map (Sighting.mk none), ?_, fun e he => ?_⟩
  · rw [Sighting.ofLine, hsplit, hmarkers, a.projects_text]
    rfl
  · obtain ⟨m, hm, rfl⟩ := List.mem_map.mp he
    exact hothers m hm

/-- **The paths of an invocation** start at a directory: those of its sources and
those of its include directories. -/
structure ResolvedAt (directory : Path) (i : Invocation) (found : List UnitRecord) : Prop where
  files : found.map UnitRecord.file =
    i.sources.map fun source => directory.absoluteTo (.ofLog source)
  directories : ∀ u ∈ found, u.settings.searchPath =
    .ofList (i.includeDirectories.map fun d => directory.absoluteTo (.ofLog d))

/-- The plainest call names one source. -/
theorem ResolvedAt.files_compileOnly {directory : Path} {found : List UnitRecord}
    (h : ResolvedAt directory
      (.ofWords .msvc (CommandLine.Windows.split "/c main.cpp".toList)) found) :
    found.map UnitRecord.file = [directory.absoluteTo (.ofLog "main.cpp".toList)] := by
  have hsplit : CommandLine.Windows.split "/c main.cpp".toList =
      ["/c".toList, "main.cpp".toList] := by
    decide +kernel
  rw [h.files, hsplit, Invocation.sources_compileOnly (by decide) rfl (by decide)]
  rfl

/-- The paths of a call start at the directory of the project that is known for
its line, or at the base directory. -/
theorem Sighting.resolvedAt_recordsAfter (base : Path) (past : List Sighting) (line : Option Nat)
    (compiler arguments : Text) :
    ResolvedAt (((known Marker.projectFile? past line).bind
        (BuildState.projectDirectory base)).getD base)
      (.ofWords .msvc (CommandLine.Windows.split arguments))
      (recordsAfter base past ⟨line, .invocation compiler arguments⟩) := by
  refine ⟨List.map_map, fun u hu => ?_⟩
  obtain ⟨source, -, rfl⟩ := List.mem_map.mp hu
  rfl

namespace BuildLog

open Sighting

variable (a : Announcement) {call before name arguments : Text}

/-- A call on a line of a project is read with what was known before the project
was announced, the project, and further facts that tell no project.  The line has
the number of the project, if it has one. -/
theorem exists_resolvedAt (hline : '\n' ∉ call)
    (hcall : Marker.FirstCall call before name arguments) (earlier between : List Text)
    (hbetween : ∀ e ∈ ofLines (between ++ [a.childNumber.numbered call]),
      e.marker.projectFile? = none)
    (later : List Text) (base : Path) :
    ∃ more found, (∀ e ∈ more, e.marker.projectFile? = none) ∧
      (recordsByLine ((earlier ++ a.text :: between) ++ a.childNumber.numbered call :: later)
        base)[(earlier ++ a.text :: between).length]? = some found ∧
      ResolvedAt (((known Marker.projectFile?
          (ofLines earlier ++ ⟨none, .project a.child a.childNumber.value?⟩ :: more)
          (if a.childNumber.more = none then a.childNumber.value? else none)).bind
            (BuildState.projectDirectory base)).getD base)
        (.ofWords .msvc (CommandLine.Windows.split arguments)) found := by
  obtain ⟨compiler, hmem⟩ := a.childNumber.mem_ofText_numbered hline hcall
  obtain ⟨facts, hfacts, hfound⟩ :=
    getElem?_recordsByLine base (earlier ++ a.text :: between) later hmem rfl
  obtain ⟨others, hannounced, hothers⟩ := a.ofLine_text
  have hpast : ofLines (earlier ++ a.text :: between) ++ facts = ofLines earlier ++
      ⟨none, .project a.child a.childNumber.value?⟩ :: (others ++ (ofLines between ++ facts)) := by
    simp only [ofLines, List.flatMap_append, List.flatMap_cons, hannounced, List.append_assoc,
      List.cons_append]
  have hsilent : ∀ e ∈ others ++ (ofLines between ++ facts), e.marker.projectFile? = none := by
    intro e he
    rcases List.mem_append.mp he with he | he
    · exact hothers e he
    · refine hbetween e ?_
      rw [ofLines, List.flatMap_append, List.flatMap_singleton, hfacts, ← List.append_assoc]
      exact List.mem_append_left _ he
  have hcontext : (LogLine.split (a.childNumber.numbered call)).context =
      if a.childNumber.more = none then a.childNumber.value? else none := by
    rw [ProjectNumber.split_numbered]
    split <;> rfl
  rw [hpast, hcontext] at hfound
  exact ⟨_, _, hsilent, hfound, resolvedAt_recordsAfter base _ _ compiler arguments⟩

/-- **The lines of a numbered project.**  After the announcement of a project, and
with no other one before it, a call with a path on a line of the project works in
the directory of the project if its number is written in digits alone, or is no
number that can be read.  Otherwise the line has no number and the call works
where the lines without a number did before. -/
theorem recordsByLine_numbered (habsolute : (Path.ofLog a.child).isAbsolute)
    (hline : '\n' ∉ call) (hcall : Marker.FirstCall call before name arguments)
    (earlier between : List Text)
    (hbetween : ∀ e ∈ ofLines (between ++ [a.childNumber.numbered call]),
      e.marker.projectFile? = none)
    (later : List Text) (base : Path) :
    ∃ found,
      (recordsByLine ((earlier ++ a.text :: between) ++ a.childNumber.numbered call :: later)
        base)[(earlier ++ a.text :: between).length]? = some found ∧
      (a.childNumber.more = none ∨ a.childNumber.value? = none →
        ResolvedAt ((Path.ofLog a.child).normalize.parent?.getD base)
          (.ofWords .msvc (CommandLine.Windows.split arguments)) found) ∧
      (a.childNumber.more ≠ none → a.childNumber.value? ≠ none →
        ResolvedAt (((known Marker.projectFile? (ofLines earlier) none).bind
            (BuildState.projectDirectory base)).getD base)
          (.ofWords .msvc (CommandLine.Windows.split arguments)) found) := by
  obtain ⟨more, found, hsilent, hfound, hresolved⟩ :=
    exists_resolvedAt a hline hcall earlier between hbetween later base
  have htarget : Sighting.target ⟨none, .project a.child a.childNumber.value?⟩ =
      a.childNumber.value? := by
    cases a.childNumber.value? <;> rfl
  refine ⟨found, hfound, fun hplain => ?_, fun hmore hvalue => ?_⟩
  · have hsame : (if a.childNumber.more = none then a.childNumber.value? else none) =
        a.childNumber.value? := by
      by_cases hmore : a.childNumber.more = none
      · rw [if_pos hmore]
      · rw [if_neg hmore, hplain.resolve_left hmore]
    have hproject : BuildState.projectDirectory base a.child =
        (Path.ofLog a.child).normalize.parent? := by
      rw [BuildState.projectDirectory, Path.absoluteTo, if_pos habsolute]
    have hknown := known_append_silent Marker.projectFile?
      (e := ⟨none, .project a.child a.childNumber.value?⟩) rfl hsilent (ofLines earlier)
    rw [htarget] at hknown
    rw [hsame, hknown, Option.bind_some, hproject] at hresolved
    exact hresolved
  · have hnumbered : Sighting.target ⟨none, .project a.child a.childNumber.value?⟩ ≠ none := by
      rw [htarget]
      exact hvalue
    rw [if_neg hmore, known_none_append_silent _ hnumbered hsilent] at hresolved
    exact hresolved

/-- A library is announced by its solution. -/
def libraryAnnouncement (n : ProjectNumber) : Announcement where
  parent := "/src/app.sln".toList
  parentNumber := ⟨"1".toList, none, by decide, nofun⟩
  child := "/src/lib/lib.vcxproj".toList
  childNumber := n
  node := "1".toList
  after := " (default targets).".toList
  parent_ne_nil := by decide
  parent_unquoted := by decide
  child_ne_nil := by decide
  child_unquoted := by decide
  isDigits_node := by decide

/-- The call of a compiler in a directory. -/
theorem exists_firstCall_tools : ∃ before name,
    Marker.FirstCall "/tools/cl /c main.cpp".toList before name "/c main.cpp".toList := by
  have hsearch : Marker.callWithPath? [] "/tools/cl /c main.cpp".toList =
      some ("/tools/cl".toList, "/c main.cpp".toList) := by
    decide +kernel
  have hline : '\n' ∉ "/tools/cl /c main.cpp".toList := by decide
  rcases Marker.callWithPath?_spec [] hline with ⟨hnone, -⟩ | ⟨before, name, found, hfirst, hfound⟩
  · rw [hnone] at hsearch
    cases hsearch
  · obtain ⟨-, rfl⟩ := Prod.mk.inj (Option.some.inj (hfound.symm.trans hsearch))
    exact ⟨before, name, hfirst⟩

/-- A call on a line of the library works in the directory of the library, though
the solution was announced before it and a line of it stands between. -/
theorem recordsByLine_numbered_library :
    (Path.ofLog (libraryAnnouncement ⟨"2".toList, none, by decide, nofun⟩).child).isAbsolute ∧
      (∃ before name, Marker.FirstCall "/tools/cl /c main.cpp".toList before name
        "/c main.cpp".toList) ∧
      (∀ e ∈ ofLines ["1>Platform=x64".toList, "2>/tools/cl /c main.cpp".toList],
        e.marker.projectFile? = none) ∧
      ∃ found, (recordsByLine
          ["Project \"/src/app.sln\" on node 1 (default targets).".toList,
            (libraryAnnouncement ⟨"2".toList, none, by decide, nofun⟩).text,
            "1>Platform=x64".toList, "2>/tools/cl /c main.cpp".toList]
          ⟨"/build".toList⟩)[3]? = some found ∧
        found.map UnitRecord.file = [⟨"/src/lib/main.cpp".toList⟩] := by
  have habsolute :
      (Path.ofLog (libraryAnnouncement ⟨"2".toList, none, by decide, nofun⟩).child).isAbsolute := by
    decide +kernel
  have hsightings : ofLines ["1>Platform=x64".toList, "2>/tools/cl /c main.cpp".toList] =
      [⟨some 1, .architecture .x64⟩,
        ⟨some 2, .invocation "/tools/cl".toList "/c main.cpp".toList⟩] := by
    decide +kernel
  have hbetween : ∀ e ∈ ofLines ["1>Platform=x64".toList, "2>/tools/cl /c main.cpp".toList],
      e.marker.projectFile? = none := by
    rw [hsightings]
    decide
  obtain ⟨before, name, hcall⟩ := exists_firstCall_tools
  obtain ⟨found, hfound, hplain, -⟩ := recordsByLine_numbered
    (libraryAnnouncement ⟨"2".toList, none, by decide, nofun⟩) habsolute (by decide) hcall
    ["Project \"/src/app.sln\" on node 1 (default targets).".toList] ["1>Platform=x64".toList]
    hbetween [] ⟨"/build".toList⟩
  refine ⟨habsolute, ⟨before, name, hcall⟩, hbetween, found, hfound, ?_⟩
  rw [(hplain (.inl rfl)).files_compileOnly]
  decide +kernel

/-- With a colon in the number of the library, the same call works in the base
directory and not in the one of the library. -/
theorem recordsByLine_numbered_colon :
    (Path.ofLog (libraryAnnouncement
        ⟨"2".toList, some "3".toList, by decide, by decide⟩).child).normalize.parent? =
      some ⟨"/src/lib".toList⟩ ∧
    ∃ found, (recordsByLine
        [(libraryAnnouncement ⟨"2".toList, some "3".toList, by decide, by decide⟩).text,
          "2:3>/tools/cl /c main.cpp".toList] ⟨"/build".toList⟩)[1]? = some found ∧
      found.map UnitRecord.file = [⟨"/build/main.cpp".toList⟩] := by
  have hsightings : ofLines ["2:3>/tools/cl /c main.cpp".toList] =
      [⟨none, .invocation "2:3>/tools/cl".toList "/c main.cpp".toList⟩] := by
    decide +kernel
  have hbetween : ∀ e ∈ ofLines ["2:3>/tools/cl /c main.cpp".toList],
      e.marker.projectFile? = none := by
    rw [hsightings]
    decide
  obtain ⟨_, _, hcall⟩ := exists_firstCall_tools
  obtain ⟨more, found, hsilent, hfound, hresolved⟩ := exists_resolvedAt
    (libraryAnnouncement ⟨"2".toList, some "3".toList, by decide, by decide⟩) (by decide)
    hcall [] [] hbetween [] ⟨"/build".toList⟩
  have hbase : ResolvedAt ⟨"/build".toList⟩
      (.ofWords .msvc (CommandLine.Windows.split "/c main.cpp".toList)) found := by
    rw [if_neg (by decide), known_none_append_silent Marker.projectFile? ?_ hsilent] at hresolved
    · exact hresolved
    · decide
  refine ⟨by decide +kernel, found, hfound, ?_⟩
  rw [hbase.files_compileOnly]
  decide +kernel

end BuildLog

end BuildEnv
