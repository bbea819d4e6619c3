import BuildEnv.Proofs.Log.Sighting

/-!
# The contexts of a parallel build do not disturb each other

Two states agree on a number when they hold the same shared context and the
same context of that number (`BuildState.AgreeOn`).  Every marker keeps the
agreement when it acts on both states (`AgreeOn.see`), and a marker that is
routed to another number keeps it even when it acts on one state only
(`AgreeOn.skip`).  So the records of the lines of a number stay the same when
the lines of other numbers are deleted or moved.
-/

namespace BuildEnv

namespace Sighting

/-- Whether the marker is routed to a number other than the given one. -/
def isForeign (c : Option Nat) (e : Sighting) : Bool :=
  e.target.isSome && e.target != c

/-- Whether all markers of a line are routed to numbers other than the given
one. -/
def isForeignLine (c : Option Nat) (line : Text) : Bool :=
  (ofLine line).all (isForeign c)

/-- Whether a line announces the project of a number. -/
def announces (n : Nat) (line : Text) : Bool :=
  (ofLine line).any fun e => match e.marker with
    | .project _ own => own == some n
    | _ => false

/-- Whether a line is one of a number, one without a number, or one that
announces the project of the number. -/
def concerns (c : Option Nat) (line : Text) : Bool :=
  (LogLine.split line).context == c || (LogLine.split line).context == none ||
    c.any (announces · line)

/-- Only the lines that concern a number can tell something about it. -/
theorem concerns_of_not_isForeignLine {c : Option Nat} {line : Text}
    (h : ¬ isForeignLine c line) : concerns c line := by
  simp only [isForeignLine, List.all_eq_true, not_forall] at h
  obtain ⟨⟨prefixed, m⟩, he, hforeign⟩ := h
  obtain rfl : prefixed = (LogLine.split line).context := line_of_mem_ofLine he
  unfold concerns
  generalize hprefix : (LogLine.split line).context = prefixed at he hforeign
  cases prefixed with
  | none => simp
  | some k =>
      cases m with
      | project path own =>
          cases own with
          | none =>
              have hc : some k = c := by
                simpa [isForeign, target] using hforeign
              simp [← hc]
          | some n =>
              have hc : some n = c := by
                simpa [isForeign, target] using hforeign
              have hannounces : announces n line := List.any_eq_true.mpr ⟨_, he, by simp⟩
              simp [← hc, hannounces]
      | _ =>
          have hc : some k = c := by
            simpa [isForeign, target] using hforeign
          simp [← hc]

end Sighting

namespace BuildState

/-- The states hold the same about the lines without a number and about the
given number. -/
structure AgreeOn (c : Option Nat) (s t : BuildState) : Prop where
  shared : s.shared = t.shared
  own : ∀ n, c = some n → s.numbered.lookup n = t.numbered.lookup n

variable {base : Path} {c : Option Nat} {s t : BuildState}

/-- States that agree on a number have the same context for it. -/
theorem AgreeOn.context (h : AgreeOn c s t) : s.context c = t.context c := by
  cases c with
  | none => exact h.shared
  | some n => simp [BuildState.context, h.shared, h.own n rfl]

/-- Setting a context of other numbers keeps what a state holds. -/
theorem agreeOn_setContext_foreign {target : Option Nat} (hsome : target.isSome)
    (hne : target ≠ c) (d : BuildContext) : AgreeOn c (s.setContext d target) s := by
  obtain ⟨k, rfl⟩ := Option.isSome_iff_exists.mp hsome
  refine ⟨rfl, fun n hn => lookup_setEntry_of_ne ?_ _ _⟩
  rintro rfl
  exact hne hn.symm

theorem AgreeOn.trans {u : BuildState} (h : AgreeOn c s t) (h' : AgreeOn c t u) : AgreeOn c s u :=
  ⟨h.shared.trans h'.shared, fun n hn => (h.own n hn).trans (h'.own n hn)⟩

theorem AgreeOn.symm (h : AgreeOn c s t) : AgreeOn c t s :=
  ⟨h.shared.symm, fun n hn => (h.own n hn).symm⟩

/-- A marker of another number may act on one state alone. -/
theorem AgreeOn.skip {e : Sighting} (h : AgreeOn c s t) (hforeign : e.isForeign c) :
    AgreeOn c (s.see base e) t := by
  obtain ⟨hsome, hne⟩ := Bool.and_eq_true_iff.mp hforeign
  rw [see_eq]
  exact (agreeOn_setContext_foreign hsome (by simpa using hne) _).trans h

/-- **One marker.**  A marker that acts on both states keeps their
agreement. -/
theorem AgreeOn.see (h : AgreeOn c s t) (e : Sighting) :
    AgreeOn c (s.see base e) (t.see base e) := by
  by_cases hforeign : e.isForeign c
  · have hskip : AgreeOn c (t.see base e) t := AgreeOn.skip ⟨rfl, fun _ _ => rfl⟩ hforeign
    exact (h.skip hforeign).trans hskip.symm
  have hcontext : s.context e.target = t.context e.target := by
    cases htarget : e.target with
    | none => exact h.shared
    | some k =>
        have hc : some k = c := by simpa [Sighting.isForeign, htarget] using hforeign
        exact hc ▸ h.context
  rw [see_eq, see_eq, hcontext]
  cases e.target with
  | none => exact ⟨rfl, h.own⟩
  | some k =>
      refine ⟨h.shared, fun n hn => ?_⟩
      by_cases hk : n = k
      · subst hk
        exact (lookup_setEntry_self _ _ _).trans (lookup_setEntry_self _ _ _).symm
      · exact (lookup_setEntry_of_ne hk _ _).trans
          ((h.own n hn).trans (lookup_setEntry_of_ne hk _ _).symm)

/-- The same sightings keep agreement. -/
theorem AgreeOn.foldl_see (h : AgreeOn c s t) (es : List Sighting) :
    AgreeOn c (es.foldl (BuildState.see base) s) (es.foldl (BuildState.see base) t) := by
  induction es generalizing s t with
  | nil => exact h
  | cons e rest ih => exact ih (h.see e)

/-- Foreign sightings may act on one state alone. -/
theorem AgreeOn.foldl_skip {es : List Sighting} (h : AgreeOn c s t)
    (hforeign : ∀ e ∈ es, e.isForeign c) : AgreeOn c (es.foldl (BuildState.see base) s) t := by
  induction es generalizing s with
  | nil => exact h
  | cons e rest ih =>
      exact ih (h.skip (hforeign e List.mem_cons_self))
        fun f hf => hforeign f (List.mem_cons_of_mem _ hf)

/-- States that agree on a line's number give the same records for the line. -/
theorem AgreeOn.given {e : Sighting} (h : AgreeOn c s t) (he : e.line = c) :
    s.given base e = t.given base e := by
  subst he
  unfold BuildState.given
  cases e.marker with
  | invocation compiler arguments => simp only [outcome, h.context]
  | _ => rfl

/-- Lines of the number give the same in both states. -/
theorem AgreeOn.givenAlong {es : List Sighting} (h : AgreeOn c s t)
    (hes : ∀ e ∈ es, e.line = c) :
    BuildState.givenAlong base s es = BuildState.givenAlong base t es := by
  induction es generalizing s t with
  | nil => rfl
  | cons e rest ih =>
      show _ :: _ = _ :: _
      rw [h.given (hes e List.mem_cons_self),
        ih (h.see e) fun f hf => hes f (List.mem_cons_of_mem _ hf)]

/-- A marker of another number gives nothing on a line of the number. -/
theorem givenAlong_foreign {es : List Sighting} (hes : ∀ e ∈ es, e.line = c)
    (hforeign : ∀ e ∈ es, e.isForeign c) : (givenAlong base s es).flatten = [] := by
  induction es generalizing s with
  | nil => rfl
  | cons e rest ih =>
      have hgiven : s.given base e = [] := by
        have hline := hes e List.mem_cons_self
        have hother := hforeign e List.mem_cons_self
        obtain ⟨line, m⟩ := e
        cases m with
        | invocation compiler arguments =>
            obtain rfl : line = c := hline
            simp [Sighting.isForeign, Sighting.target] at hother
        | _ => rfl
      show s.given base e ++ (givenAlong base (s.see base e) rest).flatten = []
      rw [hgiven, ih (fun f hf => hes f (List.mem_cons_of_mem _ hf))
        fun f hf => hforeign f (List.mem_cons_of_mem _ hf), List.append_nil]

end BuildState

namespace BuildLog

/-- The records that each line gives, together with the line, from a state
on. -/
def attributedFrom (base : Path) (s : BuildState) (lines : List Text) : List (Text × UnitRecord) :=
  (lines.zip ((BuildState.readLines base s lines).map fun outcomes =>
    outcomes.flatMap (·.value))).flatMap fun (line, records) => records.map (Prod.mk line)

/-- The records of a log, each together with the line that gave it. -/
def attributed (lines : List Text) (base : Path) : List (Text × UnitRecord) :=
  (lines.zip (recordsByLine lines base)).flatMap fun (line, records) => records.map (Prod.mk line)

/-- The records that the lines of a number give, each together with its
line. -/
def recordsOn (c : Option Nat) (lines : List Text) (base : Path) : List (Text × UnitRecord) :=
  (attributed lines base).filter fun (line, _) => (LogLine.split line).context = c

variable {base : Path} {c : Option Nat}

/-- The records of the first line come first, and it leaves its state to the rest. -/
theorem attributedFrom_cons (s : BuildState) (line : Text) (rest : List Text) :
    attributedFrom base s (line :: rest) =
      (BuildState.givenAlong base s (Sighting.ofLine line)).flatten.map (Prod.mk line) ++
        attributedFrom base ((Sighting.ofLine line).foldl (BuildState.see base) s) rest := by
  rw [← BuildState.readLine_given, ← BuildState.readLine_state]
  simp only [attributedFrom, BuildState.readLines, List.map_cons, List.zip_cons_cons,
    List.flatMap_cons]

theorem filter_map_mk (line : Text) (rs : List UnitRecord) :
    (rs.map (Prod.mk line)).filter (fun (line, _) => (LogLine.split line).context = c) =
      if (LogLine.split line).context = c then rs.map (Prod.mk line) else [] := by
  split
  · next hc =>
    refine List.filter_eq_self.mpr fun x hx => ?_
    obtain ⟨r, _, rfl⟩ := List.mem_map.mp hx
    exact decide_eq_true hc
  · next hc =>
    refine List.filter_eq_nil_iff.mpr fun x hx => ?_
    obtain ⟨r, _, rfl⟩ := List.mem_map.mp hx
    exact fun h => hc (of_decide_eq_true h)

/-- **All lines.**  States that agree on a number give the same on its lines,
and lines all of whose markers are foreign may be read by one of them only. -/
theorem filter_attributedFrom {s t : BuildState} (h : BuildState.AgreeOn c s t)
    (lines : List Text) :
    (attributedFrom base s lines).filter (fun (line, _) => (LogLine.split line).context = c) =
      (attributedFrom base t (lines.filter fun line => !Sighting.isForeignLine c line)).filter
        fun (line, _) => (LogLine.split line).context = c := by
  induction lines generalizing s t with
  | nil => rfl
  | cons line rest ih =>
      have hline : ∀ e ∈ Sighting.ofLine line, e.line = (LogLine.split line).context :=
        fun e he => Sighting.line_of_mem_ofLine he
      rw [attributedFrom_cons, List.filter_append, filter_map_mk]
      by_cases hforeign : Sighting.isForeignLine c line
      · -- the line is deleted on the right and gives nothing to the number on the left
        have hall : ∀ e ∈ Sighting.ofLine line, e.isForeign c := List.all_eq_true.mp hforeign
        rw [List.filter_cons_of_neg (by simpa using hforeign), ih (h.foldl_skip hall)]
        split
        · next hc =>
          rw [BuildState.givenAlong_foreign (hc ▸ hline) hall, List.map_nil, List.nil_append]
        · rw [List.nil_append]
      · rw [List.filter_cons_of_pos (by simpa using hforeign), attributedFrom_cons,
          List.filter_append, filter_map_mk, ih (h.foldl_see (Sighting.ofLine line))]
        split
        · next hc => rw [h.givenAlong (hc ▸ hline)]
        · rfl

/-- Foreign lines may be left out. -/
theorem recordsOn_filter (lines : List Text) :
    recordsOn c lines base =
      recordsOn c (lines.filter fun line => !Sighting.isForeignLine c line) base :=
  filter_attributedFrom ⟨rfl, fun _ _ => rfl⟩ lines

/-- **Isolation.**  The lines of a number give the same records when all lines
are deleted whose markers are routed to other numbers.  So they give the same
records in every two logs that have the same lines of the number, lines without
a number and announcements of its project, in the same order, however the lines
of other numbers stand between them. -/
theorem recordsOn_isolated (c : Option Nat) (base : Path) :
    (∀ lines, recordsOn c lines base =
      recordsOn c (lines.filter fun line => !Sighting.isForeignLine c line) base) ∧
    ∀ lines lines', lines.filter (Sighting.concerns c) = lines'.filter (Sighting.concerns c) →
      recordsOn c lines base = recordsOn c lines' base := by
  refine ⟨recordsOn_filter, fun lines lines' h => ?_⟩
  have hkept : ∀ ls : List Text, (ls.filter fun line => !Sighting.isForeignLine c line) =
      (ls.filter (Sighting.concerns c)).filter fun line => !Sighting.isForeignLine c line := by
    intro ls
    rw [List.filter_filter]
    refine List.filter_congr fun line _ => ?_
    by_cases hforeign : Sighting.isForeignLine c line
    · simp [hforeign]
    · simp [hforeign, Sighting.concerns_of_not_isForeignLine hforeign]
  rw [recordsOn_filter lines, recordsOn_filter lines', hkept lines, hkept lines', h]

/-- Two projects that are built at the same time, in two orders. -/
theorem recordsOn_two_projects :
    recordsOn (some 1)
        ["1>PlatformToolset=v141".toList, "2>PlatformToolset=v140".toList,
          "1>cl /c a.cpp".toList, "2>cl /c b.cpp".toList] ⟨"/work".toList⟩ =
      recordsOn (some 1)
        ["2>PlatformToolset=v140".toList, "2>cl /c b.cpp".toList,
          "1>PlatformToolset=v141".toList, "1>cl /c a.cpp".toList] ⟨"/work".toList⟩ :=
  (recordsOn_isolated (some 1) _).2 _ _ (by decide +kernel)

end BuildLog

end BuildEnv
