import BuildEnv.Config.Validation
import Mathlib.Data.List.Nodup
import Mathlib.Data.List.Perm.Basic

/-!
# All problems of a configuration

What can be wrong with a configuration is said here without a run over it
(`Config.HasProblem`): a key or a label that is not known, a path that is empty or the
same as one before it in its list, a text that defines no macro.  A report has
each of these problems, nothing else, and all of them in order
(`Config.Reported`); there is one such report, and a configuration is checked by making it.

* `Config.mem_pathProblems`, `Config.pairwise_pathProblems`: the problems of one list of
  paths, wherever it was cut.
* `Config.mem_macroProblems`, `Config.pairwise_macroProblems`: those of the macros.
* `Config.reported_problems`, `Config.Reported.unique`: the problems of a configuration
  are its report.
* `Config.validate_reports`: what a check answers.
-/

namespace BuildEnv

namespace Config

/-- What is wrong with the path at a place of a list. -/
inductive PathFault (list : PathList) (paths : List Path) (i : Nat) : Problem → Prop
  | empty {p : Path} (hp : paths[i]? = some p) (hempty : p.text = []) :
      PathFault list paths i (.emptyPath list i)
  | repeated {p q : Path} (hp : paths[i]? = some p) (hne : p.text ≠ []) (hq : q ∈ paths.take i)
      (hsame : p.components = q.components) : PathFault list paths i (.repeatedPath list i)

/-- What is wrong with a configuration. -/
inductive HasProblem (c : Config) : Problem → Prop
  | toolset (hkey : Toolset.ofKey? c.toolset = none) : HasProblem c (.unsupportedToolset c.toolset)
  | charset (hlabel : Charset.ofLabel? c.charset = none) :
      HasProblem c (.unsupportedCharset c.charset)
  | buildLog {i : Nat} {x : Problem} (hfault : PathFault .buildLogs c.buildLogs i x) :
      HasProblem c x
  | database {i : Nat} {x : Problem} (hfault : PathFault .databases c.databases i x) :
      HasProblem c x
  | directory {i : Nat} {x : Problem} (hfault : PathFault .searchPath c.searchPath i x) :
      HasProblem c x
  | definition {i : Nat} {raw : Text} {reason : Macro.ParseError} (hraw : c.macros[i]? = some raw)
      (hparse : Macro.parse raw = .error reason) : HasProblem c (.badMacro i reason)

/-- The place of a list among the lists of paths. -/
def PathList.rank : PathList → Nat
  | buildLogs => 0
  | databases => 1
  | searchPath => 2

/-- The place of the field in which a problem is. -/
def Problem.field : Problem → Nat
  | unsupportedToolset _ => 0
  | unsupportedCharset _ => 1
  | emptyPath list _ => 2 + list.rank
  | repeatedPath list _ => 2 + list.rank
  | badMacro _ _ => 5

/-- The place in its field at which a problem is. -/
def Problem.index : Problem → Nat
  | unsupportedToolset _ => 0
  | unsupportedCharset _ => 0
  | emptyPath _ index => index
  | repeatedPath _ index => index
  | badMacro index _ => index

/-- The order of reports: by fields, and by places in one field. -/
def Problem.Before (x y : Problem) : Prop :=
  x.field < y.field ∨ x.field = y.field ∧ x.index < y.index

/-- A report of a configuration has its problems, and has them in order. -/
structure Reported (c : Config) (problems : List Problem) : Prop where
  complete : ∀ x, x ∈ problems ↔ c.HasProblem x
  in_order : problems.Pairwise Problem.Before

/-- No problem stands before itself. -/
theorem Problem.Before.irrefl (x : Problem) : ¬ x.Before x := by
  unfold Before
  omega

/-- Of two problems only one stands before the other. -/
theorem Problem.Before.asymm {x y : Problem} (h : x.Before y) : ¬ y.Before x := by
  unfold Before at *
  omega

/-- **There is one report.** -/
theorem Reported.unique {c : Config} {xs ys : List Problem} (hx : Reported c xs)
    (hy : Reported c ys) : xs = ys := by
  have nodup {zs : List Problem} (h : zs.Pairwise Problem.Before) : zs.Nodup := by
    refine h.imp ?_
    rintro x y hxy rfl
    exact Problem.Before.irrefl x hxy
  have hperm : xs.Perm ys := by
    refine (List.perm_ext_iff_of_nodup (nodup hx.in_order) (nodup hy.in_order)).mpr ?_
    intro x
    rw [hx.complete, hy.complete]
  refine hperm.eq_of_pairwise ?_ hx.in_order hy.in_order
  intro x y _ _ hxy hyx
  exact absurd hyx hxy.asymm

/-! ### Lists of paths -/

section Paths

variable {list : PathList} {seen paths : List Path} {p : Path} {i : Nat} {x : Problem}

/-- The problem names the field of its list. -/
theorem PathFault.field_eq (h : PathFault list paths i x) : x.field = 2 + list.rank := by
  cases h <;> rfl

theorem PathFault.index_eq (h : PathFault list paths i x) : x.index = i := by
  cases h <;> rfl

theorem PathFault.lt_length (h : PathFault list paths i x) : i < paths.length := by
  cases h with
  | empty hp hempty => exact (List.getElem?_eq_some_iff.mp hp).1
  | repeated hp hne hq hsame => exact (List.getElem?_eq_some_iff.mp hp).1

/-- An empty path has one problem, which is that it is empty. -/
theorem pathFault_iff_of_empty (hp : paths[i]? = some p) (hempty : p.text = []) :
    PathFault list paths i x ↔ x = .emptyPath list i := by
  constructor
  · intro h
    cases h with
    | empty hp' hempty' => rfl
    | repeated hp' hne hq hsame =>
        obtain rfl := Option.some.inj (hp.symm.trans hp')
        exact absurd hempty hne
  · rintro rfl
    exact .empty hp hempty

/-- A path with a text has a problem exactly if an earlier one has the same parts. -/
theorem pathFault_iff_of_ne (hp : paths[i]? = some p) (hne : p.text ≠ []) :
    PathFault list paths i x ↔
      (∃ q ∈ paths.take i, p.components = q.components) ∧ x = .repeatedPath list i := by
  constructor
  · intro h
    cases h with
    | empty hp' hempty =>
        obtain rfl := Option.some.inj (hp.symm.trans hp')
        exact absurd hempty hne
    | repeated hp' hne' hq hsame =>
        obtain rfl := Option.some.inj (hp.symm.trans hp')
        exact ⟨⟨_, hq, hsame⟩, rfl⟩
  · rintro ⟨⟨q, hq, hsame⟩, rfl⟩
    exact .repeated hp hne hq hsame

/-- **One path.**  What was looked at is what stands before it. -/
theorem exists_pathProblems_cons (list : PathList) (seen : List Path) (p : Path)
    (paths : List Path) :
    ∃ here, pathProblems list seen (p :: paths) =
        here ++ pathProblems list (seen ++ [p]) paths ∧
      here.length ≤ 1 ∧
      ∀ x, x ∈ here ↔ PathFault list (seen ++ p :: paths) seen.length x := by
  have hplace : (seen ++ p :: paths)[seen.length]? = some p := by simp
  refine ⟨_, rfl, ?_, ?_⟩
  · split
    · exact Nat.le_refl 1
    · split <;> simp
  · intro x
    by_cases hempty : p.text = []
    · rw [if_pos (List.isEmpty_iff.mpr hempty), pathFault_iff_of_empty hplace hempty,
        List.mem_singleton]
    · rw [if_neg (mt List.isEmpty_iff.mp hempty), pathFault_iff_of_ne hplace hempty,
        List.take_left]
      simp only [← Path.sameAs_iff, ← List.any_eq_true]
      split
      · next hany => simp [hany]
      · next hany => simp [hany]

/-- **Problems of paths**: those of each path, as the list stands as a whole. -/
theorem mem_pathProblems :
    x ∈ pathProblems list seen paths ↔
      ∃ i, seen.length ≤ i ∧ PathFault list (seen ++ paths) i x := by
  induction paths generalizing seen with
  | nil =>
      refine iff_of_false List.not_mem_nil ?_
      rintro ⟨i, hi, h⟩
      have hlt := h.lt_length
      rw [List.append_nil] at hlt
      exact Nat.not_lt_of_le hi hlt
  | cons p rest ih =>
      obtain ⟨here, heq, -, hhere⟩ := exists_pathProblems_cons list seen p rest
      have hwhole : seen ++ [p] ++ rest = seen ++ p :: rest := by simp
      rw [heq, List.mem_append, hhere, ih, hwhole, List.length_append, List.length_singleton]
      constructor
      · rintro (h | ⟨i, hi, h⟩)
        · exact ⟨seen.length, Nat.le_refl _, h⟩
        · exact ⟨i, Nat.le_of_succ_le hi, h⟩
      · rintro ⟨i, hi, h⟩
        rcases Nat.eq_or_lt_of_le hi with rfl | hlt
        · exact .inl h
        · exact .inr ⟨i, hlt, h⟩

/-- The problems of a list come in the order of its paths. -/
theorem pairwise_pathProblems (list : PathList) (seen paths : List Path) :
    (pathProblems list seen paths).Pairwise Problem.Before := by
  induction paths generalizing seen with
  | nil => exact List.Pairwise.nil
  | cons p rest ih =>
      obtain ⟨here, heq, hlength, hhere⟩ := exists_pathProblems_cons list seen p rest
      rw [heq, List.pairwise_append]
      refine ⟨?_, ih (seen ++ [p]), ?_⟩
      · match here, hlength with
        | [], _ => exact List.Pairwise.nil
        | [x], _ => exact List.pairwise_singleton _ _
      · intro x hx y hy
        have hx := (hhere x).mp hx
        obtain ⟨i, hi, hy⟩ := mem_pathProblems.mp hy
        rw [List.length_append, List.length_singleton] at hi
        refine .inr ⟨hx.field_eq.trans hy.field_eq.symm, ?_⟩
        rw [hx.index_eq, hy.index_eq]
        exact hi

/-- Empty paths are no repetitions of each other, and other spellings of a path are. -/
example :
    pathProblems .buildLogs []
        [⟨"a//b".toList⟩, ⟨[]⟩, ⟨"./a/b".toList⟩, ⟨"a/./b/".toList⟩, ⟨[]⟩] =
      [.emptyPath .buildLogs 1, .repeatedPath .buildLogs 3, .emptyPath .buildLogs 4] := by
  decide

end Paths

/-! ### Macros -/

/-- **Problems of macros**: those of each text that defines none. -/
theorem mem_macroProblems {index : Nat} {raws : List Text} {x : Problem} :
    x ∈ macroProblems index raws ↔
      ∃ (i : Nat) (raw : Text) (reason : Macro.ParseError), raws[i]? = some raw ∧
        Macro.parse raw = .error reason ∧ x = .badMacro (index + i) reason := by
  induction raws generalizing index with
  | nil => simp [macroProblems]
  | cons t rest ih =>
      have hfirst : x ∈ (macroProblem index t).toList ↔
          ∃ reason, Macro.parse t = .error reason ∧ x = .badMacro index reason := by
        unfold macroProblem
        cases Macro.parse t with
        | ok m => simp
        | error fault => simp
      rw [macroProblems, List.mem_append, hfirst, ih]
      constructor
      · rintro (⟨reason, hparse, hx⟩ | ⟨i, raw, reason, hraw, hparse, hx⟩)
        · exact ⟨0, t, reason, rfl, hparse, hx⟩
        · refine ⟨i + 1, raw, reason, hraw, hparse, ?_⟩
          rw [hx, Nat.add_assoc, Nat.add_comm 1]
      · rintro ⟨i, raw, reason, hraw, hparse, hx⟩
        cases i with
        | zero =>
            obtain rfl := Option.some.inj hraw
            exact .inl ⟨reason, hparse, hx⟩
        | succ i =>
            refine .inr ⟨i, raw, reason, hraw, hparse, ?_⟩
            rw [hx, Nat.add_assoc, Nat.add_comm 1]

/-- The problems of one set of definitions come in the order of the definitions. -/
theorem pairwise_macroProblems (index : Nat) (raws : List Text) :
    (macroProblems index raws).Pairwise Problem.Before := by
  induction raws generalizing index with
  | nil => exact List.Pairwise.nil
  | cons t rest ih =>
      rw [macroProblems, List.pairwise_append]
      refine ⟨?_, ih (index + 1), ?_⟩
      · cases macroProblem index t with
        | none => exact List.Pairwise.nil
        | some x => exact List.pairwise_singleton _ _
      · intro x hx y hy
        obtain ⟨i, raw, reason, -, -, rfl⟩ := mem_macroProblems.mp hy
        unfold macroProblem at hx
        split at hx
        · cases hx
        · obtain rfl := List.mem_singleton.mp hx
          refine .inr ⟨rfl, ?_⟩
          show index < index + 1 + i
          omega

/-! ### Reports -/

section Reports

variable {c : Config}

/-- The problems that are found in a list are its faults. -/
theorem mem_pathProblems_paths {list : PathList} {x : Problem} :
    x ∈ pathProblems list [] (c.paths list) ↔ ∃ i, PathFault list (c.paths list) i x := by
  rw [mem_pathProblems]
  simp

/-- There are no other lists of paths. -/
theorem PathList.mem_all (list : PathList) : list ∈ PathList.all := by
  cases list <;> decide

/-- The lists of paths are looked at in the order of their fields. -/
theorem PathList.pairwise_rank : PathList.all.Pairwise fun a b => a.rank < b.rank := by
  decide

/-- Something is wrong with a path of one of the three lists. -/
theorem exists_pathFault_iff {x : Problem} :
    (∃ list i, PathFault list (c.paths list) i x) ↔
      (∃ i, PathFault .buildLogs c.buildLogs i x) ∨ (∃ i, PathFault .databases c.databases i x) ∨
        ∃ i, PathFault .searchPath c.searchPath i x := by
  constructor
  · rintro ⟨list, hfault⟩
    cases list with
    | buildLogs => exact .inl hfault
    | databases => exact .inr (.inl hfault)
    | searchPath => exact .inr (.inr hfault)
  · rintro (hfault | hfault | hfault)
    · exact ⟨.buildLogs, hfault⟩
    · exact ⟨.databases, hfault⟩
    · exact ⟨.searchPath, hfault⟩

/-- **What is reported is a problem, and every problem is reported.** -/
theorem mem_problems {x : Problem} : x ∈ c.problems ↔ c.HasProblem x := by
  rw [problems]
  simp only [List.mem_append, List.mem_flatMap, List.mem_ite_nil_left, List.mem_singleton,
    Option.isSome_iff_ne_none, not_not, mem_pathProblems_paths, mem_macroProblems]
  constructor
  · rintro (((⟨hkey, rfl⟩ | ⟨hlabel, rfl⟩) | ⟨list, -, hfault⟩) |
      ⟨i, raw, reason, hraw, hparse, rfl⟩)
    · exact .toolset hkey
    · exact .charset hlabel
    · rcases exists_pathFault_iff.mp ⟨list, hfault⟩ with ⟨i, h⟩ | ⟨i, h⟩ | ⟨i, h⟩
      · exact .buildLog h
      · exact .database h
      · exact .directory h
    · rw [Nat.zero_add]
      exact .definition hraw hparse
  · intro h
    cases h with
    | toolset hkey => exact .inl (.inl (.inl ⟨hkey, rfl⟩))
    | charset hlabel => exact .inl (.inl (.inr ⟨hlabel, rfl⟩))
    | @buildLog i x h => exact .inl (.inr ⟨.buildLogs, PathList.mem_all _, i, h⟩)
    | @database i x h => exact .inl (.inr ⟨.databases, PathList.mem_all _, i, h⟩)
    | @directory i x h => exact .inl (.inr ⟨.searchPath, PathList.mem_all _, i, h⟩)
    | @definition i raw reason hraw hparse =>
        exact .inr ⟨i, raw, reason, hraw, hparse, by rw [Nat.zero_add]⟩

/-- The problems of all lists of paths, list after list. -/
theorem pairwise_allPathProblems (c : Config) :
    (PathList.all.flatMap fun list => pathProblems list [] (c.paths list)).Pairwise
      Problem.Before := by
  refine List.pairwise_flatMap.mpr ⟨fun list _ => pairwise_pathProblems list [] _, ?_⟩
  refine PathList.pairwise_rank.imp ?_
  intro a b hrank x hx y hy
  obtain ⟨i, hx⟩ := mem_pathProblems_paths.mp hx
  obtain ⟨j, hy⟩ := mem_pathProblems_paths.mp hy
  refine .inl ?_
  rw [hx.field_eq, hy.field_eq]
  omega

/-- The problems of paths name one of the three lists. -/
theorem field_of_mem_allPathProblems {x : Problem}
    (hx : x ∈ PathList.all.flatMap fun list => pathProblems list [] (c.paths list)) :
    2 ≤ x.field ∧ x.field < 5 := by
  obtain ⟨list, -, hx⟩ := List.mem_flatMap.mp hx
  obtain ⟨i, hx⟩ := mem_pathProblems_paths.mp hx
  rw [hx.field_eq]
  cases list <;> decide

/-- The problems of definitions name the field of the definitions. -/
theorem field_of_mem_macroProblems {index : Nat} {raws : List Text} {x : Problem}
    (hx : x ∈ macroProblems index raws) : x.field = 5 := by
  obtain ⟨i, raw, reason, -, -, rfl⟩ := mem_macroProblems.mp hx
  rfl

/-- Two parts of a report, of which the first is about earlier fields. -/
theorem pairwise_append_of_field {xs ys : List Problem} (k : Nat)
    (hxs : xs.Pairwise Problem.Before) (hys : ys.Pairwise Problem.Before)
    (hlt : ∀ x ∈ xs, x.field < k) (hle : ∀ y ∈ ys, k ≤ y.field) :
    (xs ++ ys).Pairwise Problem.Before := by
  refine List.pairwise_append.mpr ⟨hxs, hys, ?_⟩
  intro x hx y hy
  exact .inl (Nat.lt_of_lt_of_le (hlt x hx) (hle y hy))

/-- A field with at most one problem. -/
theorem pairwise_ite_singleton {p : Prop} [Decidable p] (x : Problem) :
    (if p then [] else [x]).Pairwise Problem.Before := by
  split
  · exact List.Pairwise.nil
  · exact List.pairwise_singleton _ x

/-- A check that finds at most one thing. -/
theorem eq_of_mem_ite_singleton {p : Prop} [Decidable p] {x y : Problem}
    (h : y ∈ if p then [] else [x]) : y = x :=
  List.mem_singleton.mp (List.mem_ite_nil_left.mp h).2

/-- The key and the label stand in the first two fields. -/
theorem field_of_mem_names {p q : Prop} [Decidable p] [Decidable q] {key label : Text}
    {x : Problem} (hx : x ∈ (if p then [] else [.unsupportedToolset key]) ++
      if q then [] else [.unsupportedCharset label]) : x.field < 2 := by
  rcases List.mem_append.mp hx with hx | hx
  · rw [eq_of_mem_ite_singleton hx]
    exact Nat.zero_lt_two
  · rw [eq_of_mem_ite_singleton hx]
    exact Nat.one_lt_two

/-- **The problems come in order**, by field and then by place. -/
theorem pairwise_problems (c : Config) : c.problems.Pairwise Problem.Before := by
  refine pairwise_append_of_field 5 (pairwise_append_of_field 2 (pairwise_append_of_field 1
    (pairwise_ite_singleton _) (pairwise_ite_singleton _) ?_ ?_) (pairwise_allPathProblems c) ?_ ?_)
    (pairwise_macroProblems 0 c.macros) ?_ ?_
  -- Each part comes before the next one: toolset, charset, paths, macros.
  all_goals intro x hx
  · rw [eq_of_mem_ite_singleton hx]
    exact Nat.zero_lt_one
  · rw [eq_of_mem_ite_singleton hx]
    exact Nat.le_refl 1
  · exact field_of_mem_names hx
  · exact (field_of_mem_allPathProblems hx).1
  · rcases List.mem_append.mp hx with hx | hx
    · exact Nat.lt_of_lt_of_le (field_of_mem_names hx) (by decide)
    · exact (field_of_mem_allPathProblems hx).2
  · exact Nat.le_of_eq (field_of_mem_macroProblems hx).symm

/-- **The problems of a configuration are its report.** -/
theorem reported_problems (c : Config) : Reported c c.problems where
  complete _ := mem_problems
  in_order := pairwise_problems c

/-- **A check answers with the report**: nothing is wrong, one problem is, or several
are. -/
theorem validate_reports (c : Config) :
    (∀ xs, Reported c xs ↔ xs = c.problems) ∧
    (c.validate = .ok () ↔ c.problems = []) ∧
    (∀ x, c.validate = .error (.single x) ↔ c.problems = [x]) ∧
    ∀ xs, c.validate = .error (.several xs) ↔ xs = c.problems ∧ 2 ≤ xs.length := by
  refine ⟨?_, ?_⟩
  · intro xs
    constructor
    · intro h
      exact h.unique (reported_problems c)
    · rintro rfl
      exact reported_problems c
  · unfold validate
    match c.problems with
    | [] => simp [Rejection.ofProblems?]
    | [x] => simp [Rejection.ofProblems?]
    | x :: y :: rest =>
        refine ⟨by simp [Rejection.ofProblems?], by simp [Rejection.ofProblems?], ?_⟩
        intro xs
        constructor
        · intro h
          cases h
          exact ⟨rfl, Nat.le_add_left 2 rest.length⟩
        · rintro ⟨rfl, -⟩
          rfl

/-- A configuration with an empty path in one list, the same path twice in another, and no
problem where the lists share a path. -/
def twoFaults : Config :=
  { default with
    charset := "866".toList
    buildLogs := [⟨"logs/a.log".toList⟩]
    databases := [⟨"logs/a.log".toList⟩, ⟨[]⟩]
    searchPath := [⟨"inc".toList⟩, ⟨"src".toList⟩, ⟨"inc/./".toList⟩] }

/-- Both problems are reported, the one of the databases first, and no others. -/
theorem validate_reports_two_lists :
    twoFaults.validate =
        .error (.several [.emptyPath .databases 1, .repeatedPath .searchPath 2]) ∧
      ∀ x, x = .emptyPath .databases 1 ∨ x = .repeatedPath .searchPath 2 ↔
        twoFaults.HasProblem x := by
  have hproblems : twoFaults.problems =
      [.emptyPath .databases 1, .repeatedPath .searchPath 2] := by
    decide +kernel
  obtain ⟨hreport, -, -, hseveral⟩ := validate_reports twoFaults
  refine ⟨(hseveral _).mpr ⟨hproblems.symm, Nat.le_refl 2⟩, fun x => ?_⟩
  rw [← ((hreport _).mpr hproblems.symm).complete x]
  simp

end Reports

end Config

end BuildEnv
