import BuildEnv.Proofs.Settings.Containers

/-!
# What a search path remembers of its history

A search path is made by appending directories, one at a time or several.  All that
counts of a history are the directories that were given, one after the other
(`SearchPath.run_eq`): the search path holds their normal forms, less those that are the
same path as one before.

* `Path.eraseDupsBy_sameAs`: for normal forms, to be the same path is to be the same text.
* `SearchPath.contains_run_iff`: what is on the path is what was given, in whatever spelling.
* `SearchPath.addAll_eq_self`: appending what is on the path changes nothing.
* `SearchPath.firstOccurrences_run`: search paths after any operations.
-/

namespace BuildEnv

namespace Path

/-- Of normal paths, the same is the equal. -/
theorem sameAs_iff_of_normal {p q : Path} (hp : p.normalize = p) (hq : q.normalize = q) :
    p.sameAs q ↔ p = q := by
  have hiff : p.normalize.sameAs q.normalize ↔ p.normalize = q.normalize := sameAs_normalize_iff
  rwa [hp, hq] at hiff

/-- **First occurrences of paths** in normal form are first occurrences of their texts. -/
theorem eraseDupsBy_sameAs {ps : List Path} (h : ∀ p ∈ ps, p.normalize = p) :
    ps.eraseDupsBy sameAs = ps.eraseDups := by
  induction hn : ps.length using Nat.strongRecOn generalizing ps with
  | ind n ih =>
      cases ps with
      | nil => rfl
      | cons a rest =>
          have hothers : rest.filter (fun b => decide (b.sameAs a = false)) =
              rest.filter fun b => !b == a := by
            refine List.filter_congr ?_
            intro b hb
            have hsame : b.sameAs a ↔ b = a :=
              sameAs_iff_of_normal (h b (List.mem_cons_of_mem _ hb)) (h a List.mem_cons_self)
            rw [Bool.eq_iff_iff]
            simp [← hsame]
          have hlength : (rest.filter fun b => !b == a).length < n := by
            have := List.length_filter_le (fun b => !b == a) rest
            simp only [List.length_cons] at hn
            omega
          have hnormal : ∀ p ∈ rest.filter (fun b => !b == a), p.normalize = p := by
            intro p hp
            exact h p (List.mem_cons_of_mem _ (List.mem_filter.mp hp).1)
          rw [List.eraseDupsBy_cons, List.eraseDups_cons, hothers, ih _ hlength hnormal rfl]

end Path

namespace SearchPath

/-- A push adds, and tells whether the directory was new. -/
theorem push_eq (s : SearchPath) (d : Path) : s.push d = (!s.contains d, s.add d) := by
  unfold push add
  cases s.contains d <;> rfl

/-- An operation on a search path. -/
inductive Operation where
  | push (d : Path)
  | extend (ds : List Path)
  deriving DecidableEq, Repr

/-- The effect of an operation. -/
def Operation.apply (s : SearchPath) : Operation → SearchPath
  | push d => (s.push d).2
  | extend ds => s.addAll ds

/-- The directories that an operation gives. -/
def Operation.given : Operation → List Path
  | push d => [d]
  | extend ds => ds

/-- The search path after some operations on the empty one. -/
def run (ops : List Operation) : SearchPath :=
  ops.foldl Operation.apply empty

/-- The directories that some operations give, in order. -/
def given (ops : List Operation) : List Path :=
  ops.flatMap Operation.given

theorem addAll_append (s : SearchPath) (ds es : List Path) :
    s.addAll (ds ++ es) = (s.addAll ds).addAll es :=
  List.foldl_append

/-- An operation adds what it is given. -/
theorem Operation.apply_eq (s : SearchPath) (op : Operation) :
    op.apply s = s.addAll op.given := by
  cases op with
  | push d => exact congrArg Prod.snd (push_eq s d)
  | extend ds => rfl

/-- **A history is the list of what it gives.** -/
theorem run_eq (ops : List Operation) : run ops = .ofList (given ops) := by
  have hfold : ∀ s : SearchPath, ops.foldl Operation.apply s = s.addAll (given ops) := by
    induction ops with
    | nil => exact fun _ => rfl
    | cons op rest ih =>
        intro s
        rw [List.foldl_cons, ih, Operation.apply_eq, ← addAll_append]
        rfl
  exact hfold empty

/-- **The directories of a run** are the given ones, normalized, each where it came
first. -/
theorem directories_run (ops : List Operation) :
    (run ops).directories = ((given ops).map Path.normalize).eraseDups := by
  rw [run_eq]
  exact directories_addAll List.nodup_nil (given ops)

/-- **What is on the path** is what was given. -/
theorem contains_run_iff (ops : List Operation) (d : Path) :
    (run ops).contains d ↔ ∃ p ∈ given ops, p.normalize.sameAs d.normalize := by
  rw [contains, List.contains_iff_mem, directories_run, List.mem_eraseDups, List.mem_map]
  simp only [Path.sameAs_normalize_iff]

/-- **What is on the path already** changes nothing. -/
theorem addAll_eq_self {s : SearchPath} {ds : List Path} (h : ∀ d ∈ ds, s.contains d) :
    s.addAll ds = s := by
  induction ds with
  | nil => rfl
  | cons d rest ih =>
      have hadd : s.add d = s := if_pos (h d List.mem_cons_self)
      have hrest : s.addAll (d :: rest) = (s.add d).addAll rest := rfl
      rw [hrest, hadd]
      exact ih fun e he => h e (List.mem_cons_of_mem _ he)

/-- The directories of a search path are on it, since their normal forms are they. -/
theorem Built.contains_of_mem {s : SearchPath} (h : Built s) {d : Path} (hd : d ∈ s.directories) :
    s.contains d := by
  rw [contains, h.normal d hd]
  exact List.contains_iff_mem.mpr hd

/-- **First occurrences, up to normal forms.**  After any operations, a search path holds
the normal forms of the directories that were given, in order and without those that are
the same path as one before.  A directory is new exactly if none that was given has the same
normal form, and on the path exactly if one has.  Appending the path to itself, or any
directories that are on it in some spelling, changes nothing. -/
theorem firstOccurrences_run (ops : List Operation) :
    (run ops).directories = ((given ops).map Path.normalize).eraseDupsBy Path.sameAs ∧
    (∀ d, ((run ops).push d).1 = true ↔ ∀ p ∈ given ops, ¬ p.normalize.sameAs d.normalize) ∧
    (∀ d, (run ops).contains d ↔ ∃ p ∈ given ops, p.normalize.sameAs d.normalize) ∧
    (run ops).addAll (run ops).directories = run ops ∧
    ∀ ds, (∀ d ∈ ds, ∃ p ∈ given ops, p.normalize.sameAs d.normalize) →
      (run ops).addAll ds = run ops := by
  have hbuilt : Built (run ops) := run_eq ops ▸ Built.ofList (given ops)
  refine ⟨?_, ?_, contains_run_iff ops, ?_, ?_⟩
  · have hnormal : ∀ p ∈ (given ops).map Path.normalize, p.normalize = p := by
      intro p hp
      obtain ⟨q, -, rfl⟩ := List.mem_map.mp hp
      exact q.normalize_normalize
    rw [Path.eraseDupsBy_sameAs hnormal, directories_run]
  · intro d
    rw [push_eq, Bool.not_eq_true', ← Bool.not_eq_true, contains_run_iff, not_exists]
    simp only [not_and]
  · exact addAll_eq_self fun d hd => hbuilt.contains_of_mem hd
  · intro ds hds
    exact addAll_eq_self fun d hd => (contains_run_iff ops d).mpr (hds d hd)

/-- Two directories in other spellings are appended without effect. -/
theorem firstOccurrences_run_spellings :
    (∀ d ∈ [Path.mk "dir3/../dir1/.".toList, Path.mk "C:/x//..".toList],
      ∃ p ∈ given [.extend [⟨"./dir1".toList⟩, ⟨"C:/..".toList⟩]],
        p.normalize.sameAs d.normalize) ∧
      (run [.extend [⟨"./dir1".toList⟩, ⟨"C:/..".toList⟩]]).addAll
          [⟨"dir3/../dir1/.".toList⟩, ⟨"C:/x//..".toList⟩] =
        run [.extend [⟨"./dir1".toList⟩, ⟨"C:/..".toList⟩]] ∧
      (run [.extend [⟨"./dir1".toList⟩, ⟨"C:/..".toList⟩]]).directories =
        [⟨"dir1".toList⟩, ⟨"C:".toList⟩] := by
  have hgiven : ∀ d ∈ [Path.mk "dir3/../dir1/.".toList, Path.mk "C:/x//..".toList],
      ∃ p ∈ given [.extend [⟨"./dir1".toList⟩, ⟨"C:/..".toList⟩]],
        p.normalize.sameAs d.normalize := by
    decide
  obtain ⟨hdirectories, -, -, -, hextend⟩ :=
    firstOccurrences_run [.extend [⟨"./dir1".toList⟩, ⟨"C:/..".toList⟩]]
  refine ⟨hgiven, hextend _ hgiven, hdirectories.trans ?_⟩
  decide

end SearchPath

end BuildEnv
