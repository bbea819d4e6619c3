import BuildEnv.Proofs.Path.Normal

/-!
# Resolution against a directory

A path that is joined to a directory continues the components of the directory
(`Path.components_join`), and a fold on a stack only sees the stack.  So the
directory may be replaced by any path that folds to the same stack, and its
normal form is one (`Path.foldOn_normalize`).

* `Path.normalize_join_normalize`: the normal form of a joined path does not
  change when the directory is normalized first.
* `Path.absoluteTo_normalize`: nor does the place of a path.
-/

namespace BuildEnv

namespace Path

/-- The components of the parts of a text that does not begin a path. -/
def innerComponents (t : Text) : List Component :=
  (Text.splitOn '/' t).filterMap Component.ofPart

/-- Around a separator both sides have components of their own. -/
theorem innerComponents_append_sep (s t : Text) :
    innerComponents (s ++ '/' :: t) = innerComponents s ++ innerComponents t := by
  rw [innerComponents, Text.splitOn_append_sep, List.filterMap_append]
  rfl

/-- At the beginning of a relative path, a part `.` is a component. -/
theorem relativeComponents_eq (t : Text) :
    relativeComponents t =
      (if (Text.splitOn '/' t).head? = some ['.'] then [.here] else []) ++ innerComponents t := by
  unfold relativeComponents innerComponents
  split
  · next parts hsplit => simp [hsplit, Component.ofPart]
  · next hne =>
    have hhead : (Text.splitOn '/' t).head? ≠ some ['.'] := by
      intro hhead
      obtain ⟨parts, hsplit⟩ := List.head?_eq_some_iff.mp hhead
      exact hne parts hsplit
    rw [if_neg hhead, List.nil_append]

/-- Only the first side is the beginning of the path. -/
theorem relativeComponents_append_sep (s t : Text) :
    relativeComponents (s ++ '/' :: t) = relativeComponents s ++ innerComponents t := by
  have hhead : (Text.splitOn '/' (s ++ '/' :: t)).head? = (Text.splitOn '/' s).head? := by
    have hne : Text.splitOn '/' s ≠ [] := Text.splitOn_ne_nil s
    obtain ⟨part, parts, hsplit⟩ := List.exists_cons_of_ne_nil hne
    rw [Text.splitOn_append_sep, hsplit]
    rfl
  rw [relativeComponents_eq, relativeComponents_eq, hhead, innerComponents_append_sep,
    List.append_assoc]

/-- A path without a root is read as a relative one. -/
theorem components_of_not_hasRoot {p : Path} (h : ¬ p.hasRoot) :
    p.components = relativeComponents p.text := by
  unfold components
  split
  · next rest htext => exact absurd (by simp [hasRoot, htext]) h
  · rfl

/-- What follows a separator continues the components. -/
theorem components_append_sep {s : Text} (hs : s ≠ []) (t : Text) :
    (Path.mk (s ++ '/' :: t)).components = (Path.mk s).components ++ innerComponents t := by
  obtain ⟨c, rest, rfl⟩ := List.exists_cons_of_ne_nil hs
  by_cases hc : c = '/'
  · subst hc
    show Component.root :: innerComponents (rest ++ '/' :: t) = _
    rw [innerComponents_append_sep]
    rfl
  · have hroot (u : Text) : ¬ (Path.mk (c :: u)).hasRoot := by simp [hasRoot, hc]
    rw [List.cons_append, components_of_not_hasRoot (hroot _), components_of_not_hasRoot (hroot _)]
    exact relativeComponents_append_sep (c :: rest) t

/-- **Components of a joined path.** -/
theorem components_join {p q : Path} (hp : p.text ≠ []) (hq : ¬ q.hasRoot) :
    (p.join q).components = p.components ++ innerComponents q.text := by
  obtain ⟨text⟩ := p
  rw [join, if_neg hq]
  by_cases hlast : text.getLast? = some '/'
  · -- the separator is there already
    obtain ⟨s, rfl⟩ := List.getLast?_eq_some_iff.mp hlast
    rw [if_pos (by simp)]
    show (Path.mk (s ++ ['/'] ++ q.text)).components = _
    rw [List.append_assoc, List.singleton_append]
    by_cases hs : s = []
    · subst hs
      rfl
    · rw [components_append_sep hs, components_append_sep hs]
      show _ = (Path.mk s).components ++ [] ++ _
      rw [List.append_nil]
  · have hnot : ¬ (text.isEmpty || text.getLast? == some '/') := by
      simpa using ⟨hp, hlast⟩
    rw [if_neg hnot]
    exact components_append_sep hp q.text

/-- A leading `.` leaves the stack alone. -/
theorem foldOn_of_not_hasRoot {p : Path} (h : ¬ p.hasRoot) (stack : List Component) :
    p.foldOn stack = (innerComponents p.text).foldl foldComponent stack := by
  rw [foldOn, components_of_not_hasRoot h, relativeComponents_eq]
  split <;> rfl

/-- **A joined path is folded on the stack of its directory.** -/
theorem foldOn_join {q : Path} (hq : ¬ q.hasRoot) (p : Path) :
    (p.join q).foldOn [] = q.foldOn (p.foldOn []) := by
  obtain ⟨text⟩ := p
  by_cases hp : text = []
  · subst hp
    rw [join, if_neg hq]
    rfl
  · rw [foldOn_of_not_hasRoot hq, foldOn, components_join hp hq, List.foldl_append]
    rfl

/-- **The directory may be normalized first.** -/
theorem normalize_join_normalize (p q : Path) :
    (p.normalize.join q).normalize = (p.join q).normalize := by
  by_cases hq : q.hasRoot
  · rw [join, join, if_pos hq, if_pos hq]
  · refine normalize_eq_of_foldOn ?_
    rw [foldOn_join hq, foldOn_join hq, foldOn_normalize]

/-- The directory may be normalized before. -/
theorem absoluteTo_normalize (directory p : Path) :
    directory.normalize.absoluteTo p = directory.absoluteTo p := by
  unfold absoluteTo
  split
  · rfl
  · exact normalize_join_normalize directory p

end Path

end BuildEnv
