import BuildEnv.Proofs.Path.Absolute

/-!
# What is resolved once stays where it is

A path that was resolved against an absolute directory is absolute and in normal
form.  It stands for itself from then on: no other directory moves it, and no
`..` took its anchor away.

* `Path.anchor?_absoluteTo`: the anchor of a resolved path is the one of the path
  if it is absolute, and the one of the directory if it is not.
* `Path.absoluteTo_final`: to resolve a resolved path again, or to normalize it,
  changes nothing.
-/

namespace BuildEnv

namespace Path

/-- The root or the drive that a path begins with. -/
def anchor? (p : Path) : Option Component :=
  p.components.head?.filter Component.isAnchor

/-- The anchor of a path is its first component, if this makes the path absolute. -/
theorem anchor?_eq_some_iff {p : Path} {a : Component} :
    p.anchor? = some a ↔ (∃ rest, p.components = a :: rest) ∧ a.isAnchor := by
  rw [anchor?, Option.filter_eq_some_iff, List.head?_eq_some_iff]

/-- **Absolute paths** are those with an anchor. -/
theorem exists_anchor? {p : Path} (h : p.isAbsolute) : ∃ a, p.anchor? = some a := by
  obtain ⟨a, rest, hcomponents, ha⟩ := isAbsolute_iff.mp h
  exact ⟨a, anchor?_eq_some_iff.mpr ⟨⟨rest, hcomponents⟩, ha⟩⟩

/-- Normalizing keeps the root or the drive. -/
theorem anchor?_normalize {p : Path} (h : p.isAbsolute) : p.normalize.anchor? = p.anchor? := by
  obtain ⟨a, hanchor⟩ := exists_anchor? h
  obtain ⟨⟨rest, hcomponents⟩, ha⟩ := anchor?_eq_some_iff.mp hanchor
  have hnormal := exists_components_normalize hcomponents ha
  rw [hanchor]
  exact anchor?_eq_some_iff.mpr ⟨hnormal, ha⟩

/-- A path that is joined to a directory stands behind its anchor. -/
theorem anchor?_join {directory p : Path} (h : directory.isAbsolute) (hp : ¬ p.hasRoot) :
    (directory.join p).anchor? = directory.anchor? := by
  obtain ⟨a, hanchor⟩ := exists_anchor? h
  obtain ⟨⟨rest, hcomponents⟩, ha⟩ := anchor?_eq_some_iff.mp hanchor
  rw [hanchor]
  refine anchor?_eq_some_iff.mpr ⟨⟨rest ++ innerComponents p.text, ?_⟩, ha⟩
  rw [components_join (text_ne_nil_of_isAbsolute h) hp, hcomponents, List.cons_append]

/-- **The anchor of a resolved path**, however many `..` it has. -/
theorem anchor?_absoluteTo {directory : Path} (h : directory.isAbsolute) (p : Path) :
    (directory.absoluteTo p).anchor? = (if p.isAbsolute then p else directory).anchor? := by
  unfold absoluteTo
  by_cases hp : p.isAbsolute
  · rw [if_pos hp, if_pos hp, anchor?_normalize hp]
  · have hroot : ¬ p.hasRoot := by
      intro hroot
      exact hp (by simp [isAbsolute, hroot])
    rw [if_neg hp, if_neg hp, anchor?_normalize (isAbsolute_join h p), anchor?_join h hroot]

/-- A path that is absolute and in normal form is resolved already. -/
theorem absoluteTo_eq_self {p : Path} (habsolute : p.isAbsolute) (hnormal : p.normalize = p)
    (directory : Path) : directory.absoluteTo p = p := by
  rw [absoluteTo, if_pos habsolute, hnormal]

/-- **Resolution is final.**  A directory may be normalized before a path is
resolved against it.  If it is absolute, the resolved path is absolute too, has the
anchor of the path or of the directory, and is changed neither by another
directory nor by normalizing it. -/
theorem absoluteTo_final (directory p : Path) :
    directory.normalize.absoluteTo p = directory.absoluteTo p ∧
      (directory.isAbsolute →
        (directory.absoluteTo p).isAbsolute ∧
        (directory.absoluteTo p).anchor? = (if p.isAbsolute then p else directory).anchor? ∧
        (∀ other : Path, other.absoluteTo (directory.absoluteTo p) = directory.absoluteTo p) ∧
        (directory.absoluteTo p).normalize = directory.absoluteTo p) := by
  refine ⟨absoluteTo_normalize directory p, ?_⟩
  intro h
  have habsolute : (directory.absoluteTo p).isAbsolute := isAbsolute_absoluteTo h p
  have hnormal : (directory.absoluteTo p).normalize = directory.absoluteTo p :=
    normalize_absoluteTo directory p
  refine ⟨habsolute, anchor?_absoluteTo h p, ?_, hnormal⟩
  intro other
  exact absoluteTo_eq_self habsolute hnormal other

/-- More `..` than the directory has names leave its drive. -/
theorem absoluteTo_final_drive :
    (⟨"C:/build/./x".toList⟩ : Path).isAbsolute ∧
      (⟨"C:/build/./x".toList⟩ : Path).normalize.absoluteTo ⟨"../../../../y".toList⟩ =
        ⟨"C:/y".toList⟩ ∧
      (⟨"C:/y".toList⟩ : Path).isAbsolute ∧
      (⟨"C:/y".toList⟩ : Path).anchor? = (⟨"C:/build/./x".toList⟩ : Path).anchor? ∧
      ∀ other : Path, other.absoluteTo ⟨"C:/y".toList⟩ = ⟨"C:/y".toList⟩ := by
  have hdirectory : (⟨"C:/build/./x".toList⟩ : Path).isAbsolute := by decide
  have hresolved : (⟨"C:/build/./x".toList⟩ : Path).absoluteTo ⟨"../../../../y".toList⟩ =
      ⟨"C:/y".toList⟩ := by
    decide
  obtain ⟨hfirst, hfinal⟩ :=
    absoluteTo_final ⟨"C:/build/./x".toList⟩ ⟨"../../../../y".toList⟩
  obtain ⟨habsolute, hanchor, hother, -⟩ := hfinal hdirectory
  rw [hresolved] at hfirst habsolute hanchor hother
  exact ⟨hdirectory, hfirst, habsolute, hanchor, hother⟩

end Path

end BuildEnv
