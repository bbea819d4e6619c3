import BuildEnv.Proofs.Path.Resolution

/-!
# Absolute paths stay absolute

A path is absolute if its first component is an *anchor*: the root or a drive
(`Path.isAbsolute_iff`).  An anchor at the bottom of the stack of components
is never taken away (`Path.getLast?_foldComponent`), so it is the first
component of the normal form too.

* `Path.isAbsolute_absoluteTo`: whatever is resolved against an absolute
  directory is absolute.
* `Path.isAbsolute_of_parent?`: the parent of an absolute path is absolute,
  unless the path is a drive and nothing else.  Such a path has the empty path
  as its parent (`Path.parent?_of_isBareDrive`), while the root has none.
-/

namespace BuildEnv

namespace Path

/-- Whether a component makes a path that begins with it absolute. -/
def Component.isAnchor : Component → Bool
  | .root => true
  | .name n => isDrive n
  | _ => false

/-- Whether the path is a drive without anything behind it. -/
def isBareDrive (p : Path) : Bool :=
  match p.components with
  | [.name n] => isDrive n
  | _ => false

/-- A path has a root exactly if this is its first component. -/
theorem hasRoot_iff {p : Path} : p.hasRoot ↔ ∃ rest, p.components = .root :: rest := by
  constructor
  · intro h
    obtain ⟨text⟩ := p
    obtain ⟨rest, rfl⟩ : ∃ rest, text = '/' :: rest := by
      simpa [hasRoot, List.head?_eq_some_iff] using h
    exact ⟨_, rfl⟩
  · rintro ⟨rest, hrest⟩
    by_cases h : p.hasRoot
    · exact h
    rw [components_of_not_hasRoot h, relativeComponents_eq] at hrest
    have hroot : Component.root ∈ innerComponents p.text := by
      split at hrest
      · cases hrest
      · rw [List.nil_append] at hrest
        exact hrest ▸ List.mem_cons_self
    exact absurd rfl (isPart_of_mem_filterMap_splitOn hroot).ne_root

/-- **Absolute paths** are those that begin with an anchor. -/
theorem isAbsolute_iff {p : Path} :
    p.isAbsolute ↔ ∃ a rest, p.components = a :: rest ∧ a.isAnchor := by
  rw [isAbsolute, Bool.or_eq_true, hasRoot_iff]
  constructor
  · rintro (⟨rest, hroot⟩ | hdrive)
    · exact ⟨.root, rest, hroot, rfl⟩
    · unfold startsWithDrive at hdrive
      split at hdrive
      · next n rest hname => exact ⟨.name n, rest, hname, hdrive⟩
      · cases hdrive
  · rintro ⟨a, rest, hcomponents, ha⟩
    cases a with
    | root => exact .inl ⟨rest, hcomponents⟩
    | name n =>
        refine .inr ?_
        rw [startsWithDrive, hcomponents]
        exact ha
    | here => cases ha
    | up => cases ha

theorem text_ne_nil_of_isAbsolute {p : Path} (h : p.isAbsolute) : p.text ≠ [] := by
  rintro hnil
  obtain ⟨text⟩ := p
  obtain rfl : text = [] := hnil
  cases h

section Stack

variable {stack : List Component} {a : Component}

/-- Going up stops at the anchor. -/
theorem getLast?_foldUp (hbottom : stack.getLast? = some a) (ha : a.isAnchor) :
    (foldUp stack).getLast? = some a := by
  cases stack with
  | nil => cases hbottom
  | cons c below =>
      cases c with
      | root => exact hbottom
      | here => simpa [foldUp] using hbottom
      | up => simpa [foldUp] using hbottom
      | name n =>
          cases below with
          | nil =>
              obtain rfl : Component.name n = a := by simpa using hbottom
              have hkept : foldUp [.name n] = [.name n] := if_pos ha
              rw [hkept]
              rfl
          | cons d rest => simpa [foldUp] using hbottom

/-- A component leaves the anchor at the bottom of the stack. -/
theorem getLast?_foldComponent (hbottom : stack.getLast? = some a) (ha : a.isAnchor)
    (c : Component) : (foldComponent stack c).getLast? = some a := by
  have hpush : ∀ d : Component, (d :: stack).getLast? = some a := by
    intro d
    rw [List.getLast?_cons, hbottom]
    rfl
  cases c with
  | root => exact hpush _
  | here => exact hbottom
  | up => exact getLast?_foldUp hbottom ha
  | name n => exact hpush _

/-- No component takes the anchor away. -/
theorem getLast?_foldl_foldComponent (hbottom : stack.getLast? = some a) (ha : a.isAnchor)
    (components : List Component) :
    (components.foldl foldComponent stack).getLast? = some a := by
  induction components generalizing stack with
  | nil => exact hbottom
  | cons c rest ih => exact ih (getLast?_foldComponent hbottom ha c)

end Stack

/-- **The normal form keeps the anchor.** -/
theorem exists_components_normalize {p : Path} {a : Component} {rest : List Component}
    (hcomponents : p.components = a :: rest) (ha : a.isAnchor) :
    ∃ more, p.normalize.components = a :: more := by
  have hfirst : foldComponent [] a = [a] := by
    cases a with
    | root => rfl
    | name n => rfl
    | here => cases ha
    | up => cases ha
  have hbottom : (p.foldOn []).getLast? = some a := by
    rw [foldOn, hcomponents, List.foldl_cons, hfirst]
    exact getLast?_foldl_foldComponent rfl ha rest
  have hne : p.foldOn [] ≠ [] := by
    intro hnil
    rw [hnil] at hbottom
    cases hbottom
  have hhead : (p.foldOn []).reverse.head? = some a := by rw [List.head?_reverse, hbottom]
  obtain ⟨more, hreverse⟩ := List.head?_eq_some_iff.mp hhead
  have hnormal : p.normalize = ofComponents (p.foldOn []).reverse := by
    have hfold : foldComponents p.components = (p.foldOn []).reverse := rfl
    rw [normalize, hfold, hreverse]
  have hstacked : Stacked (p.foldOn []) := stacked_fold_components p
  refine ⟨more, ?_⟩
  rw [hnormal, components_ofComponents hstacked hne, hreverse]

theorem isAbsolute_normalize {p : Path} (h : p.isAbsolute) : p.normalize.isAbsolute := by
  obtain ⟨a, rest, hcomponents, ha⟩ := isAbsolute_iff.mp h
  obtain ⟨more, hmore⟩ := exists_components_normalize hcomponents ha
  exact isAbsolute_iff.mpr ⟨a, more, hmore, ha⟩

theorem isAbsolute_join {p : Path} (h : p.isAbsolute) (q : Path) : (p.join q).isAbsolute := by
  by_cases hq : q.hasRoot
  · rw [join, if_pos hq, isAbsolute, hq]
    rfl
  · obtain ⟨a, rest, hcomponents, ha⟩ := isAbsolute_iff.mp h
    refine isAbsolute_iff.mpr ⟨a, rest ++ innerComponents q.text, ?_, ha⟩
    rw [components_join (text_ne_nil_of_isAbsolute h) hq, hcomponents, List.cons_append]

/-- **Resolution against an absolute directory.** -/
theorem isAbsolute_absoluteTo {directory : Path} (h : directory.isAbsolute) (p : Path) :
    (directory.absoluteTo p).isAbsolute := by
  unfold absoluteTo
  split
  · next hp => exact isAbsolute_normalize hp
  · exact isAbsolute_normalize (isAbsolute_join h p)

/-- A resolved path is in normal form. -/
theorem normalize_absoluteTo (directory p : Path) :
    (directory.absoluteTo p).normalize = directory.absoluteTo p := by
  unfold absoluteTo
  split
  · exact normalize_normalize p
  · exact normalize_normalize _

/-- The components of an absolute path are read again after the last of them
was taken away, unless nothing remains. -/
theorem components_ofComponents_dropLast {p : Path} {a b : Component} {rest : List Component}
    (hcomponents : p.components = a :: b :: rest) (ha : a.isAnchor) :
    (ofComponents (a :: (b :: rest).dropLast)).components = a :: (b :: rest).dropLast := by
  obtain ⟨lead, parts, hshape, hparts, hlead⟩ := components_shape p
  rw [hcomponents] at hshape
  rcases hlead with rfl | rfl | rfl
  · refine components_ofComponents_parts (List.cons_ne_nil _ _) fun c hc => hparts c ?_
    obtain rfl : a :: b :: rest = parts := hshape
    rcases List.mem_cons.mp hc with rfl | hc
    · exact List.mem_cons_self
    · exact List.mem_cons_of_mem _ ((List.dropLast_sublist _).mem hc)
  · obtain ⟨rfl, rfl⟩ := List.cons.inj hshape
    exact components_ofComponents_root fun c hc => hparts c ((List.dropLast_sublist _).mem hc)
  · obtain ⟨rfl, -⟩ := List.cons.inj hshape
    cases ha

/-- **The parent of an absolute path** is absolute, unless the path is a bare
drive. -/
theorem isAbsolute_of_parent? {p q : Path} (h : p.isAbsolute) (hparent : p.parent? = some q) :
    q.isAbsolute ∨ p.isBareDrive := by
  obtain ⟨a, rest, hcomponents, ha⟩ := isAbsolute_iff.mp h
  cases rest with
  | nil =>
      cases a with
      | root =>
          rw [parent?, hcomponents] at hparent
          cases hparent
      | name n =>
          refine .inr ?_
          rw [isBareDrive, hcomponents]
          exact ha
      | here => cases ha
      | up => cases ha
  | cons b rest =>
      have hq : q = ofComponents (a :: (b :: rest).dropLast) := by
        unfold parent? at hparent
        split at hparent
        · cases hparent
        · cases hparent
        · rw [hcomponents] at hparent
          exact (Option.some.inj hparent).symm
      refine .inl (isAbsolute_iff.mpr ⟨a, (b :: rest).dropLast, ?_, ha⟩)
      rw [hq, components_ofComponents_dropLast hcomponents ha]

/-- The parent of a drive is the empty path. -/
theorem parent?_of_isBareDrive {p : Path} (h : p.isBareDrive) : p.parent? = some ⟨[]⟩ := by
  unfold isBareDrive at h
  split at h
  · next n hname =>
    rw [parent?, hname]
    rfl
  · cases h

end Path

end BuildEnv
