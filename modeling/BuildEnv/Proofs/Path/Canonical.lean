import BuildEnv.Proofs.Path.Absolute
import Mathlib.Logic.Relation

/-!
# The normal form is canonical

What `.` and `..` stand for is said here without a stack.  A path is shortened
at the leftmost place where it can be (`Path.Shortens`): a `.` is dropped, a `..`
takes the name before it away, and a `..` behind an anchor is dropped.  Where
nothing is left to shorten, the components are `Path.Folded`: no `.` is among
them, and `..` only stands at the front of a path that is not absolute.

* `Path.shortens_foldComponent`, `Path.shortens_foldl`: the stack does what
  shortening does, for one component and for a run of them.
* `Path.IsCanonical.normalize_eq`: canonical paths are fixed points.
* `Path.normalize_canonical`: the normal form of a path is canonical, is what
  the path is shortened to, and may be taken before a path is joined to it.
-/

namespace BuildEnv

namespace Path

/-- Components of which none is left to fold away: no `.` is among them, and
what stands before a `..` is a `..` too. -/
structure Folded (components : List Component) : Prop where
  no_here : .here ∉ components
  ups_lead : components.Pairwise fun before c => c = .up → before = .up

/-- One step of shortening, at the leftmost place. -/
inductive Shortens : List Component → List Component → Prop
  /-- A `.` is dropped. -/
  | here {before : List Component} (after : List Component) (h : Folded before) :
      Shortens (before ++ .here :: after) (before ++ after)
  /-- A `..` takes the name before it away, unless that is the drive of the
  path. -/
  | up {before : List Component} {n : Text} (after : List Component)
      (h : Folded (before ++ [.name n])) (hdrive : before = [] → ¬ isDrive n) :
      Shortens (before ++ .name n :: .up :: after) (before ++ after)
  /-- A `..` behind an anchor is dropped. -/
  | anchor {a : Component} (after : List Component) (ha : a.isAnchor) :
      Shortens (a :: .up :: after) (a :: after)

/-- Components that other components are shortened to. -/
abbrev ShortensTo : List Component → List Component → Prop :=
  Relation.ReflTransGen Shortens

/-- A path that has been written down in the shortest way and leaves nothing to
shorten, or `.` alone. -/
def IsCanonical (p : Path) : Prop :=
  p = ⟨['.']⟩ ∨ p.components ≠ [] ∧ ofComponents p.components = p ∧ Folded p.components

/-! ### Stacks -/

theorem folded_nil : Folded [] :=
  ⟨by simp, .nil⟩

/-- A stack is folded, read from its bottom. -/
theorem folded_reverse_of_stacked {stack : List Component} (h : Stacked stack) :
    Folded stack.reverse := by
  induction stack with
  | nil => exact folded_nil
  | cons c below ih =>
      cases c with
      | root =>
          obtain rfl : below = [] := h
          exact ⟨by decide, List.pairwise_singleton _ _⟩
      | here => exact False.elim h
      | up =>
          have hall : ∀ c ∈ (Component.up :: below).reverse, c = .up := by
            intro c hc
            rcases List.mem_cons.mp (List.mem_reverse.mp hc) with rfl | hc
            · rfl
            · exact h c hc
          refine ⟨fun hhere => ?_, List.pairwise_of_forall_mem_list fun c hc _ _ _ => hall c hc⟩
          cases hall _ hhere
      | name n =>
          obtain ⟨hhere, hups⟩ := ih h.2
          rw [List.reverse_cons]
          refine ⟨by simpa using hhere, List.pairwise_append.mpr ⟨hups, ?_, ?_⟩⟩
          · exact List.pairwise_singleton _ _
          · intro c _ d hd hup
            obtain rfl := List.mem_singleton.mp hd
            cases hup

/-- Parts on a stack are a stack if only `..` stands below a `..`. -/
theorem stacked_append {parts bottom : List Component} (hparts : ∀ c ∈ parts, c.IsPart)
    (hbottom : Stacked bottom)
    (hups : (parts ++ bottom).Pairwise fun c below => c = .up → below = .up) :
    Stacked (parts ++ bottom) := by
  induction parts with
  | nil => exact hbottom
  | cons c rest ih =>
      obtain ⟨hfirst, hrest⟩ := List.pairwise_cons.mp hups
      have hc : c.IsPart := hparts c List.mem_cons_self
      have hstacked := ih (fun d hd => hparts d (List.mem_cons_of_mem c hd)) hrest
      cases c with
      | root => exact absurd rfl hc.ne_root
      | here => exact absurd rfl hc.text_ne_here
      | up => exact fun d hd => hfirst d hd rfl
      | name n => exact ⟨hc, hstacked⟩

/-- The components of a path are a stack, read from the last one, if none is left
to fold away. -/
theorem stacked_reverse_of_folded {p : Path} (h : Folded p.components) :
    Stacked p.components.reverse := by
  obtain ⟨lead, parts, hcomponents, hparts, hlead⟩ := components_shape p
  have hups := List.pairwise_reverse.mpr h.ups_lead
  rw [hcomponents, List.reverse_append] at hups
  rw [hcomponents, List.reverse_append]
  have hreverse : ∀ c ∈ parts.reverse, c.IsPart := by
    intro c hc
    exact hparts c (List.mem_reverse.mp hc)
  have hroot : Stacked [.root] := rfl
  rcases hlead with rfl | rfl | rfl
  · exact stacked_append hreverse trivial hups
  · exact stacked_append hreverse hroot hups
  · have hhere : .here ∈ p.components := by
      rw [hcomponents]
      exact List.mem_cons_self
    exact absurd hhere h.no_here

section Shortening

variable {stack : List Component}

/-- A `..` on a stack shortens the path, or is pushed. -/
theorem shortens_foldUp (h : Stacked stack) (after : List Component) :
    ShortensTo (stack.reverse ++ .up :: after) ((foldUp stack).reverse ++ after) := by
  have hfolded := folded_reverse_of_stacked h
  cases stack with
  | nil => exact .refl
  | cons c below =>
      cases c with
      | root =>
          obtain rfl : below = [] := h
          exact .single (.anchor after rfl)
      | here => exact False.elim h
      | up =>
          have hpushed : (foldUp (.up :: below)).reverse = (.up :: below).reverse ++ [.up] :=
            List.reverse_cons
          rw [hpushed, List.append_assoc]
          exact .refl
      | name n =>
          rw [List.reverse_cons] at hfolded
          rw [List.reverse_cons, List.append_assoc]
          cases below with
          | nil =>
              by_cases hn : isDrive n
              · have hkept : foldUp [.name n] = [.name n] := if_pos hn
                rw [hkept]
                exact .single (.anchor after hn)
              · have htaken : foldUp [.name n] = [] := if_neg hn
                rw [htaken]
                exact .single (.up after hfolded fun _ => hn)
          | cons d rest =>
              refine .single (.up after hfolded ?_)
              intro hnil
              exact absurd hnil (by simp)

/-- **One component** on a stack. -/
theorem shortens_foldComponent (h : Stacked stack) (c : Component) (after : List Component) :
    ShortensTo (stack.reverse ++ c :: after) ((foldComponent stack c).reverse ++ after) := by
  have hpush : ∀ d : Component,
      ShortensTo (stack.reverse ++ d :: after) ((d :: stack).reverse ++ after) := by
    intro d
    rw [List.reverse_cons, List.append_assoc]
    exact .refl
  cases c with
  | root => exact hpush .root
  | here => exact .single (.here after (folded_reverse_of_stacked h))
  | up => exact shortens_foldUp h after
  | name n => exact hpush (.name n)

/-- **A run of components** on a stack. -/
theorem shortens_foldl (h : Stacked stack) {parts : List Component}
    (hparts : ∀ c ∈ parts, c.IsPart) :
    ShortensTo (stack.reverse ++ parts) (parts.foldl foldComponent stack).reverse := by
  induction parts generalizing stack with
  | nil =>
      rw [List.append_nil]
      exact .refl
  | cons c rest ih =>
      have hstacked : Stacked (foldComponent stack c) :=
        stacked_foldComponent h (hparts c List.mem_cons_self)
      have hrest := ih hstacked fun d hd => hparts d (List.mem_cons_of_mem c hd)
      exact (shortens_foldComponent h c rest).trans hrest

end Shortening

/-- A path is shortened to its stack. -/
theorem shortens_components (p : Path) : ShortensTo p.components (p.foldOn []).reverse := by
  obtain ⟨lead, parts, hcomponents, hparts, hlead⟩ := components_shape p
  rw [foldOn, hcomponents, List.foldl_append]
  have hempty : Stacked [] := trivial
  have hroot : Stacked [.root] := rfl
  rcases hlead with rfl | rfl | rfl
  · exact shortens_foldl hempty hparts
  · exact shortens_foldl hroot hparts
  · have hfirst : ShortensTo (.here :: parts) parts :=
      .single (.here parts folded_nil)
    exact hfirst.trans (shortens_foldl hempty hparts)

/-! ### Canonical paths -/

/-- The normal form of a path is `.` if nothing is left of it. -/
theorem normalize_eq_ite (p : Path) :
    p.normalize = if p.foldOn [] = [] then ⟨['.']⟩ else ofComponents (p.foldOn []).reverse := by
  have hfold : foldComponents p.components = (p.foldOn []).reverse := rfl
  rw [normalize, hfold]
  split
  · next hnil => rw [if_pos (List.reverse_eq_nil_iff.mp hnil)]
  · next hne =>
      rw [if_neg]
      intro hnil
      exact hne (by rw [hnil]; rfl)

/-- A normal form is canonical. -/
theorem isCanonical_normalize (p : Path) : p.normalize.IsCanonical := by
  have hstacked : Stacked (p.foldOn []) := stacked_fold_components p
  by_cases hnil : p.foldOn [] = []
  · rw [normalize_eq_ite, if_pos hnil]
    exact .inl rfl
  · have hcomponents := components_ofComponents hstacked hnil
    rw [normalize_eq_ite, if_neg hnil]
    refine .inr ⟨?_, ?_, ?_⟩
    · rw [hcomponents]
      exact mt List.reverse_eq_nil_iff.mp hnil
    · rw [hcomponents]
    · rw [hcomponents]
      exact folded_reverse_of_stacked hstacked

/-- **Canonical paths are fixed points.** -/
theorem IsCanonical.normalize_eq {p : Path} (h : p.IsCanonical) : p.normalize = p := by
  rcases h with rfl | ⟨hne, hspelled, hfolded⟩
  · rfl
  · have hstack := foldl_reverse_of_stacked (stacked_reverse_of_folded hfolded)
    rw [List.reverse_reverse] at hstack
    have hfold : p.foldOn [] = p.components.reverse := hstack
    have hnil : p.components.reverse ≠ [] := mt List.reverse_eq_nil_iff.mp hne
    rw [normalize_eq_ite, hfold, if_neg hnil, List.reverse_reverse, hspelled]

/-- A `..` that is left stands in a path without an anchor. -/
theorem Folded.not_isAbsolute {p : Path} (h : Folded p.components) (hup : .up ∈ p.components) :
    ¬ p.isAbsolute := by
  intro habsolute
  obtain ⟨a, rest, hcomponents, ha⟩ := isAbsolute_iff.mp habsolute
  have hups := h.ups_lead
  rw [hcomponents] at hup hups
  have hfirst : a = .up := by
    rcases List.mem_cons.mp hup with heq | hrest
    · exact heq.symm
    · exact (List.pairwise_cons.mp hups).1 _ hrest rfl
  subst hfirst
  cases ha

/-- **The normal form.**  It is `.` alone, or it has no `.`, and `..` only in front
of all other components of a path that has neither a root nor a drive.  The
canonical paths are the normal forms, a path is shortened to its normal form, and
a directory may be normalized before a path is joined to it. -/
theorem normalize_canonical (p : Path) :
    (p.normalize = ⟨['.']⟩ ∨ p.normalize.components ≠ [] ∧ Folded p.normalize.components ∧
      (.up ∈ p.normalize.components → ¬ p.normalize.isAbsolute)) ∧
    (p.IsCanonical ↔ p.normalize = p) ∧
    (∃ components, ShortensTo p.components components ∧ Folded components ∧
      p.normalize = if components = [] then ⟨['.']⟩ else ofComponents components) ∧
    p.normalize.normalize = p.normalize ∧
    ∀ q : Path, (p.join q).normalize = (p.normalize.join q).normalize := by
  refine ⟨?_, ⟨IsCanonical.normalize_eq, ?_⟩, ⟨(p.foldOn []).reverse, ?_, ?_, ?_⟩, ?_, ?_⟩
  · rcases isCanonical_normalize p with hhere | ⟨hne, -, hfolded⟩
    · exact .inl hhere
    · exact .inr ⟨hne, hfolded, hfolded.not_isAbsolute⟩
  · intro hfixed
    exact hfixed ▸ isCanonical_normalize p
  · exact shortens_components p
  · exact folded_reverse_of_stacked (stacked_fold_components p)
  · rw [normalize_eq_ite]
    simp only [List.reverse_eq_nil_iff]
  · exact normalize_normalize p
  · intro q
    exact (normalize_join_normalize p q).symm

/-- A name like a drive is the drive of the path once nothing stands before it. -/
example : (⟨"x/../C:/../a".toList⟩ : Path).normalize = ⟨"C:/a".toList⟩ := by decide

end Path

end BuildEnv
