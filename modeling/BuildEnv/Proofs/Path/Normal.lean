import BuildEnv.Path.Normal

/-!
# The normal form is a fixed point

`Path.normalize` reads the components of a path, folds them on a stack and
writes the stack down again.  The stack only ever has one of two shapes
(`Path.Stacked`): names above a root, or names above a run of `..`.  A stack
of that shape survives both halves of the way round: written down and read
again it gives the same components (`components_ofComponents`), and folded
again it gives itself (`foldl_reverse_of_stacked`).

* `foldOn_normalize`: the normal form folds to the stack of the path.
* `normalize_normalize`: the normal form of a normal form is itself.
* `normalize_eq_of_sameAs`: two spellings of a path have one normal form.
* `sameAs_normalize_iff`: normal forms with the same components are the same
  text, so that normal forms can be compared as texts.
-/

namespace BuildEnv

namespace Text

variable {sep : Char}

theorem splitOn_ne_nil (t : Text) : splitOn sep t ≠ [] := by
  cases t with
  | nil => simp [splitOn]
  | cons c t =>
      unfold splitOn
      split
      · simp
      · split <;> simp

/-- The separator stands in no part. -/
theorem not_mem_of_mem_splitOn {t part : Text} (hpart : part ∈ splitOn sep t) :
    sep ∉ part := by
  induction t generalizing part with
  | nil => simp_all [splitOn]
  | cons c t ih =>
      unfold splitOn at hpart
      by_cases hc : c = sep
      · rw [if_pos hc] at hpart
        rcases List.mem_cons.mp hpart with rfl | hpart
        · exact List.not_mem_nil
        · exact ih hpart
      · rw [if_neg hc] at hpart
        cases hsplit : splitOn sep t with
        | nil => exact absurd hsplit (splitOn_ne_nil t)
        | cons first rest =>
            rw [hsplit] at hpart ih
            rcases List.mem_cons.mp hpart with rfl | hpart
            · have hfirst : sep ∉ first := ih List.mem_cons_self
              exact List.not_mem_cons_of_ne_of_not_mem (Ne.symm hc) hfirst
            · exact ih (List.mem_cons_of_mem _ hpart)

/-- Without a separator there is one part. -/
theorem splitOn_of_not_mem {part : Text} (hpart : sep ∉ part) :
    splitOn sep part = [part] := by
  induction part with
  | nil => rfl
  | cons c t ih =>
      obtain ⟨hc, ht⟩ := List.ne_and_not_mem_of_not_mem_cons hpart
      simp [splitOn, Ne.symm hc, ih ht]

/-- Around a separator both sides are split on their own. -/
theorem splitOn_append_sep (s t : Text) :
    splitOn sep (s ++ sep :: t) = splitOn sep s ++ splitOn sep t := by
  induction s with
  | nil => simp [splitOn]
  | cons c rest ih =>
      rw [List.cons_append, splitOn, splitOn, ih]
      by_cases hc : c = sep
      · rw [if_pos hc, if_pos hc, List.cons_append]
      · rw [if_neg hc, if_neg hc]
        cases hsplit : splitOn sep rest with
        | nil => exact absurd hsplit (splitOn_ne_nil rest)
        | cons part parts => rfl

/-- Parts without the separator come back from the text that they are joined
to. -/
theorem splitOn_joinWith {parts : List Text} (hne : parts ≠ [])
    (hparts : ∀ part ∈ parts, sep ∉ part) :
    splitOn sep (joinWith [sep] parts) = parts := by
  induction parts with
  | nil => exact absurd rfl hne
  | cons part rest ih =>
      have hpart : sep ∉ part := hparts part List.mem_cons_self
      cases rest with
      | nil => exact splitOn_of_not_mem hpart
      | cons next more =>
          have hrest : splitOn sep (joinWith [sep] (next :: more)) = next :: more :=
            ih (List.cons_ne_nil _ _) fun p hp => hparts p (List.mem_cons_of_mem _ hp)
          have hjoin : joinWith [sep] (part :: next :: more) =
              part ++ sep :: joinWith [sep] (next :: more) := by
            simp [joinWith]
          rw [hjoin, splitOn_append_sep, splitOn_of_not_mem hpart, hrest, List.singleton_append]

end Text

namespace Path

/-- A component that is written as a part of its own between separators. -/
def Component.IsPart (c : Component) : Prop :=
  Component.ofPart c.text = some c ∧ '/' ∉ c.text

/-- A part that gives a component is how the component is written. -/
theorem Component.text_of_ofPart {part : Text} {c : Component}
    (h : Component.ofPart part = some c) : c.text = part := by
  unfold Component.ofPart at h
  split at h <;> cases h <;> rfl

/-- A component that was read from a part is written as this part. -/
theorem Component.isPart_of_ofPart {part : Text} {c : Component}
    (h : Component.ofPart part = some c) (hpart : '/' ∉ part) : c.IsPart := by
  have htext := Component.text_of_ofPart h
  exact ⟨by rw [htext, h], by rwa [htext]⟩

theorem Component.isPart_up : Component.up.IsPart :=
  ⟨rfl, by simp [Component.text]⟩

theorem Component.IsPart.text_ne_nil {c : Component} (h : c.IsPart) : c.text ≠ [] := by
  intro hnil
  have := h.1
  rw [hnil] at this
  cases this

/-- No part is `.`, which is left out. -/
theorem Component.IsPart.text_ne_here {c : Component} (h : c.IsPart) : c.text ≠ ['.'] := by
  intro hhere
  have := h.1
  rw [hhere] at this
  cases this

theorem Component.IsPart.ne_root {c : Component} (h : c.IsPart) : c ≠ .root := by
  rintro rfl
  exact h.text_ne_nil rfl

/-- The components of the parts of a text are parts. -/
theorem isPart_of_mem_filterMap_splitOn {t : Text} {c : Component}
    (hc : c ∈ (Text.splitOn '/' t).filterMap Component.ofPart) : c.IsPart := by
  obtain ⟨part, hpart, hof⟩ := List.mem_filterMap.mp hc
  exact Component.isPart_of_ofPart hof (Text.not_mem_of_mem_splitOn hpart)

/-- A path begins with a root, with a leading `.` or with neither; all other
components are parts. -/
theorem components_shape (p : Path) :
    ∃ lead parts, p.components = lead ++ parts ∧ (∀ c ∈ parts, c.IsPart) ∧
      (lead = [] ∨ lead = [.root] ∨ lead = [.here]) := by
  unfold components
  split
  · exact ⟨[.root], _, rfl, fun c hc => isPart_of_mem_filterMap_splitOn hc, .inr (.inl rfl)⟩
  · unfold relativeComponents
    split
    · next parts hsplit =>
      refine ⟨[.here], _, rfl, fun c hc => ?_, .inr (.inr rfl)⟩
      obtain ⟨part, hpart, hof⟩ := List.mem_filterMap.mp hc
      refine Component.isPart_of_ofPart hof (Text.not_mem_of_mem_splitOn (t := p.text) ?_)
      rw [hsplit]
      exact List.mem_cons_of_mem _ hpart
    · exact ⟨[], _, rfl, fun c hc => isPart_of_mem_filterMap_splitOn hc, .inl rfl⟩

/-- The shape of the stack on which components are folded, last component
first: names, and below them a root or a run of `..`. -/
def Stacked : List Component → Prop
  | [] => True
  | .root :: below => below = []
  | .up :: below => ∀ c ∈ below, c = .up
  | .here :: _ => False
  | .name n :: below => (Component.name n).IsPart ∧ Stacked below

/-- Going up keeps the shape of the stack. -/
theorem stacked_foldUp {stack : List Component} (h : Stacked stack) :
    Stacked (foldUp stack) := by
  cases stack with
  | nil => simp [foldUp, Stacked]
  | cons c below =>
      cases c with
      | root => exact h
      | here => exact False.elim h
      | up =>
          intro c hc
          rcases List.mem_cons.mp hc with rfl | hc
          · rfl
          · exact h c hc
      | name n =>
          cases below with
          | nil =>
              show Stacked (if isDrive n then [.name n] else [])
              split
              · exact h
              · trivial
          | cons d rest => exact h.2

/-- A part keeps the shape of the stack. -/
theorem stacked_foldComponent {stack : List Component} {c : Component}
    (h : Stacked stack) (hc : c.IsPart) : Stacked (foldComponent stack c) := by
  cases c with
  | root => exact absurd rfl hc.ne_root
  | here => exact h
  | up => exact stacked_foldUp h
  | name n => exact ⟨hc, h⟩

/-- Parts keep the shape of the stack. -/
theorem stacked_foldl {stack parts : List Component} (h : Stacked stack)
    (hparts : ∀ c ∈ parts, c.IsPart) : Stacked (parts.foldl foldComponent stack) := by
  induction parts generalizing stack with
  | nil => exact h
  | cons c rest ih =>
      exact ih (stacked_foldComponent h (hparts c List.mem_cons_self))
        fun d hd => hparts d (List.mem_cons_of_mem _ hd)

/-- The components of a path fold to a stack of the right shape. -/
theorem stacked_fold_components (p : Path) :
    Stacked (p.components.foldl foldComponent []) := by
  obtain ⟨lead, parts, hcomponents, hparts, rfl | rfl | rfl⟩ := components_shape p
  all_goals rw [hcomponents, List.foldl_append]
  · exact stacked_foldl trivial hparts
  · exact stacked_foldl rfl hparts
  · exact stacked_foldl trivial hparts

/-- A stack of the right shape is folded to itself. -/
theorem foldl_reverse_of_stacked {stack : List Component} (h : Stacked stack) :
    stack.reverse.foldl foldComponent [] = stack := by
  induction stack with
  | nil => rfl
  | cons c below ih =>
      rw [List.reverse_cons, List.foldl_append]
      cases c with
      | root =>
          obtain rfl : below = [] := h
          rfl
      | here => exact False.elim h
      | name n => rw [ih h.2]; rfl
      | up =>
          have hbelow : Stacked below := by
            cases below with
            | nil => trivial
            | cons d rest =>
                obtain rfl := h d List.mem_cons_self
                exact fun e he => h e (List.mem_cons_of_mem _ he)
          rw [ih hbelow]
          cases below with
          | nil => rfl
          | cons d rest => obtain rfl := h d List.mem_cons_self; rfl

/-- Only the bottom of a stack can be a root; all else are parts. -/
theorem stacked_reverse_shape {stack : List Component} (h : Stacked stack) :
    (∀ c ∈ stack, c.IsPart) ∨ ∃ parts, stack.reverse = .root :: parts ∧ ∀ c ∈ parts, c.IsPart := by
  induction stack with
  | nil => exact .inl (by simp)
  | cons c below ih =>
      cases c with
      | root =>
          obtain rfl : below = [] := h
          exact .inr ⟨[], rfl, by simp⟩
      | here => exact False.elim h
      | up =>
          refine .inl fun d hd => ?_
          rcases List.mem_cons.mp hd with rfl | hd
          · exact Component.isPart_up
          · exact h d hd ▸ Component.isPart_up
      | name n =>
          rcases ih h.2 with hbelow | ⟨parts, hreverse, hparts⟩
          · refine .inl fun d hd => ?_
            rcases List.mem_cons.mp hd with rfl | hd
            · exact h.1
            · exact hbelow d hd
          · refine .inr ⟨parts ++ [.name n], by simp [hreverse], fun d hd => ?_⟩
            rcases List.mem_append.mp hd with hd | hd
            · exact hparts d hd
            · exact List.mem_singleton.mp hd ▸ h.1

/-- Parts that are written are read. -/
theorem filterMap_ofPart_text {parts : List Component} (hparts : ∀ c ∈ parts, c.IsPart) :
    (parts.map Component.text).filterMap Component.ofPart = parts := by
  induction parts with
  | nil => rfl
  | cons c rest ih =>
      rw [List.map_cons, List.filterMap_cons_some (hparts c List.mem_cons_self).1,
        ih fun d hd => hparts d (List.mem_cons_of_mem _ hd)]

/-- What the parts of a joined text are. -/
theorem splitOn_join_text {parts : List Component} (hne : parts ≠ [])
    (hparts : ∀ c ∈ parts, c.IsPart) :
    Text.splitOn '/' (Text.joinWith ['/'] (parts.map Component.text)) =
      parts.map Component.text := by
  refine Text.splitOn_joinWith (by simpa using hne) fun part hpart => ?_
  obtain ⟨c, hc, rfl⟩ := List.mem_map.mp hpart
  exact (hparts c hc).2

/-- Parts written down after a root are read again. -/
theorem components_ofComponents_root {parts : List Component}
    (hparts : ∀ c ∈ parts, c.IsPart) :
    (ofComponents (.root :: parts)).components = .root :: parts := by
  cases parts with
  | nil => rfl
  | cons c rest =>
      show Component.root :: (Text.splitOn '/' _).filterMap Component.ofPart = _
      rw [splitOn_join_text (List.cons_ne_nil _ _) hparts, filterMap_ofPart_text hparts]

/-- Parts written down on their own are read again. -/
theorem components_ofComponents_parts {parts : List Component} (hne : parts ≠ [])
    (hparts : ∀ c ∈ parts, c.IsPart) :
    (ofComponents parts).components = parts := by
  have hsplit := splitOn_join_text hne hparts
  cases parts with
  | nil => exact absurd rfl hne
  | cons c rest =>
      have hc : c.IsPart := hparts c List.mem_cons_self
      have htext : (ofComponents (c :: rest)).text =
          Text.joinWith ['/'] ((c :: rest).map Component.text) := by
        cases c with
        | root => exact absurd rfl hc.ne_root
        | here => rfl
        | up => rfl
        | name n => rfl
      unfold components
      rw [htext]
      split
      · next t hslash =>
        rw [hslash] at hsplit
        have hfirst : [] = c.text := by simpa [Text.splitOn] using congrArg List.head? hsplit
        exact absurd hfirst.symm hc.text_ne_nil
      · unfold relativeComponents
        rw [hsplit]
        split
        · next parts hhere =>
          have hfirst : c.text = ['.'] := by simpa using congrArg List.head? hhere
          exact absurd hfirst hc.text_ne_here
        · exact filterMap_ofPart_text hparts

/-- A stack that is not empty is read again as it was written down. -/
theorem components_ofComponents {stack : List Component} (h : Stacked stack) (hne : stack ≠ []) :
    (ofComponents stack.reverse).components = stack.reverse := by
  rcases stacked_reverse_shape h with hparts | ⟨parts, hreverse, hparts⟩
  · exact components_ofComponents_parts (by simpa using hne) fun c hc =>
      hparts c (List.mem_reverse.mp hc)
  · rw [hreverse]
    exact components_ofComponents_root hparts

/-- The normal form depends on the components alone. -/
theorem normalize_eq_of_components {p q : Path} (h : p.components = q.components) :
    p.normalize = q.normalize := by
  rw [normalize, normalize, h]

/-- The same path has the same normal form. -/
theorem normalize_eq_of_sameAs {p q : Path} (h : p.sameAs q) : p.normalize = q.normalize :=
  normalize_eq_of_components (by simpa [sameAs] using h)

/-- The stack after the components of a path. -/
def foldOn (stack : List Component) (p : Path) : List Component :=
  p.components.foldl foldComponent stack

/-- The normal form depends on the folded stack alone. -/
theorem normalize_eq_of_foldOn {p q : Path} (h : p.foldOn [] = q.foldOn []) :
    p.normalize = q.normalize := by
  have hfold : foldComponents p.components = foldComponents q.components :=
    congrArg List.reverse h
  rw [normalize, normalize, hfold]

/-- The normal form folds to the stack of the path. -/
theorem foldOn_normalize (p : Path) : p.normalize.foldOn [] = p.foldOn [] := by
  have hstacked : Stacked (p.foldOn []) := stacked_fold_components p
  generalize hstack : p.foldOn [] = stack at hstacked
  have hfold : foldComponents p.components = stack.reverse := congrArg List.reverse hstack
  cases hreverse : stack.reverse with
  | nil =>
      obtain rfl : stack = [] := List.reverse_eq_nil_iff.mp hreverse
      rw [normalize, hfold, hreverse]
      rfl
  | cons c rest =>
      have hne : stack ≠ [] := by
        rintro rfl
        cases hreverse
      have hnormal : p.normalize = ofComponents stack.reverse := by
        rw [normalize, hfold, hreverse]
      rw [foldOn, hnormal, components_ofComponents hstacked hne, foldl_reverse_of_stacked hstacked]

/-- **The normal form is a fixed point.** -/
theorem normalize_normalize (p : Path) : p.normalize.normalize = p.normalize :=
  normalize_eq_of_foldOn (foldOn_normalize p)

/-- Normal forms with the same components are the same text. -/
theorem sameAs_normalize_iff {p q : Path} :
    p.normalize.sameAs q.normalize ↔ p.normalize = q.normalize := by
  constructor
  · intro h
    have heq := normalize_eq_of_sameAs h
    rwa [normalize_normalize, normalize_normalize] at heq
  · intro h
    simp [sameAs, h]

/-- No path stands twice, in whatever spelling. -/
def Distinct (ps : List Path) : Prop :=
  ps.Pairwise fun p q => ¬ p.sameAs q

/-- In normal form, paths have one spelling each. -/
theorem distinct_of_nodup {ps : List Path} (h : ps.Nodup) (hnormal : ∀ p ∈ ps, p.normalize = p) :
    Distinct ps := by
  refine h.imp_of_mem fun {p q} hp hq hne hsame => hne ?_
  calc p = p.normalize := (hnormal p hp).symm
    _ = q.normalize := normalize_eq_of_sameAs hsame
    _ = q := hnormal q hq

end Path

end BuildEnv
