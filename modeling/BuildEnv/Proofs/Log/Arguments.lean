import BuildEnv.Proofs.Log.Call
import BuildEnv.Proofs.Log.Search

/-!
# The arguments of a line that begins with a call

The search for a call looks behind the separators of a line first, and for a
call without a path only then.  A line that begins with the name of the compiler
has no call behind the separators up to its arguments
(`Marker.callWithPath?_plainCall`), but can have one in them.

`Marker.invocation_plainCall` says which arguments such a line has.  They are
all of them unless a call stands in them behind a separator; then what stands
before it counts as the path of the compiler.  `Marker.invocation_cuts` is a
line that loses switches in this way.
-/

namespace BuildEnv

namespace Marker

variable {t word name gap arguments before found lead : Text}

/-- The search for a call goes through the name of a compiler. -/
theorem callWithPath?_compilerWord (hword : IsCompilerWord word) (rest : Text) :
    callWithPath? lead (word ++ rest) = callWithPath? (word.reverse ++ lead) rest := by
  have hline : '\n' ∉ word := fun h => hword.not_isBeforeCompiler _ h (by decide)
  refine callWithPath?_append hline ?_
  intro before c after hsplit hseparator
  refine absurd hseparator (hword.not_isBeforeCompiler c ?_)
  rw [hsplit]
  exact List.mem_append_right _ List.mem_cons_self

/-- The search for a call goes through the blanks before arguments. -/
theorem callWithPath?_blanks {blanks after : Text} (hblanks : ∀ c ∈ blanks ++ after, Text.isBlank c)
    (hline : '\n' ∉ blanks) (harguments : IsArguments arguments) :
    callWithPath? lead (blanks ++ (after ++ arguments)) =
      callWithPath? (blanks.reverse ++ lead) (after ++ arguments) := by
  refine callWithPath?_append hline ?_
  intro before c rest hsplit _
  have hrest : ∀ d ∈ rest ++ after, Text.isBlank d := by
    intro d hd
    refine hblanks d ?_
    rw [hsplit, List.append_assoc]
    exact List.mem_append_right _ (List.mem_cons_of_mem c hd)
  rw [← List.append_assoc]
  exact call?_blanks_append hrest harguments

/-- The search passes the name of the compiler at the beginning and the blanks
after it, up to the end of the line. -/
theorem callWithPath?_plainCall (hword : IsCompilerWord word) (hgap : Text.IsGap gap)
    (harguments : IsArguments arguments) :
    callWithPath? [] (word ++ (gap ++ arguments)) =
      if '\n' ∈ gap then none else callWithPath? (word ++ gap).reverse arguments := by
  rw [callWithPath?_compilerWord hword, List.append_nil, List.reverse_append]
  by_cases hline : '\n' ∈ gap
  · rw [if_pos hline]
    obtain ⟨blanks, after, hsplit, hbefore⟩ := List.eq_append_cons_of_mem hline
    have hblanks : ∀ c ∈ blanks ++ '\n' :: after, Text.isBlank c := hsplit ▸ hgap.blank
    have hafter : ∀ c ∈ after, Text.isBlank c := fun c hc =>
      hblanks c (List.mem_append_right _ (List.mem_cons_of_mem _ hc))
    have hnone : call? (after ++ arguments) = none := call?_blanks_append hafter harguments
    rw [hsplit, List.append_assoc, callWithPath?_blanks hblanks hbefore harguments,
      List.cons_append, callWithPath?_cons_of_none fun _ => hnone, if_pos rfl]
  · rw [if_neg hline]
    have hblanks : ∀ c ∈ gap ++ [], Text.isBlank c := by
      rw [List.append_nil]
      exact hgap.blank
    exact callWithPath?_blanks hblanks hline harguments

/-- The call that is found is the only invocation of the line. -/
theorem filter_isInvocation_of_found {path : Text}
    (h : (callWithPath? [] t).or (call? t) = some (path, arguments)) :
    (ofText t).filter isInvocation = [.invocation (Text.trim path) arguments] := by
  rw [filter_isInvocation_ofText, invocations, h]

/-- Where no call has a path, the line is a call without one. -/
theorem filter_isInvocation_whole (hword : IsCompilerWord word) (hgap : Text.IsGap gap)
    (harguments : IsArguments arguments)
    (hnone : callWithPath? [] (word ++ (gap ++ arguments)) = none) :
    (ofText (word ++ (gap ++ arguments))).filter isInvocation = [.invocation word arguments] := by
  have hfront : call? (word ++ (gap ++ arguments)) = some (word, arguments) :=
    call?_eq_some_iff.mpr
      ⟨gap, rfl, ⟨word, [], hword, .inl rfl, (List.append_nil word).symm⟩, hgap, harguments⟩
  have htrim : Text.trim word = word :=
    Text.trimBy_eq_self (fun c hc => hword.not_isBlank c (List.mem_of_head? hc))
      fun c hc => hword.not_isBlank c (List.mem_of_getLast? hc)
  have hfound : (callWithPath? [] (word ++ (gap ++ arguments))).or
      (call? (word ++ (gap ++ arguments))) = some (word, arguments) := by
    rw [hnone, hfront]
    rfl
  rw [filter_isInvocation_of_found hfound, htrim]

/-- Where a call has a path, all that stands before its name is the path. -/
theorem filter_isInvocation_cut (hword : IsCompilerWord word)
    (hcall : HasCall arguments before name found)
    (hsearch : callWithPath? [] (word ++ (gap ++ arguments)) =
      some (word ++ (gap ++ before) ++ name, found)) :
    (ofText (word ++ (gap ++ arguments))).filter isInvocation =
      [.invocation (word ++ (gap ++ before) ++ name) found] := by
  have htrim : Text.trim (word ++ (gap ++ before) ++ name) = word ++ (gap ++ before) ++ name := by
    obtain ⟨_, -, hparts⟩ := hcall.split
    obtain ⟨hname, hblank⟩ := hparts.name_not_isBlank
    exact Text.trim_append_eq_self hword.not_isBlank hblank hword.ne_nil hname
  have hfound : (callWithPath? [] (word ++ (gap ++ arguments))).or
      (call? (word ++ (gap ++ arguments))) = some (word ++ (gap ++ before) ++ name, found) := by
    rw [hsearch]
    rfl
  rw [filter_isInvocation_of_found hfound, htrim]

theorem HasCall.length_lt (h : HasCall t before name arguments) :
    arguments.length < t.length := by
  obtain ⟨gap, rfl, hcall⟩ := h.split
  have hname : 0 < name.length := List.length_pos_iff.mpr hcall.name_not_isBlank.1
  simp only [List.length_append]
  omega

/-- **The arguments of a line that begins with a call.**  Such a line has one
call.  Its arguments are all that stands behind the name of the compiler exactly
if the blanks there break the line, or if no call stands in the arguments behind
a separator.  Otherwise they are the arguments of the first such call, and what
stands before them counts as the path of the compiler. -/
theorem invocation_plainCall (hword : IsCompilerWord word) (hgap : Text.IsGap gap)
    (harguments : IsArguments arguments) :
    ∃ path found,
      (ofText (word ++ (gap ++ arguments))).filter isInvocation = [.invocation path found] ∧
      (found = arguments ↔
        '\n' ∈ gap ∨ ∀ before name rest, ¬ HasCall arguments before name rest) ∧
      (found = arguments → path = word) ∧
      (found ≠ arguments → ∃ before name, FirstCall arguments before name found ∧
        path = word ++ (gap ++ before) ++ name) := by
  have hsearch := callWithPath?_plainCall hword hgap harguments
  by_cases hline : '\n' ∈ gap
  · rw [if_pos hline] at hsearch
    exact ⟨word, arguments, filter_isInvocation_whole hword hgap harguments hsearch,
      ⟨fun _ => .inl hline, fun _ => rfl⟩, fun _ => rfl, fun hne => absurd rfl hne⟩
  rw [if_neg hline] at hsearch
  rcases callWithPath?_spec (word ++ gap).reverse harguments.one_line with
    ⟨hnone, hno⟩ | ⟨before, name, found, hfirst, hfound⟩
  · rw [hnone] at hsearch
    exact ⟨word, arguments, filter_isInvocation_whole hword hgap harguments hsearch,
      ⟨fun _ => .inr hno, fun _ => rfl⟩, fun _ => rfl, fun hne => absurd rfl hne⟩
  · have hcut : found ≠ arguments := by
      rintro rfl
      exact Nat.lt_irrefl _ hfirst.toHasCall.length_lt
    have hpath : (word ++ gap).reverse.reverse ++ (before ++ name) =
        word ++ (gap ++ before) ++ name := by
      simp only [List.reverse_reverse, List.append_assoc]
    have hcall : ¬ ('\n' ∈ gap ∨ ∀ before name rest, ¬ HasCall arguments before name rest) := by
      rintro (h | hno)
      · exact hline h
      · exact hno before name found hfirst.toHasCall
    rw [hfound, hpath] at hsearch
    exact ⟨word ++ (gap ++ before) ++ name, found,
      filter_isInvocation_cut hword hfirst.toHasCall hsearch,
      ⟨fun h => absurd h hcut, fun h => absurd h hcall⟩, fun h => absurd h hcut,
      fun _ => ⟨before, name, hfirst, rfl⟩⟩

/-- Names of the compiler in the arguments that begin no call: a directory and a
file whose name goes on. -/
theorem invocation_plainCall_alike :
    IsCompilerWord "Cl.EXE".toList ∧ Text.IsGap "\t ".toList ∧
      IsArguments "-c /Foobj\\cl\\ /Iclient cl.cpp".toList ∧
      (ofText ("Cl.EXE".toList ++ ("\t ".toList ++
        "-c /Foobj\\cl\\ /Iclient cl.cpp".toList))).filter isInvocation =
          [.invocation "Cl.EXE".toList "-c /Foobj\\cl\\ /Iclient cl.cpp".toList] := by
  have hword : IsCompilerWord "Cl.EXE".toList := .inr (by decide)
  have hgap : Text.IsGap "\t ".toList := by decide
  have harguments : IsArguments "-c /Foobj\\cl\\ /Iclient cl.cpp".toList := by decide
  obtain ⟨path, found, hcall, hwhole, hpath, -⟩ := invocation_plainCall hword hgap harguments
  have hno := not_hasCall_of_search harguments.one_line (by decide +kernel)
  have hfound := hwhole.mpr (.inr hno)
  obtain rfl := hpath hfound
  subst hfound
  exact ⟨hword, hgap, harguments, hcall⟩

/-- The directory `cl` behind a backslash is taken for the compiler, and the
switches before it are lost. -/
theorem invocation_cuts :
    IsCompilerWord "cl".toList ∧ Text.IsGap " ".toList ∧
      IsArguments "/c /DNAME /Ithird_party\\cl /W3 main.cpp".toList ∧
      (ofText ("cl".toList ++ (" ".toList ++
        "/c /DNAME /Ithird_party\\cl /W3 main.cpp".toList))).filter isInvocation =
          [.invocation "cl /c /DNAME /Ithird_party\\cl".toList "/W3 main.cpp".toList] ∧
      "/W3 main.cpp".toList ≠ "/c /DNAME /Ithird_party\\cl /W3 main.cpp".toList := by
  have hmarkers : (ofText ("cl".toList ++ (" ".toList ++
      "/c /DNAME /Ithird_party\\cl /W3 main.cpp".toList))).filter isInvocation =
        [.invocation "cl /c /DNAME /Ithird_party\\cl".toList "/W3 main.cpp".toList] := by
    decide +kernel
  exact ⟨.inl (by decide), by decide, by decide, hmarkers, by decide⟩

end Marker

end BuildEnv
