import BuildEnv.Switch.Invocation

/-!
# Words that are no switch

The rules of a dialect are tried with the longest switch first, but which rules
there are is told by its table.  So a word is no switch if no switch of the
table begins it (`Dialect.match?_eq_none`), whatever the order.

`Invocation.ofWords_compileOnly` is the plainest call of the compiler: it names
one source and says nothing else.
-/

namespace BuildEnv

namespace Switch

variable {d : Dialect} {word : Text}

/-- A rule takes no word that begins differently. -/
theorem Rule.accept?_eq_none {rule : Rule} (h : Text.after? rule.switch word = none)
    (next : List Text) : rule.accept? word next = none := by
  unfold accept?
  rw [h]

/-- A word has no match if it begins as no switch does. -/
theorem Dialect.match?_eq_none
    (h : ∀ switch, d.canonical? word = some switch →
      ∀ rule ∈ d.table, Text.after? rule.switch switch = none)
    (next : List Text) : d.match? (word :: next) = none := by
  rw [match?, matchBy?]
  cases hcanonical : d.canonical? word with
  | none => rfl
  | some switch =>
      refine List.findSome?_eq_none_iff.mpr fun rule hrule => ?_
      have htable : rule ∈ d.table := List.mem_mergeSort.mp hrule
      exact Rule.accept?_eq_none (h switch hcanonical rule htable) next

/-- A word that is no switch and names no further words is a source file, or
says nothing. -/
theorem Dialect.step_of_match?_eq_none {next : List Text} (hfile : word.head? ≠ some '@')
    (h : d.match? (word :: next) = none) :
    d.step word next = if d.isSource word then .sourceFile word else .unknown word := by
  rw [step, if_neg (by simpa using hfile), h]

end Switch

namespace Invocation

open Switch

/-- **The plainest call** names one source. -/
theorem ofWords_compileOnly {name : Text} (hfile : name.head? ≠ some '@')
    (hswitch : Dialect.msvc.canonical? name = none) (hsource : Dialect.msvc.isSource name) :
    ofWords .msvc ["/c".toList, name] = { empty with sources := [name] } := by
  have hcompile : ∀ rule ∈ Dialect.msvc.table, Text.after? rule.switch "/c".toList = none := by
    decide
  have hfirst : Dialect.msvc.step "/c".toList [name] = .unknown "/c".toList :=
    Dialect.step_of_match?_eq_none (by decide)
      (Dialect.match?_eq_none (fun switch hc => Option.some.inj hc ▸ hcompile) [name])
  have hsecond : Dialect.msvc.step name [] = .sourceFile name := by
    have hno : ∀ switch, Dialect.msvc.canonical? name = some switch →
        ∀ rule ∈ Dialect.msvc.table, Text.after? rule.switch switch = none := by
      intro switch hc
      rw [hswitch] at hc
      cases hc
    rw [Dialect.step_of_match?_eq_none hfile (Dialect.match?_eq_none hno []), if_pos hsource]
  have hwalk : Dialect.msvc.walk ["/c".toList, name] =
      [.unknown "/c".toList, .sourceFile name] := by
    simp only [Dialect.walk, Dialect.walkAfter, hfirst, hsecond, Step.endsOptions, Step.taken]
    rfl
  rw [ofWords, hwalk]
  rfl

/-- A source file behind `/c` is the one source. -/
theorem sources_compileOnly {name : Text} (hfile : name.head? ≠ some '@')
    (hswitch : Dialect.msvc.canonical? name = none) (hsource : Dialect.msvc.isSource name) :
    (ofWords .msvc ["/c".toList, name]).sources = [name] := by
  rw [ofWords_compileOnly hfile hswitch hsource]

end Invocation

end BuildEnv
