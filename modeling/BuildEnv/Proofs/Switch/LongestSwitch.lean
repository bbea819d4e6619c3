import BuildEnv.Proofs.Switch.Table

/-!
# The longest switch wins

The switches of all rules that take one word begin that word, so that of two of
them one begins the other.  Where no two rules have the same switch, the rules that
take a word therefore have switches of different lengths, and the first of them in a
list with the longest switch first is the one with the longest switch, in whatever
order the list was before.

* `Rule.accept?_eq_some_iff`: what a rule takes, said by `Rule.Takes` without the
  search for the switch.
* `firstMatch?_eq_some_iff`: the first rule that takes a word has the longest switch.
* `Dialect.matchBy?_longestFirst`: the same for the words of a command line, and what
  follows for the order of a table and for the mark of a switch.
-/

namespace BuildEnv

namespace Text

theorem byteLength_append (s t : Text) : byteLength (s ++ t) = byteLength s + byteLength t := by
  induction s with
  | nil => exact (Nat.zero_add _).symm
  | cons c rest ih => rw [List.cons_append, byteLength, byteLength, ih, Nat.add_assoc]

/-- A proper beginning is shorter. -/
theorem byteLength_lt_of_prefix {s t : Text} (h : s <+: t) (hne : s ≠ t) :
    byteLength s < byteLength t := by
  obtain ⟨more, rfl⟩ := h
  cases more with
  | nil => exact absurd (List.append_nil s).symm hne
  | cons c rest =>
      have hc : 0 < c.utf8Size := c.utf8Size_pos
      rw [byteLength_append, byteLength]
      omega

end Text

namespace Switch

namespace Rule

variable {rule other : Rule} {word : Text} {next : List Text} {found found' : Match}

/-- What a rule takes from the front of a command line: its switch alone, its switch
with the next word, or its switch with what is glued to it. -/
inductive Takes (rule : Rule) : Text → List Text → Match → Prop
  | alone (hshape : rule.shape = .bare) (next : List Text) :
      Takes rule rule.switch next ⟨rule.meaning, none, 1⟩
  | separate (hshape : rule.shape = .gluedOrNext) (argument : Text) (later : List Text) :
      Takes rule rule.switch (argument :: later) ⟨rule.meaning, some argument, 2⟩
  | glued (hshape : rule.shape ≠ .bare) {argument : Text} (hargument : argument ≠ [])
      (next : List Text) :
      Takes rule (rule.switch ++ argument) next ⟨rule.meaning, some argument, 1⟩

/-- What a rule accepts is what it takes. -/
theorem takes_of_accept? (h : rule.accept? word next = some found) :
    rule.Takes word next found := by
  unfold accept? at h
  split at h
  · next hafter hshape =>
      obtain rfl := Option.some.inj h
      obtain rfl : word = rule.switch := by simpa using Text.after?_eq_some_iff.mp hafter
      exact .alone hshape next
  · next hafter hshape =>
      cases next with
      | nil => cases h
      | cons argument later =>
          obtain rfl := Option.some.inj h
          obtain rfl : word = rule.switch := by simpa using Text.after?_eq_some_iff.mp hafter
          exact .separate hshape argument later
  · next c rest hafter hshape =>
      obtain rfl := Option.some.inj h
      obtain rfl := Text.after?_eq_some_iff.mp hafter
      exact .glued (by simp [hshape]) (List.cons_ne_nil c rest) next
  · next c rest hafter hshape =>
      obtain rfl := Option.some.inj h
      obtain rfl := Text.after?_eq_some_iff.mp hafter
      exact .glued (by simp [hshape]) (List.cons_ne_nil c rest) next
  · cases h

/-- A rule accepts what it takes. -/
theorem Takes.accept? (h : rule.Takes word next found) : rule.accept? word next = some found := by
  cases h with
  | alone hshape next => exact accept?_bare hshape next
  | separate hshape argument later =>
      have hafter : Text.after? rule.switch rule.switch = some [] :=
        Text.after?_eq_some_iff.mpr (List.append_nil _).symm
      simp only [Rule.accept?, hafter, hshape]
  | @glued hshape argument hargument next =>
      cases hkind : rule.shape with
      | bare => exact absurd hkind hshape
      | glued => exact accept?_glued hkind hargument next
      | gluedOrNext =>
          obtain ⟨c, rest, rfl⟩ := List.exists_cons_of_ne_nil hargument
          have hafter : Text.after? rule.switch (rule.switch ++ c :: rest) = some (c :: rest) :=
            Text.after?_eq_some_iff.mpr rfl
          simp only [Rule.accept?, hafter, hkind]

/-- **What a rule takes.** -/
theorem accept?_eq_some_iff : rule.accept? word next = some found ↔ rule.Takes word next found :=
  ⟨takes_of_accept?, Takes.accept?⟩

/-- A word that a rule takes begins with the switch of the rule. -/
theorem Takes.switch_prefix (h : rule.Takes word next found) : rule.switch <+: word := by
  cases h with
  | alone => exact List.prefix_rfl
  | separate => exact List.prefix_rfl
  | glued => exact List.prefix_append _ _

/-- Of two different rules that take one word, the one whose switch is no shorter has
the longer one. -/
theorem Takes.byteLength_lt (h : rule.Takes word next found) (h' : other.Takes word next found')
    (hne : other.switch ≠ rule.switch)
    (hle : Text.byteLength other.switch ≤ Text.byteLength rule.switch) :
    Text.byteLength other.switch < Text.byteLength rule.switch := by
  rcases List.prefix_or_prefix_of_prefix h'.switch_prefix h.switch_prefix with hbegins | hbegins
  · exact Text.byteLength_lt_of_prefix hbegins hne
  · have hlonger := Text.byteLength_lt_of_prefix hbegins hne.symm
    omega

/-- The longer switches are tried before the shorter ones. -/
theorem pairwise_longestFirst (rules : List Rule) :
    (longestFirst rules).Pairwise fun a b =>
      Text.byteLength b.switch ≤ Text.byteLength a.switch := by
  let noShorter (a b : Rule) : Bool :=
    decide (Text.byteLength b.switch ≤ Text.byteLength a.switch)
  have htrans : ∀ a b c, noShorter a b → noShorter b c → noShorter a c := by
    simp only [noShorter, decide_eq_true_eq]
    omega
  have htotal : ∀ a b, noShorter a b || noShorter b a := by
    simp only [noShorter, Bool.or_eq_true, decide_eq_true_eq]
    omega
  have hsorted := List.pairwise_mergeSort htrans htotal rules
  exact hsorted.imp of_decide_eq_true

end Rule

section FirstMatch

variable {tried : List Rule} {word : Text} {next : List Text} {found : Match}

/-- There is no match exactly if no rule takes the word. -/
theorem firstMatch?_eq_none_iff :
    firstMatch? tried word next = none ↔
      ∀ rule ∈ tried, ∀ found, ¬ rule.Takes word next found := by
  rw [firstMatch?, List.findSome?_eq_none_iff]
  simp only [← Rule.accept?_eq_some_iff, Option.eq_none_iff_forall_ne_some, ne_eq]

/-- The first rule that takes a word has the longest switch of all that do. -/
theorem exists_rule_of_firstMatch? (hdistinct : (tried.map Rule.switch).Nodup)
    (horder : tried.Pairwise fun a b => Text.byteLength b.switch ≤ Text.byteLength a.switch)
    (h : firstMatch? tried word next = some found) :
    ∃ rule ∈ tried, rule.Takes word next found ∧ ∀ other ∈ tried, other ≠ rule →
      ∀ found', other.Takes word next found' →
        Text.byteLength other.switch < Text.byteLength rule.switch := by
  obtain ⟨before, rule, behind, rfl, haccept, hbefore⟩ := List.findSome?_eq_some_iff.mp h
  have hrule : rule ∈ before ++ rule :: behind :=
    List.mem_append_right before List.mem_cons_self
  have htakes := Rule.takes_of_accept? haccept
  refine ⟨rule, hrule, htakes, ?_⟩
  intro other hother hne found' hfound'
  have hswitch : other.switch ≠ rule.switch := by
    intro hsame
    exact hne (List.inj_on_of_nodup_map hdistinct hother hrule hsame)
  rcases List.mem_append.mp hother with hmem | hmem
  · have hnone := hbefore other hmem
    rw [hfound'.accept?] at hnone
    cases hnone
  · have hbehind : other ∈ behind := (List.mem_cons.mp hmem).resolve_left hne
    have hle := List.rel_of_pairwise_cons (List.pairwise_append.mp horder).2.1 hbehind
    exact htakes.byteLength_lt hfound' hswitch hle

/-- **The longest switch wins.** -/
theorem firstMatch?_eq_some_iff (hdistinct : (tried.map Rule.switch).Nodup)
    (horder : tried.Pairwise fun a b => Text.byteLength b.switch ≤ Text.byteLength a.switch) :
    firstMatch? tried word next = some found ↔
      ∃ rule ∈ tried, rule.Takes word next found ∧ ∀ other ∈ tried, other ≠ rule →
        ∀ found', other.Takes word next found' →
          Text.byteLength other.switch < Text.byteLength rule.switch := by
  refine ⟨exists_rule_of_firstMatch? hdistinct horder, ?_⟩
  rintro ⟨rule, hrule, htakes, hlongest⟩
  cases hfirst : firstMatch? tried word next with
  | none => exact absurd htakes (firstMatch?_eq_none_iff.mp hfirst rule hrule found)
  | some found' =>
      obtain ⟨rule', hrule', htakes', hlongest'⟩ :=
        exists_rule_of_firstMatch? hdistinct horder hfirst
      by_cases hsame : rule' = rule
      · subst hsame
        exact htakes'.accept?.symm.trans htakes.accept?
      · -- Of two different rules, each would have the longer switch.
        have hshorter := hlongest rule' hrule' hsame found' htakes'
        have hlonger := hlongest' rule hrule (Ne.symm hsame) found htakes
        omega

end FirstMatch

namespace Dialect

open Rule (longestFirst)

variable {d : Dialect} {tried rules : List Rule} {rule : Rule} {words : List Text} {found : Match}

/-- The first of the words, in the form in which rules are written. -/
def front? (d : Dialect) (words : List Text) : Option Text :=
  words.head?.bind d.canonical?

/-- The rule takes the words. -/
def Takes (d : Dialect) (rule : Rule) (words : List Text) (found : Match) : Prop :=
  ∃ switch, d.front? words = some switch ∧ rule.Takes switch words.tail found

/-- Of the rules that take the words, this one has the longest switch. -/
structure Longest (d : Dialect) (rules : List Rule) (words : List Text) (rule : Rule)
    (found : Match) : Prop where
  mem : rule ∈ rules
  takes : d.Takes rule words found
  longest : ∀ other ∈ rules, other ≠ rule → ∀ found', d.Takes other words found' →
    Text.byteLength other.switch < Text.byteLength rule.switch

/-- The first word is matched in its canonical form, if it has one. -/
theorem matchBy?_eq (d : Dialect) (tried : List Rule) (words : List Text) :
    d.matchBy? tried words =
      (d.front? words).bind fun switch => firstMatch? tried switch words.tail := by
  cases words <;> rfl

/-- A dialect takes words as its rules take the canonical form. -/
theorem takes_iff {switch : Text} (h : d.front? words = some switch) :
    d.Takes rule words found ↔ rule.Takes switch words.tail found := by
  simp only [Takes, h, Option.some.injEq, exists_eq_left']

/-- Words that do not begin like a switch are taken by no rule. -/
theorem not_takes (h : d.front? words = none) : ¬ d.Takes rule words found := by
  rintro ⟨switch, hswitch, -⟩
  rw [h] at hswitch
  cases hswitch

/-- Words have no match exactly if no rule takes them. -/
theorem matchBy?_eq_none_iff :
    d.matchBy? tried words = none ↔ ∀ rule ∈ tried, ∀ found, ¬ d.Takes rule words found := by
  rw [matchBy?_eq]
  cases hfront : d.front? words with
  | none => exact ⟨fun _ _ _ _ => not_takes hfront, fun _ => rfl⟩
  | some switch =>
      rw [Option.bind_some, firstMatch?_eq_none_iff]
      simp only [takes_iff hfront]

/-- **A match is the one of the longest switch.** -/
theorem matchBy?_eq_some_iff (hdistinct : (tried.map Rule.switch).Nodup)
    (horder : tried.Pairwise fun a b => Text.byteLength b.switch ≤ Text.byteLength a.switch) :
    d.matchBy? tried words = some found ↔ ∃ rule, d.Longest tried words rule found := by
  rw [matchBy?_eq]
  cases hfront : d.front? words with
  | none =>
      refine ⟨fun h => (by cases h), ?_⟩
      rintro ⟨rule, hrule⟩
      exact absurd hrule.takes (not_takes hfront)
  | some switch =>
      rw [Option.bind_some, firstMatch?_eq_some_iff hdistinct horder]
      constructor
      · rintro ⟨rule, hrule, htakes, hlongest⟩
        refine ⟨rule, hrule, (takes_iff hfront).mpr htakes, ?_⟩
        simpa only [takes_iff hfront] using hlongest
      · rintro ⟨rule, hrule, htakes, hlongest⟩
        refine ⟨rule, hrule, (takes_iff hfront).mp htakes, ?_⟩
        simpa only [takes_iff hfront] using hlongest

/-- The longest switch is so in any order of the rules. -/
theorem Longest.congr {rules' : List Rule} (h : d.Longest rules words rule found)
    (hmem : ∀ rule, rule ∈ rules' ↔ rule ∈ rules) : d.Longest rules' words rule found where
  mem := (hmem rule).mpr h.mem
  takes := h.takes
  longest other hother := h.longest other ((hmem other).mp hother)

/-- Which rule has the longest switch does not depend on the order. -/
theorem exists_longest_congr {rules' : List Rule} (hmem : ∀ rule, rule ∈ rules' ↔ rule ∈ rules) :
    (∃ rule, d.Longest rules' words rule found) ↔ ∃ rule, d.Longest rules words rule found := by
  constructor
  · rintro ⟨rule, hrule⟩
    exact ⟨rule, hrule.congr fun other => (hmem other).symm⟩
  · rintro ⟨rule, hrule⟩
    exact ⟨rule, hrule.congr hmem⟩

/-- **The match is the one of the longest switch**, if all switches are different. -/
theorem matchBy?_longestFirst_eq_some_iff (hdistinct : (rules.map Rule.switch).Nodup) :
    d.matchBy? (longestFirst rules) words = some found ↔
      ∃ rule, d.Longest rules words rule found := by
  have hperm : (longestFirst rules).Perm rules := List.mergeSort_perm rules _
  rw [matchBy?_eq_some_iff ((hperm.map Rule.switch).nodup_iff.mpr hdistinct)
    (Rule.pairwise_longestFirst rules)]
  exact exists_longest_congr fun _ => hperm.mem_iff

/-- The order of the rules does not count. -/
theorem matchBy?_longestFirst_perm {rules' : List Rule} (hperm : rules'.Perm rules)
    (hdistinct : (rules.map Rule.switch).Nodup) :
    d.matchBy? (longestFirst rules') words = d.matchBy? (longestFirst rules) words := by
  refine Option.ext fun found => ?_
  rw [matchBy?_longestFirst_eq_some_iff ((hperm.map Rule.switch).nodup_iff.mpr hdistinct),
    matchBy?_longestFirst_eq_some_iff hdistinct]
  exact exists_longest_congr fun _ => hperm.mem_iff

/-- A switch takes one word or two, and no more than there are. -/
theorem Takes.consumed (h : d.Takes rule words found) :
    (found.consumed = 1 ∨ found.consumed = 2) ∧ found.consumed ≤ words.length := by
  obtain ⟨switch, hfront, htakes⟩ := h
  cases words with
  | nil => cases hfront
  | cons word next =>
      rw [List.length_cons]
      rcases Rule.consumed_of_accept? htakes.accept? with hone | ⟨htwo, hnext⟩
      · exact ⟨.inl hone, by omega⟩
      · have hlength : 0 < next.length := List.length_pos_iff.mpr hnext
        exact ⟨.inr htwo, by omega⟩

/-- An argument that is taken with one word is glued to the switch. -/
theorem Takes.front?_eq (h : d.Takes rule words found) (hone : found.consumed = 1) {argument : Text}
    (hargument : found.argument = some argument) :
    d.front? words = some (rule.switch ++ argument) := by
  obtain ⟨switch, hfront, htakes⟩ := h
  generalize words.tail = next at htakes
  cases htakes with
  | alone => cases hargument
  | separate => cases hone
  | glued =>
      obtain rfl := Option.some.inj hargument
      exact hfront

/-- The switches of the Microsoft compiler may be marked with a dash or a slash. -/
theorem matchBy?_dash (tried : List Rule) (name : Text) (next : List Text) :
    msvc.matchBy? tried (('-' :: name) :: next) = msvc.matchBy? tried (('/' :: name) :: next) := by
  cases name <;> rfl

/-- All switches of a table are different. -/
theorem nodup_switches_table (d : Dialect) : (d.table.map Rule.switch).Nodup := by
  cases d <;> decide

/-- **The longest switch wins, whatever the order of the table.**  By rules of which no
two have the same switch, words match exactly if some rule takes them, and the match is
the one of the rule with the longest switch.  It takes one word or two and no more than
there are, and an argument that comes with one word is what follows the switch in it.
The tables of the two dialects are of this kind. -/
theorem matchBy?_longestFirst {rules : List Rule} (hdistinct : (rules.map Rule.switch).Nodup)
    (d : Dialect) (words : List Text) :
    ((d.matchBy? (longestFirst rules) words).isSome ↔
      ∃ rule ∈ rules, ∃ found, d.Takes rule words found) ∧
    (∀ rule found, d.Longest rules words rule found →
      d.matchBy? (longestFirst rules) words = some found) ∧
    (∀ found, d.matchBy? (longestFirst rules) words = some found →
      (found.consumed = 1 ∨ found.consumed = 2) ∧ found.consumed ≤ words.length ∧
      ∃ rule, d.Longest rules words rule found ∧
        ∀ argument, found.argument = some argument → found.consumed = 1 →
          d.front? words = some (rule.switch ++ argument)) ∧
    (∀ rules', rules'.Perm rules →
      d.matchBy? (longestFirst rules') words = d.matchBy? (longestFirst rules) words) ∧
    (∀ name, msvc.matchBy? (longestFirst rules) (('-' :: name) :: words) =
      msvc.matchBy? (longestFirst rules) (('/' :: name) :: words)) ∧
    (d.table.map Rule.switch).Nodup ∧
      d.match? words = d.matchBy? (longestFirst d.table) words := by
  refine ⟨?_, ?_, ?_, ?_, fun name => matchBy?_dash _ name words, nodup_switches_table d, rfl⟩
  · have hperm : (longestFirst rules).Perm rules := List.mergeSort_perm rules _
    rw [Option.isSome_iff_ne_none, ne_eq, matchBy?_eq_none_iff]
    simp only [hperm.mem_iff, not_forall, not_not, exists_prop]
  · intro rule found hrule
    exact (matchBy?_longestFirst_eq_some_iff hdistinct).mpr ⟨rule, hrule⟩
  · intro found hfound
    obtain ⟨rule, hrule⟩ := (matchBy?_longestFirst_eq_some_iff hdistinct).mp hfound
    obtain ⟨hconsumed, hlength⟩ := hrule.takes.consumed
    refine ⟨hconsumed, hlength, rule, hrule, ?_⟩
    intro argument hargument hone
    exact hrule.takes.front?_eq hone hargument
  · intro rules' hperm
    exact matchBy?_longestFirst_perm hperm hdistinct

/-- Of the three switches that begin `-clr:pure`, the longest one counts, also by the
table in reverse. -/
theorem matchBy?_longestFirst_reverse :
    (msvcTable.map Rule.switch).Nodup ∧
      msvc.matchBy? (longestFirst msvcTable.reverse) ["-clr:pure".toList] =
        some ⟨.enables [.clr, .clrPure], none, 1⟩ := by
  have hdistinct : (msvcTable.map Rule.switch).Nodup := by decide
  obtain ⟨-, -, -, hperm, -⟩ := matchBy?_longestFirst hdistinct .msvc ["-clr:pure".toList]
  refine ⟨hdistinct, (hperm msvcTable.reverse (List.reverse_perm _)).trans ?_⟩
  cbv

end Dialect

end Switch

end BuildEnv
