import BuildEnv.Proofs.Path.Normal
import BuildEnv.Proofs.Text.Decimal
import BuildEnv.Proofs.Text.Scanner
import BuildEnv.Proofs.Toolset.Layers

/-!
# Versions of the tools and of the compiler

The tools directory and the compiler count their major versions apart and share
the minor one, so both are read in one way that differs in the column of the
release table (`ToolsetVersion.read?`).  Of a text only the part before the first
dot and the part between it and the next one count
(`ToolsetVersion.majorMinor?_append_dot`).

What is read is the number of a release (`ToolsetVersion.isListed_of_read?`), the
same one for versions that belong together (`ToolsetVersion.read?_series`), and it
does not fall as the minor version grows (`ToolsetVersion.number_le_of_read?`).
-/

namespace BuildEnv

namespace Release

/-- The first release of a major version, of the tools or of the compiler, to
which a minor version belongs. -/
def find? (majorOf : Release → Nat) (major minor : Nat) : Option Release :=
  all.find? fun r => majorOf r == major && r.hasMinor minor

/-- The macro that tells the version of a release: the major and the least minor
version of the compiler. -/
def versionMacro (r : Release) : Macro :=
  ⟨"_MSC_VER".toList, some (Text.ofNat (100 * r.compilerMajor + r.firstMinor))⟩

/-- The major versions of tools and compilers that belong together. -/
def series : List (Nat × Nat) :=
  [(10, 16), (11, 17), (12, 18), (14, 19)]

/-- In a column of the table, releases of one number are in the order of their
minor versions. -/
def Ordered (majorOf : Release → Nat) : Prop :=
  ∀ r ∈ all, ∀ s ∈ all, majorOf r = majorOf s → r.firstMinor ≤ s.lastMinor → r.toolset ≤ s.toolset

/-- By the versions of the tools the releases are in order. -/
theorem ordered_toolsMajor : Ordered toolsMajor := by
  unfold Ordered
  decide

theorem ordered_compilerMajor : Ordered compilerMajor := by
  unfold Ordered
  decide

/-- A release is in one series by its tools and by its compiler. -/
theorem series_eq : ∀ pair ∈ series, ∀ r ∈ all,
    (r.toolsMajor == pair.1) = (r.compilerMajor == pair.2) := by
  decide

/-- The catalog knows every release and tells its version. -/
theorem isKnown_toolset : ∀ r ∈ all, (ToolsetVersion.mk r.toolset).isKnown ∧
    Predefined.last? "_MSC_VER".toList (Predefined.ofVersion (some ⟨r.toolset⟩)) =
      some r.versionMacro := by
  decide

variable {majorOf : Release → Nat} {major minor : Nat} {r : Release}

/-- The release that is found has the major version, and the minor one in its range. -/
theorem of_find? (h : find? majorOf major minor = some r) :
    r ∈ all ∧ majorOf r = major ∧ r.firstMinor ≤ minor ∧ minor ≤ r.lastMinor := by
  have hmem : r ∈ all := List.mem_of_find?_eq_some h
  have hfound := List.find?_some h
  simp only [hasMinor, Bool.and_eq_true, beq_iff_eq, decide_eq_true_eq] at hfound
  exact ⟨hmem, hfound⟩

/-- Tools and compilers of one series are of the same release. -/
theorem find?_series {pair : Nat × Nat} (hpair : pair ∈ series) (minor : Nat) :
    find? toolsMajor pair.1 minor = find? compilerMajor pair.2 minor := by
  have hsame : ∀ r ∈ all, (r.toolsMajor == pair.1 && r.hasMinor minor) =
      (r.compilerMajor == pair.2 && r.hasMinor minor) := fun r hr => by
    rw [series_eq pair hpair r hr]
  rw [find?, find?, ← List.head?_filter, ← List.head?_filter, List.filter_congr hsame]

end Release

namespace ToolsetVersion

variable {majorOf : Release → Nat} {v w : ToolsetVersion} {t major minor rest : Text}

/-! ### The parts of a text -/

/-- The part of a version behind its first dot, up to the next one. -/
def minorPart (rest : Text) : Text :=
  (Text.splitOn '.' (Text.dropWhileEnd Text.isBlank rest)).headD []

/-- A dotted version: the major one, a dot, the minor one, and what stands behind
it. -/
def dotted (major minor rest : Text) : Text :=
  major ++ '.' :: (minor ++ rest)

/-- What may stand behind the minor version. -/
def IsTail (rest : Text) : Prop :=
  rest = [] ∨ rest.head? = some '.'

/-- What stands behind a dot is trimmed at its end only. -/
theorem trim_append_dot (major rest : Text) :
    Text.trim (major ++ '.' :: rest) =
      major.dropWhile Text.isBlank ++ '.' :: Text.dropWhileEnd Text.isBlank rest := by
  have hdot : ¬ Text.isBlank '.' := by decide
  have hfront : (major ++ '.' :: rest).dropWhile Text.isBlank =
      major.dropWhile Text.isBlank ++ '.' :: rest := by
    rw [List.dropWhile_append]
    split
    · next hmajor =>
        rw [List.isEmpty_iff.mp hmajor, List.dropWhile_cons_of_neg hdot, List.nil_append]
    · rfl
  rw [Text.trim, Text.trimBy, hfront, Text.dropWhileEnd_append_cons hdot]

/-- The parts of a text with a dot. -/
theorem splitOn_trim_append_dot (major rest : Text) :
    ∃ parts, Text.splitOn '.' (Text.trim (major ++ '.' :: rest)) =
      Text.splitOn '.' (major.dropWhile Text.isBlank) ++ minorPart rest :: parts := by
  obtain ⟨part, parts, hparts⟩ : ∃ part parts,
      Text.splitOn '.' (Text.dropWhileEnd Text.isBlank rest) = part :: parts :=
    List.exists_cons_of_ne_nil (Text.splitOn_ne_nil _)
  refine ⟨parts, ?_⟩
  rw [trim_append_dot, Text.splitOn_append_sep, minorPart, hparts]
  rfl

/-- **Only the first two parts count.** -/
theorem majorMinor?_append_dot (h : '.' ∉ major) (rest : Text) :
    majorMinor? (major ++ '.' :: rest) =
      (Text.toNat? Text.max16 (major.dropWhile Text.isBlank)).bind fun number =>
        (minorNumber? (minorPart rest)).map (Prod.mk number) := by
  obtain ⟨parts, hparts⟩ := splitOn_trim_append_dot major rest
  have hmajor : '.' ∉ major.dropWhile Text.isBlank := fun hdot =>
    h ((List.dropWhile_sublist _).mem hdot)
  rw [majorMinor?, hparts, Text.splitOn_of_not_mem hmajor]
  simp only [List.singleton_append, Option.map_eq_bind]
  rfl

/-- Behind a second dot there is nothing that counts. -/
theorem majorMinor?_congr_of_mem (h : '.' ∈ major) (rest rest' : Text) :
    majorMinor? (major ++ '.' :: rest) = majorMinor? (major ++ '.' :: rest') := by
  obtain ⟨first, second, hmajor⟩ : ∃ first second,
      major.dropWhile Text.isBlank = first ++ '.' :: second := by
    have hdot : '.' ∈ major.dropWhile Text.isBlank := by
      obtain ⟨before, after, rfl⟩ := List.mem_iff_append.mp h
      rw [List.dropWhile_append]
      split
      · rw [List.dropWhile_cons_of_neg (by decide)]
        exact List.mem_cons_self
      · exact List.mem_append_right _ List.mem_cons_self
    exact List.mem_iff_append.mp hdot
  have hne : ∀ t, Text.splitOn '.' t ≠ [] := Text.splitOn_ne_nil
  obtain ⟨a, as, hfirst⟩ := List.exists_cons_of_ne_nil (hne first)
  obtain ⟨b, bs, hsecond⟩ := List.exists_cons_of_ne_nil (hne second)
  obtain ⟨parts, hparts⟩ := splitOn_trim_append_dot major rest
  obtain ⟨parts', hparts'⟩ := splitOn_trim_append_dot major rest'
  rw [majorMinor?, majorMinor?, hparts, hparts', hmajor, Text.splitOn_append_sep, hfirst, hsecond]
  cases as <;> rfl

/-- Minor parts that are the same number give the same version. -/
theorem majorMinor?_congr {rest rest' : Text}
    (h : minorNumber? (minorPart rest) = minorNumber? (minorPart rest')) (major : Text) :
    majorMinor? (major ++ '.' :: rest) = majorMinor? (major ++ '.' :: rest') := by
  by_cases hmajor : '.' ∈ major
  · exact majorMinor?_congr_of_mem hmajor rest rest'
  · rw [majorMinor?_append_dot hmajor, majorMinor?_append_dot hmajor, h]

/-- Two versions with one major part and a minor part that grows. -/
theorem majorMinor?_mono {rest rest' : Text}
    (h : ∀ a b, minorNumber? (minorPart rest) = some a → minorNumber? (minorPart rest') = some b →
      a ≤ b) {p q : Nat × Nat} (hp : majorMinor? (major ++ '.' :: rest) = some p)
    (hq : majorMinor? (major ++ '.' :: rest') = some q) : p.1 = q.1 ∧ p.2 ≤ q.2 := by
  by_cases hmajor : '.' ∈ major
  · rw [majorMinor?_congr_of_mem hmajor rest rest', hq] at hp
    obtain rfl := Option.some.inj hp
    exact ⟨rfl, Nat.le_refl _⟩
  · rw [majorMinor?_append_dot hmajor] at hp hq
    obtain ⟨number, hnumber, hp⟩ := Option.bind_eq_some_iff.mp hp
    obtain ⟨number', hnumber', hq⟩ := Option.bind_eq_some_iff.mp hq
    obtain ⟨a, ha, rfl⟩ := Option.map_eq_some_iff.mp hp
    obtain ⟨b, hb, rfl⟩ := Option.map_eq_some_iff.mp hq
    exact ⟨Option.some.inj (hnumber.symm.trans hnumber'), h a b ha hb⟩

theorem dropWhileEnd_eq_self (h : ∀ c ∈ t, ¬ Text.isBlank c) :
    Text.dropWhileEnd Text.isBlank t = t := by
  have hlast : ∀ c, t.reverse.head? = some c → ¬ Text.isBlank c := fun c hc =>
    h c (List.mem_reverse.mp (List.mem_of_head? hc))
  rw [Text.dropWhileEnd, Text.dropWhile_eq_self hlast, List.reverse_reverse]

/-- What stands behind the minor version does not belong to it. -/
theorem minorPart_append (hminor : ∀ c ∈ minor, ¬ Text.isBlank c) (hrest : IsTail rest) :
    minorPart (minor ++ rest) = minorPart minor := by
  rcases hrest with rfl | hdot
  · rw [List.append_nil]
  · obtain ⟨later, rfl⟩ := List.head?_eq_some_iff.mp hdot
    obtain ⟨part, parts, hparts⟩ : ∃ part parts, Text.splitOn '.' minor = part :: parts :=
      List.exists_cons_of_ne_nil (Text.splitOn_ne_nil _)
    rw [minorPart, minorPart, Text.dropWhileEnd_append_cons (by decide),
      dropWhileEnd_eq_self hminor, Text.splitOn_append_sep, hparts]
    rfl

/-- The minor version itself, before anything that does not belong to it. -/
theorem minorPart_digits (hminor : ∀ c ∈ minor, c.isDigit) (hrest : IsTail rest) :
    minorPart (minor ++ rest) = minor := by
  have hblank : ∀ c ∈ minor, ¬ Text.isBlank c := fun c hc =>
    Text.not_isBlank_of_decimal (hminor c hc)
  have hdot : '.' ∉ minor := fun hmem => absurd (hminor '.' hmem) (by decide)
  rw [minorPart_append hblank hrest, minorPart, dropWhileEnd_eq_self hblank,
    Text.splitOn_of_not_mem hdot]
  rfl

/-! ### The minor number -/

/-- Two digits are the number that they stand for. -/
theorem minorNumber?_two (hlength : minor.length = 2) (hminor : ∀ c ∈ minor, c.isDigit) :
    minorNumber? minor = some (Text.digitsValue minor) := by
  have hvalue : Text.digitsValue minor < 10 ^ 2 := hlength ▸ Text.digitsValue_lt hminor
  have hne : minor ≠ [] := List.ne_nil_of_length_pos (by omega)
  have hlimit : Text.digitsValue minor ≤ Text.max16 := by
    rw [Text.max16]
    omega
  rw [minorNumber?, Text.toNat?_of_isDigit hminor hne hlimit]
  simp [hlength]

/-- The two spellings of a minor version of one digit. -/
theorem isDigit_shortForm {digit : Char} (h : digit.isDigit) :
    (∀ c ∈ [digit], c.isDigit) ∧ ∀ c ∈ [digit, '0'], c.isDigit := by
  have hone : ∀ c ∈ [digit], c.isDigit := List.forall_mem_singleton.mpr h
  have hzero : ∀ c ∈ ['0'], c.isDigit := List.forall_mem_singleton.mpr (by decide)
  exact ⟨hone, List.forall_mem_cons.mpr ⟨h, hzero⟩⟩

/-- **One digit is short for two.** -/
theorem minorNumber?_one {digit : Char} (h : digit.isDigit) :
    minorNumber? [digit] = minorNumber? [digit, '0'] := by
  obtain ⟨hone, htwo⟩ := isDigit_shortForm h
  have hlimit : Text.digitsValue [digit] ≤ Text.max16 := by
    have hvalue : Text.digitsValue [digit] < 10 ^ 1 := Text.digitsValue_lt hone
    rw [Text.max16]
    omega
  have hzero : Text.digitsValue [digit, '0'] = 10 * Text.digitsValue [digit] + 0 :=
    Text.digitsValue_append_singleton [digit] '0'
  rw [minorNumber?_two rfl htwo, hzero, minorNumber?,
    Text.toNat?_of_isDigit hone (List.cons_ne_nil _ _) hlimit, Nat.mul_comm]
  rfl

/-- The minor number never leaves the range of 16 bits. -/
theorem minorNumber?_le {n : Nat} (h : minorNumber? t = some n) : n ≤ Text.max16 := by
  obtain ⟨read, hread, hn⟩ := Option.bind_eq_some_iff.mp h
  obtain ⟨hle, hlt⟩ := Text.toNat?_le_and_lt hread
  split at hn
  · next hlength =>
      obtain rfl := Option.some.inj hn
      rw [beq_iff_eq.mp hlength] at hlt
      rw [Text.max16]
      omega
  · exact Option.some.inj hn ▸ hle

/-! ### The reader -/

/-- Reads a version of the tools or of the compiler. -/
def read? (majorOf : Release → Nat) (t : Text) : Option ToolsetVersion :=
  (majorMinor? t).bind fun number =>
    (Release.find? majorOf number.1 number.2).map fun r => ⟨r.toolset⟩

/-- The toolset of the tools is read by their major version. -/
theorem ofTools?_eq_read? (t : Text) : ofTools? t = read? Release.toolsMajor t := by
  unfold ofTools? read?
  cases majorMinor? t with
  | none => rfl
  | some number => exact (Option.map_eq_bind ..).symm

/-- The toolset of a compiler is read by its major version. -/
theorem ofCompiler?_eq_read? (t : Text) : ofCompiler? t = read? Release.compilerMajor t := by
  unfold ofCompiler? read?
  cases majorMinor? t with
  | none => rfl
  | some number => exact (Option.map_eq_bind ..).symm

/-- **A version of the catalog.**  It is the number of a release, and what the
compiler predefines tells the version of the release. -/
structure IsListed (v : ToolsetVersion) : Prop where
  isKnown : v.isKnown
  predefined : ∃ r ∈ Release.all, v = ⟨r.toolset⟩ ∧ ∀ p : Profile, p.version = some v →
    p.predefined.get? "_MSC_VER".toList = some r.versionMacro

/-- What is read is a release of the table. -/
theorem isListed_of_read? (h : read? majorOf t = some v) : v.IsListed := by
  obtain ⟨number, -, hfound⟩ := Option.bind_eq_some_iff.mp h
  obtain ⟨r, hr, rfl⟩ := Option.map_eq_some_iff.mp hfound
  obtain ⟨hmem, -⟩ := Release.of_find? hr
  obtain ⟨hknown, hmacro⟩ := Release.isKnown_toolset r hmem
  refine ⟨hknown, r, hmem, rfl, fun p hp => ?_⟩
  rw [Predefined.get?_of_mem_versionNames p List.mem_cons_self, hp, hmacro]

/-- **Versions that belong together** are read as one. -/
theorem read?_series {pair : Nat × Nat} (hpair : pair ∈ Release.series) (minor rest : Text) :
    read? Release.toolsMajor (dotted (Text.ofNat pair.1) minor rest) =
      read? Release.compilerMajor (dotted (Text.ofNat pair.2) minor rest) := by
  have hread : ∀ n, n ≤ Text.max16 → majorMinor? (dotted (Text.ofNat n) minor rest) =
      (minorNumber? (minorPart (minor ++ rest))).map (Prod.mk n) := by
    intro n hn
    have hdigit : ∀ c ∈ Text.ofNat n, c.isDigit := fun _ => Text.isDigit_of_mem_ofNat
    have hdot : '.' ∉ Text.ofNat n := fun hmem => absurd (hdigit '.' hmem) (by decide)
    have hblank : (Text.ofNat n).dropWhile Text.isBlank = Text.ofNat n :=
      Text.dropWhile_eq_self fun c hc =>
        Text.not_isBlank_of_decimal (hdigit c (List.mem_of_head? hc))
    rw [dotted, majorMinor?_append_dot hdot, hblank, Text.toNat?_ofNat hn]
    rfl
  have hlimit : ∀ pair ∈ Release.series, pair.1 ≤ Text.max16 ∧ pair.2 ≤ Text.max16 := by decide
  obtain ⟨htools, hcompiler⟩ := hlimit pair hpair
  rw [read?, read?, hread pair.1 htools, hread pair.2 hcompiler]
  cases minorNumber? (minorPart (minor ++ rest)) with
  | none => rfl
  | some n => exact congrArg (Option.map _) (Release.find?_series hpair n)

/-- What stands behind the minor version has no influence. -/
theorem read?_dotted (hminor : ∀ c ∈ minor, ¬ Text.isBlank c) (hrest : IsTail rest)
    (majorOf : Release → Nat) (major : Text) :
    read? majorOf (dotted major minor rest) = read? majorOf (dotted major minor []) := by
  have hpart : minorPart (minor ++ rest) = minorPart (minor ++ []) := by
    rw [minorPart_append hminor hrest, List.append_nil]
  rw [read?, read?, dotted, dotted, majorMinor?_congr (congrArg minorNumber? hpart)]

/-- One digit of the minor version is short for two. -/
theorem read?_one {digit : Char} (hdigit : digit.isDigit) (hrest : IsTail rest)
    (majorOf : Release → Nat) (major : Text) :
    read? majorOf (dotted major [digit] rest) = read? majorOf (dotted major [digit, '0'] rest) := by
  obtain ⟨hone, htwo⟩ := isDigit_shortForm hdigit
  have hsame : minorNumber? (minorPart ([digit] ++ rest)) =
      minorNumber? (minorPart ([digit, '0'] ++ rest)) := by
    rw [minorPart_digits hone hrest, minorPart_digits htwo hrest, minorNumber?_one hdigit]
  rw [read?, read?, dotted, dotted, majorMinor?_congr hsame]

/-- Two digits of a minor version. -/
structure IsTwoDigits (minor : Text) : Prop where
  length_eq : minor.length = 2
  isDigit : ∀ c ∈ minor, c.isDigit

/-- A larger minor number never gives a smaller toolset. -/
theorem number_le_of_majorMinor? (hordered : Release.Ordered majorOf) {t' : Text} {p q : Nat × Nat}
    (hp : majorMinor? t = some p) (hq : majorMinor? t' = some q) (hmajor : p.1 = q.1)
    (hminor : p.2 ≤ q.2) (hv : read? majorOf t = some v) (hw : read? majorOf t' = some w) :
    v.number ≤ w.number := by
  rw [read?, hp, Option.bind_some] at hv
  rw [read?, hq, Option.bind_some] at hw
  obtain ⟨r, hr, rfl⟩ := Option.map_eq_some_iff.mp hv
  obtain ⟨s, hs, rfl⟩ := Option.map_eq_some_iff.mp hw
  obtain ⟨hrmem, hrmajor, hfirst, -⟩ := Release.of_find? hr
  obtain ⟨hsmem, hsmajor, -, hlast⟩ := Release.of_find? hs
  have hseries : majorOf r = majorOf s := by rw [hrmajor, hsmajor, hmajor]
  exact hordered r hrmem s hsmem hseries (hfirst.trans (hminor.trans hlast))

/-- **Two digits more** never give a smaller toolset. -/
theorem number_le_of_read? (hordered : Release.Ordered majorOf) {minor' rest' : Text}
    (hminor : IsTwoDigits minor) (hminor' : IsTwoDigits minor') (hrest : IsTail rest)
    (hrest' : IsTail rest') (hle : Text.digitsValue minor ≤ Text.digitsValue minor')
    (hv : read? majorOf (dotted major minor rest) = some v)
    (hw : read? majorOf (dotted major minor' rest') = some w) : v.number ≤ w.number := by
  obtain ⟨p, hp, -⟩ := Option.bind_eq_some_iff.mp hv
  obtain ⟨q, hq, -⟩ := Option.bind_eq_some_iff.mp hw
  have hparts : ∀ a b, minorNumber? (minorPart (minor ++ rest)) = some a →
      minorNumber? (minorPart (minor' ++ rest')) = some b → a ≤ b := by
    intro a b ha hb
    rw [minorPart_digits hminor.isDigit hrest,
      minorNumber?_two hminor.length_eq hminor.isDigit] at ha
    rw [minorPart_digits hminor'.isDigit hrest',
      minorNumber?_two hminor'.length_eq hminor'.isDigit] at hb
    obtain rfl := Option.some.inj ha
    obtain rfl := Option.some.inj hb
    exact hle
  obtain ⟨hmajor, hnumber⟩ := majorMinor?_mono hparts hp hq
  exact number_le_of_majorMinor? hordered hp hq hmajor hnumber hv hw

/-- **The versions of tools and compilers agree.**  Whatever is read is a version of
the catalog.  The tools and the compiler of one series give one toolset, told by the
minor version alone.  One digit of it is short for two, two digits never give less
when they are more, and no minor number leaves the range of 16 bits. -/
theorem versions_agree :
    (∀ t v, ofTools? t = some v ∨ ofCompiler? t = some v → v.IsListed) ∧
      (∀ pair ∈ Release.series, ∀ minor rest, (∀ c ∈ minor, ¬ Text.isBlank c) → IsTail rest →
        ofTools? (dotted (Text.ofNat pair.1) minor rest) =
            ofCompiler? (dotted (Text.ofNat pair.2) minor rest) ∧
          ofTools? (dotted (Text.ofNat pair.1) minor rest) =
            ofTools? (dotted (Text.ofNat pair.1) minor []) ∧
          ofCompiler? (dotted (Text.ofNat pair.2) minor rest) =
            ofCompiler? (dotted (Text.ofNat pair.2) minor [])) ∧
      (∀ major digit rest, digit.isDigit → IsTail rest →
        ofTools? (dotted major [digit] rest) = ofTools? (dotted major [digit, '0'] rest) ∧
          ofCompiler? (dotted major [digit] rest) = ofCompiler? (dotted major [digit, '0'] rest)) ∧
      (∀ major minor minor' rest rest', IsTwoDigits minor → IsTwoDigits minor' → IsTail rest →
        IsTail rest' → Text.digitsValue minor ≤ Text.digitsValue minor' → ∀ v w,
          (ofTools? (dotted major minor rest) = some v →
            ofTools? (dotted major minor' rest') = some w → v.number ≤ w.number) ∧
          (ofCompiler? (dotted major minor rest) = some v →
            ofCompiler? (dotted major minor' rest') = some w → v.number ≤ w.number)) ∧
      ∀ t n, minorNumber? t = some n → n ≤ Text.max16 := by
  simp only [ofTools?_eq_read?, ofCompiler?_eq_read?]
  refine ⟨fun t v h => h.elim isListed_of_read? isListed_of_read?, ?_, ?_, ?_,
    fun t n => minorNumber?_le⟩
  · intro pair hpair minor rest hminor hrest
    exact ⟨read?_series hpair minor rest, read?_dotted hminor hrest _ _,
      read?_dotted hminor hrest _ _⟩
  · intro major digit rest hdigit hrest
    exact ⟨read?_one hdigit hrest _ _, read?_one hdigit hrest _ _⟩
  · intro major minor minor' rest rest' hminor hminor' hrest hrest' hle v w
    exact ⟨number_le_of_read? Release.ordered_toolsMajor hminor hminor' hrest hrest' hle,
      number_le_of_read? Release.ordered_compilerMajor hminor hminor' hrest hrest' hle⟩

/-- The tools 14.16.27023, what the compiler 19.16 makes of them, and the tools
14.29.30133 and 14.1. -/
theorem versions_agree_v141 :
    ofTools? (dotted "14".toList "16".toList ".27023".toList) = some ⟨141⟩ ∧
      ToolsetVersion.IsListed ⟨141⟩ ∧
      ofCompiler? (dotted "19".toList "16".toList []) = some ⟨141⟩ ∧
      ofTools? (dotted "14".toList "1".toList []) =
        ofTools? (dotted "14".toList "10".toList []) ∧
      ofTools? (dotted "14".toList "29".toList ".30133".toList) = some ⟨142⟩ ∧ 141 ≤ 142 ∧
      minorNumber? "9".toList = some 90 ∧ 90 ≤ Text.max16 := by
  obtain ⟨hlisted, hagree, hone, hmono, hrange⟩ := versions_agree
  have h141 : ofTools? (dotted "14".toList "16".toList ".27023".toList) = some ⟨141⟩ := by decide
  have h142 : ofTools? (dotted "14".toList "29".toList ".30133".toList) = some ⟨142⟩ := by decide
  have h16 : IsTwoDigits "16".toList := ⟨rfl, List.all_eq_true.mp (by decide)⟩
  have h29 : IsTwoDigits "29".toList := ⟨rfl, List.all_eq_true.mp (by decide)⟩
  have hblank : ∀ c ∈ "16".toList, ¬ Text.isBlank c :=
    fun c hc => Text.not_isBlank_of_decimal (h16.2 c hc)
  obtain ⟨hsame, -, hfree⟩ := hagree (14, 19) (by decide) "16".toList ".27023".toList hblank
    (.inr rfl)
  have hle := (hmono "14".toList "16".toList "29".toList ".27023".toList ".30133".toList
    h16 h29 (.inr rfl) (.inr rfl) (by decide) _ _).1 h141 h142
  exact ⟨h141, hlisted _ _ (.inl h141), hfree.symm.trans (hsame.symm.trans h141),
    (hone "14".toList '1' [] (by decide) (.inl rfl)).1, h142, hle, by decide,
    hrange "9".toList 90 (by decide)⟩

end ToolsetVersion

end BuildEnv
