import BuildEnv.Log.Line
import BuildEnv.Log.Marker
import BuildEnv.Proofs.Log.Call
import BuildEnv.Proofs.Text.Scanner

/-!
# Project numbers

Where one project of a build starts another one, the log announces it by a line
that gives both of them a number (`Announcement`).  A number is written in
digits, and a colon and more digits can follow, which are not part of it
(`ProjectNumber`).  The announcement is read in both notations
(`Announcement.projects_text`).

The lines of the project have the number before them, and a `>` behind it.  This
is taken off only if nothing stands between (`LogLine.split_digits`).
-/

namespace BuildEnv

namespace Text

/-- One digit or more. -/
structure IsDigits (digits : Text) : Prop where
  ne_nil : digits ≠ []
  digit : ∀ c ∈ digits, isDigit c

instance (digits : Text) : Decidable (IsDigits digits) :=
  decidable_of_iff (digits ≠ [] ∧ digits.all isDigit)
    ⟨fun ⟨hne, hdigit⟩ => ⟨hne, List.all_eq_true.mp hdigit⟩,
      fun ⟨hne, hdigit⟩ => ⟨hne, List.all_eq_true.mpr hdigit⟩⟩

theorem ne_of_isDigit {c x : Char} (h : isDigit c) (hx : isDigit x = false) : c ≠ x := by
  intro hsame
  rw [hsame, hx] at h
  cases h

/-- The codes of the blanks. -/
def blankCodes : List Nat :=
  [9, 10, 11, 12, 13, 32, 0x85, 0xA0, 0x1680, 0x2000, 0x2001, 0x2002, 0x2003, 0x2004, 0x2005,
    0x2006, 0x2007, 0x2008, 0x2009, 0x200A, 0x2028, 0x2029, 0x202F, 0x205F, 0x3000]

/-- No blank is a digit. -/
theorem not_isBlank_of_isDigit {c : Char} (h : isDigit c) : ¬ isBlank c := by
  have hblanks : ∀ n ∈ blankCodes, isDigit (Char.ofNat n) = false := by decide
  intro hblank
  have hcode : c.toNat ∈ blankCodes := by
    simp only [isBlank, Bool.or_eq_true, Bool.and_eq_true, decide_eq_true_eq, beq_iff_eq] at hblank
    simp only [blankCodes, List.mem_cons, List.not_mem_nil, or_false]
    omega
  have hnot := hblanks c.toNat hcode
  rw [Char.ofNat_toNat, h] at hnot
  cases hnot

end Text

/-- **The number of a project** as an announcement writes it: its digits, and
maybe a colon and more digits. -/
structure ProjectNumber where
  digits : Text
  more : Option Text
  isDigits : Text.IsDigits digits
  isDigits_more : ∀ m, more = some m → Text.IsDigits m

namespace ProjectNumber

def text (n : ProjectNumber) : Text :=
  n.digits ++ (n.more.map (':' :: ·)).getD []

/-- The number itself, if it is not too large and written in the digits `0` to
`9`. -/
def value? (n : ProjectNumber) : Option Nat :=
  Text.toNat? Text.max32 n.digits

end ProjectNumber

/-- **A project starts another one.**  The paths of both are quoted, and their
numbers follow in parentheses. -/
structure Announcement where
  parent : Text
  parentNumber : ProjectNumber
  child : Text
  childNumber : ProjectNumber
  node : Text
  /-- What stands behind the number of the node. -/
  after : Text
  parent_ne_nil : parent ≠ []
  parent_unquoted : '"' ∉ parent
  child_ne_nil : child ≠ []
  child_unquoted : '"' ∉ child
  isDigits_node : Text.IsDigits node

namespace Announcement

/-- A quoted path and its number. -/
def quotedText (path : Text) (n : ProjectNumber) (rest : Text) : Text :=
  '"' :: (path ++ '"' :: (" (".toList ++ (n.text ++ ')' :: rest)))

/-- The line of the announcement. -/
def text (a : Announcement) : Text :=
  "Project ".toList ++ quotedText a.parent a.parentNumber (" is building ".toList ++
    quotedText a.child a.childNumber (" on node ".toList ++ (a.node ++ a.after)))

end Announcement

namespace LogLine

open Scanner

variable {digits : Text} {c : Char}

/-- Digits are no time stamp without a dash behind them. -/
theorem timestamp_digits (h : Text.IsDigits digits) (hdigit : ¬ Text.isDigit c) (hdash : c ≠ '-')
    (rest : Text) : timestamp (digits ++ c :: rest) = none := by
  unfold timestamp
  cases hyear : count Text.isDigit 4 (digits ++ c :: rest) with
  | none => exact bind_of_none hyear
  | some read =>
      obtain ⟨year, later⟩ := read
      obtain ⟨hsplit, hlength, hall⟩ := count_eq_some_iff.mp hyear
      rw [bind_of_some hyear]
      refine bind_of_none ?_
      cases hdashed : literal "-" later with
      | none => rfl
      | some found =>
          -- the run of digits would end both at the dash and at `c`
          obtain rfl : later = '-' :: found.2 := literal_eq_some_iff.mp hdashed
          have hyear_ne : year ≠ [] := List.ne_nil_of_length_pos (by omega)
          have hrun : run1 Text.isDigit (digits ++ c :: rest) = some (digits, c :: rest) :=
            run1_append_cons h.ne_nil h.digit hdigit rest
          rw [hsplit, run1_append_cons hyear_ne hall (by decide)] at hrun
          obtain ⟨-, hrest⟩ := Prod.mk.inj (Option.some.inj hrun)
          exact absurd (List.cons.inj hrest).1.symm hdash

/-- **A number before a line** is its context if a `>` follows it; else it belongs
to the text of the line. -/
theorem split_digits (h : Text.IsDigits digits) (hdigit : ¬ Text.isDigit c) (hdash : c ≠ '-')
    (rest : Text) :
    split (digits ++ c :: rest) =
      if c = '>' then ⟨Text.toNat? Text.max32 digits, rest⟩ else ⟨none, digits ++ c :: rest⟩ := by
  have hfirst : ∀ d, (digits ++ c :: rest).head? = some d → Text.isDigit d := by
    intro d hd
    obtain ⟨e, more, rfl⟩ := List.exists_cons_of_ne_nil h.ne_nil
    obtain rfl : e = d := Option.some.inj hd
    exact h.digit e List.mem_cons_self
  have hmark : (digits ++ c :: rest).dropWhile isByteOrderMark = digits ++ c :: rest :=
    Text.dropWhile_eq_self fun d hd =>
      mt beq_iff_eq.mp (Text.ne_of_isDigit (hfirst d hd) (by decide))
  have htime : dropTimestamp (digits ++ c :: rest) = digits ++ c :: rest := by
    rw [dropTimestamp, timestamp_digits h hdigit hdash]
  have hblank : (digits ++ c :: rest).dropWhile Text.isBlank = digits ++ c :: rest :=
    Text.dropWhile_eq_self fun d hd => Text.not_isBlank_of_isDigit (hfirst d hd)
  have hdigits : run1 Text.isDigit (digits ++ c :: rest) = some (digits, c :: rest) :=
    run1_append_cons h.ne_nil h.digit hdigit rest
  rw [split, hmark, htime, hblank, contextDigits, bind_of_some hdigits]
  by_cases hc : c = '>'
  · rw [hc, if_pos rfl, bind_of_some (literal_singleton ">" '>' rfl rest)]
    rfl
  · rw [if_neg hc, bind_of_none (literal_cons_eq_none rfl hc rest)]

end LogLine

namespace Marker

open Scanner

variable {path rest : Text}

/-- The number of a project is read in parentheses, up to its first part. -/
theorem projectNumber_text (n : ProjectNumber) (rest : Text) :
    projectNumber (" (".toList ++ (n.text ++ ')' :: rest)) = some (n.digits, rest) := by
  obtain ⟨digits, more, ⟨hne, hdigit⟩, hmore⟩ := n
  rw [projectNumber, bind_of_some (literal_append " (" _), ProjectNumber.text]
  cases more with
  | none =>
      have hcolon : (literal ":" >>= fun _ => run1 Text.isDigit) (')' :: rest) = none :=
        bind_of_none (literal_cons_eq_none rfl (by decide) rest)
      have hdigits : run1 Text.isDigit (digits ++ ')' :: rest) = some (digits, ')' :: rest) :=
        run1_append_cons hne hdigit (by decide) rest
      rw [Option.map_none, Option.getD_none, List.append_nil, bind_of_some hdigits,
        bind_of_some (optional_of_none hcolon), bind_of_some (literal_singleton ")" ')' rfl rest)]
      rfl
  | some m =>
      obtain ⟨hne', hdigit'⟩ := hmore m rfl
      have hdigits : run1 Text.isDigit (digits ++ ':' :: (m ++ ')' :: rest)) =
          some (digits, ':' :: (m ++ ')' :: rest)) :=
        run1_append_cons hne hdigit (by decide) _
      have hmore : (literal ":" >>= fun _ => run1 Text.isDigit) (':' :: (m ++ ')' :: rest)) =
          some (m, ')' :: rest) := by
        rw [bind_of_some (literal_singleton ":" ':' rfl _)]
        exact run1_append_cons hne' hdigit' (by decide) rest
      rw [Option.map_some, Option.getD_some, List.append_assoc, List.cons_append,
        bind_of_some hdigits, bind_of_some (optional_of_some hmore),
        bind_of_some (literal_singleton ")" ')' rfl rest)]
      rfl

/-- The path and the number of a project are read where they are quoted. -/
theorem quotedProject_text (hne : path ≠ []) (hquote : '"' ∉ path) (n : ProjectNumber)
    (rest : Text) :
    quotedProject (Announcement.quotedText path n rest) =
      some ((path, some n.digits), rest) := by
  have hpath : run1 (· != '"') (path ++ '"' :: (" (".toList ++ (n.text ++ ')' :: rest))) =
      some (path, '"' :: (" (".toList ++ (n.text ++ ')' :: rest))) := by
    refine run1_append_cons hne (fun c hc => ?_) (by decide) _
    exact bne_iff_ne.mpr fun h => hquote (h ▸ hc)
  rw [quotedProject, Announcement.quotedText, bind_of_some (literal_singleton "\"" '"' rfl _),
    bind_of_some hpath, bind_of_some (literal_singleton "\"" '"' rfl _),
    bind_of_some (optional_of_some (projectNumber_text n rest))]
  rfl

end Marker

namespace Announcement

open Scanner

/-- **An announcement is read** as the start of the other project, with its
number, in both notations. -/
theorem projects_text (a : Announcement) :
    Marker.projects a.text = [.project a.child a.childNumber.value?] := by
  obtain ⟨node, rest, hnode⟩ : ∃ node rest,
      run1 Text.isDigit (a.node ++ a.after) = some (node, rest) := by
    refine ⟨_, _, if_neg ?_⟩
    rw [List.takeWhile_append_of_pos a.isDigits_node.digit]
    simp [a.isDigits_node.ne_nil]
  have hchild : (literal " is building " >>= fun _ => Marker.quotedProject)
      (" is building ".toList ++ quotedText a.child a.childNumber
        (" on node ".toList ++ (a.node ++ a.after))) =
      some ((a.child, some a.childNumber.digits), " on node ".toList ++ (a.node ++ a.after)) := by
    rw [bind_of_some (literal_append " is building " _)]
    exact Marker.quotedProject_text a.child_ne_nil a.child_unquoted _ _
  have hread : Marker.announcement a.text =
      some ((a.child, some a.childNumber.digits), rest) := by
    unfold Marker.announcement text
    refine (bind_of_some (literal_append "Project " _)).trans ?_
    refine (bind_of_some
      (Marker.quotedProject_text a.parent_ne_nil a.parent_unquoted _ _)).trans ?_
    refine (bind_of_some (optional_of_some hchild)).trans ?_
    refine (bind_of_some (literal_append " on node " _)).trans ?_
    exact bind_of_some hnode
  rw [Marker.projects, first?_of_front hread]
  rfl

end Announcement

end BuildEnv
