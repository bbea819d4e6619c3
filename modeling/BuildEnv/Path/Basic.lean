import BuildEnv.Text.Basic

/-!
# Paths

A path is a text whose parts are separated by `/`.  What counts of it are its
*components*: repeated and trailing separators and inner `.` parts leave no
component, a leading `.` does.  Paths are compared, counted as repeated and
sorted by their components.

Paths come from logs that were written on another machine, so nothing here
looks at a file system, and a path that starts with a drive letter is as
absolute as one that starts with a separator.
-/

namespace BuildEnv

/-- A path as it was written. -/
structure Path where
  text : Text
  deriving DecidableEq, Repr

namespace Path

/-- What one part of a path stands for. -/
inductive Component where
  /-- The separator that a path begins with. -/
  | root
  /-- A leading `.`. -/
  | here
  /-- A `..`. -/
  | up
  /-- Any other part. -/
  | name (text : Text)
  deriving DecidableEq, Repr

/-- The component of a part between separators; an empty part and `.` are
none. -/
def Component.ofPart : Text → Option Component
  | [] => none
  | ['.'] => none
  | ['.', '.'] => some .up
  | part => some (.name part)

/-- How a component is written.  The root is written as nothing, since a
separator follows it in any case. -/
def Component.text : Component → Text
  | .root => []
  | .here => ['.']
  | .up => ['.', '.']
  | .name text => text

/-- Whether the path begins with a separator. -/
def hasRoot (p : Path) : Bool :=
  p.text.head? == some '/'

/-- The components of the parts of a relative path.  Only the first part can
be a leading `.`. -/
def relativeComponents (t : Text) : List Component :=
  match Text.splitOn '/' t with
  | ['.'] :: parts => .here :: parts.filterMap Component.ofPart
  | parts => parts.filterMap Component.ofPart

/-- The components of a path, in order. -/
def components (p : Path) : List Component :=
  match p.text with
  | '/' :: rest => .root :: (Text.splitOn '/' rest).filterMap Component.ofPart
  | t => relativeComponents t

/-- The shortest way to write a list of components. -/
def ofComponents : List Component → Path
  | .root :: rest => ⟨'/' :: Text.joinWith ['/'] (rest.map Component.text)⟩
  | components => ⟨Text.joinWith ['/'] (components.map Component.text)⟩

/-- Two paths are the same if their components are. -/
def sameAs (p q : Path) : Bool :=
  p.components == q.components

/-- Being the same path is to have the same components. -/
theorem sameAs_iff {p q : Path} : p.sameAs q ↔ p.components = q.components :=
  beq_iff_eq

/-- A name that is a drive: one ASCII letter and a colon. -/
def isDrive : Text → Bool
  | [letter, ':'] => letter.isAlpha
  | _ => false

/-- Whether the first component is a drive. -/
def startsWithDrive (p : Path) : Bool :=
  match p.components with
  | .name n :: _ => isDrive n
  | _ => false

/-- Whether the path names the same place whatever the working directory
is. -/
def isAbsolute (p : Path) : Bool :=
  p.hasRoot || p.startsWithDrive

/-- The second path as seen from the first.  A rooted second path stands for
itself. -/
def join (p q : Path) : Path :=
  if q.hasRoot then q
  else if p.text.isEmpty || p.text.getLast? == some '/' then ⟨p.text ++ q.text⟩
  else ⟨p.text ++ '/' :: q.text⟩

/-- The path without its last component.  The root and the empty path have no
parent. -/
def parent? (p : Path) : Option Path :=
  match p.components.getLast? with
  | none => none
  | some .root => none
  | some _ => some (ofComponents p.components.dropLast)

/-- The name of a file without its extension, which starts at the last dot.
A dot that the name begins with starts no extension. -/
def stemOfName (n : Text) : Text :=
  match (Text.splitOn '.' n).reverse with
  | _ :: before :: more =>
    match Text.joinWith ['.'] (before :: more).reverse with
    | [] => n
    | stem => stem
  | _ => n

/-- The stem of the last component, if that is a name. -/
def stem? (p : Path) : Option Text :=
  match p.components.getLast? with
  | some (.name n) => some (stemOfName n)
  | _ => none

/-- The place of a component in the order of paths: the root, a leading `.`,
`..`, and then the names by their characters. -/
def Component.sortKey : Component → List Nat
  | .root => [0]
  | .here => [1]
  | .up => [2]
  | .name text => 3 :: text.map Char.toNat

/-- The place of a path in the order of paths, which is lexicographic by
components. -/
def sortKey (p : Path) : List (List Nat) :=
  p.components.map Component.sortKey

/-- Whether a path stands before another in the order of paths. -/
def lt (p q : Path) : Bool :=
  decide (p.sortKey < q.sortKey)

/-- The order of paths is transitive. -/
theorem lt_trans {p q r : Path} (hpq : p.lt q) (hqr : q.lt r) : p.lt r :=
  decide_eq_true (List.lt_trans (of_decide_eq_true hpq) (of_decide_eq_true hqr))

/-- A path as a build tool on Windows writes it: blanks and double quotes
around it do not belong to it, and a backslash separates too. -/
def ofLog (raw : Text) : Path :=
  ⟨(Text.trimBy (· == '"') (Text.trim raw)).map fun c => if c == '\\' then '/' else c⟩

end Path

end BuildEnv
