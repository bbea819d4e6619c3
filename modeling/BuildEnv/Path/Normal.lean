import BuildEnv.Path.Basic

/-!
# The normal form of a path

`Path.normalize` folds `.` and `..` away without looking at any file: a `..`
takes the name before it away, is dropped after the root and after a bare
drive, and is kept where nothing stands before it.  The components that
remain are pushed on a stack, last component first.

`Path.absoluteTo` is the only way in which a relative path of a log or a
database is given a place.
-/

namespace BuildEnv

namespace Path

/-- A `..` on a stack of components. -/
def foldUp : List Component → List Component
  | [] => [.up]
  | [.name n] => if isDrive n then [.name n] else []
  | .name _ :: below => below
  | .root :: below => .root :: below
  | stack => .up :: stack

/-- One component on a stack of components. -/
def foldComponent (stack : List Component) : Component → List Component
  | .here => stack
  | .up => foldUp stack
  | other => other :: stack

/-- The components without `.` and with every `..` folded. -/
def foldComponents (components : List Component) : List Component :=
  (components.foldl foldComponent []).reverse

/-- The normal form of a path.  Where nothing remains, it is `.`. -/
def normalize (p : Path) : Path :=
  match foldComponents p.components with
  | [] => ⟨['.']⟩
  | components => ofComponents components

/-- The normal form of a path that is relative to a directory, unless it is
absolute. -/
def absoluteTo (directory p : Path) : Path :=
  if p.isAbsolute then p.normalize else (directory.join p).normalize

end Path

end BuildEnv
