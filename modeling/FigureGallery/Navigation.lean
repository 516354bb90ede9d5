import FigureGallery.Error

/-!
# Navigation

The place in a document that a figure leads to.
-/

namespace FigureGallery

/-- A line of an existing file, counted from one. -/
structure NavigationTarget where
  path : Path
  line : Nat
deriving DecidableEq

namespace NavigationTarget

/-- The target at a line of a path, if the path is a file and lines are counted from one. -/
def make (tree : FileTree) (path : Path) (line : Nat) : Except Failure NavigationTarget :=
  if line = 0 || !tree.isFile path then .error (.navigation path line) else .ok ⟨path, line⟩

/-- The line counted from zero, as editors count. -/
def zeroBasedLine (target : NavigationTarget) : Nat :=
  target.line - 1

end NavigationTarget

end FigureGallery
