import FigureGallery.Path.Basic

/-!
# Normal forms of paths

A path is brought into normal form by folding `.` and `..` steps in its writing, without looking at any file. The
normal form has `..` steps only at its start, and only when it is relative.
-/

namespace FigureGallery.Path

/-- Adds one step to a folded path, given with its last step first; `rooted` paths have nothing above them. -/
def foldStep (rooted : Bool) (stack : List Component) : Component → List Component
  | .root => stack
  | .here => stack
  | .up => match stack with
    | .name _ :: rest => rest
    | _ => if rooted then stack else .up :: stack
  | .name s => .name s :: stack

/-- The way a step is written. -/
def Component.written : Component → List Char
  | .root => []
  | .here => ['.']
  | .up => ['.', '.']
  | .name s => s.toList

/-- The folded steps of a path, the beginning aside. -/
def foldedSteps (p : Path) : List Component :=
  (p.components.foldl (foldStep p.isAbsolute) []).reverse

/-- The normal form of a path: `.` and `..` steps are folded as far as the writing allows. -/
def normalize (p : Path) : Path :=
  ofSplit (if p.isAbsolute then .root else .free) (p.foldedSteps.map Component.written)

/-- The place of a path for a program that runs in `workingDirectory`; the empty path names nothing and stays. -/
def absolute (workingDirectory p : Path) : Path :=
  if p.text = "" then p else (workingDirectory.join p).normalize

/-- The path that a document refers to: one with a leading slash starts at the project root when that is known,
any other starts at the directory of the document. -/
def resolveReference (directory : Path) (reference : String) (projectRoot : Option Path) : Path :=
  match reference.toList, projectRoot with
  | '/' :: rooted, some root => (root.join ⟨String.ofList rooted⟩).normalize
  | _, _ => (directory.join ⟨reference⟩).normalize

end FigureGallery.Path
