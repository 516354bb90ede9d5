/-!
# Paths

A path is kept as it is written, since it is shown to the user that way. What it denotes is its list of
components: repeated slashes, `.` steps other than a leading one and trailing slashes do not count. Two paths are
the same place in the writing of paths when their components agree.
-/

namespace FigureGallery

/-- A path, as it is written. -/
structure Path where
  text : String
deriving DecidableEq, Inhabited

namespace Path

/-- One step of a path. -/
inductive Component where
  /-- The top of the file tree. -/
  | root
  /-- A leading `.`. -/
  | here
  /-- A `..`. -/
  | up
  /-- A named entry. -/
  | name (text : String)
deriving DecidableEq, Inhabited

/-- How a path begins. -/
inductive Lead where
  | root
  | here
  | free
deriving DecidableEq

/-- The parts of a text between slashes. -/
def segments : List Char → List (List Char)
  | [] => [[]]
  | c :: cs =>
    if c = '/' then [] :: segments cs
    else match segments cs with
      | [] => [[c]]
      | s :: ss => (c :: s) :: ss

/-- Parts with slashes between them. -/
def joinSegments (ss : List (List Char)) : List Char :=
  ['/'].intercalate ss

/-- Whether a part between slashes is no step of its own. -/
def isIdle (s : List Char) : Bool :=
  s == [] || s == ['.']

/-- The beginning of a path and the parts that follow it. -/
def split (p : Path) : Lead × List (List Char) :=
  match p.text.toList with
  | '/' :: cs => (.root, segments cs)
  | cs => match segments cs with
    | ['.'] :: ss => (.here, ss)
    | ss => (.free, ss)

/-- Parts without idle ones at the end. -/
def trimIdle (ss : List (List Char)) : List (List Char) :=
  (ss.reverse.dropWhile isIdle).reverse

/-- The path with a beginning and the parts that follow it. -/
def ofSplit : Lead → List (List Char) → Path
  | .root, ss => ⟨String.ofList ('/' :: joinSegments ss)⟩
  | .here, [] => ⟨"."⟩
  | .here, ss => ⟨String.ofList ('.' :: '/' :: joinSegments ss)⟩
  | .free, ss => ⟨String.ofList (joinSegments ss)⟩

/-- The steps that a beginning stands for. -/
def Lead.components : Lead → List Component
  | .root => [.root]
  | .here => [.here]
  | .free => []

/-- The step that a part between slashes stands for. -/
def component? (s : List Char) : Option Component :=
  if isIdle s then none
  else if s = ['.', '.'] then some .up
  else some (.name (String.ofList s))

/-- The steps of a path. -/
def components (p : Path) : List Component :=
  p.split.1.components ++ p.split.2.filterMap component?

/-- Whether two paths are written with the same steps. -/
def same (p q : Path) : Bool :=
  p.components == q.components

/-- Whether a path starts at the top of the file tree. -/
def isAbsolute (p : Path) : Bool :=
  p.text.toList.head? == some '/'

/-- The path without its last step; none for the top and the empty path. -/
def parent? (p : Path) : Option Path :=
  match (trimIdle p.split.2).reverse, p.split.1 with
  | _ :: ss, lead => some (ofSplit lead (trimIdle ss.reverse))
  | [], .here => some ⟨""⟩
  | [], _ => none

/-- The path without its last step, without its last two, and so on, at most `n` of them. -/
def ancestorsUpTo : Nat → Path → List Path
  | 0, _ => []
  | n + 1, p => match p.parent? with
    | some q => q :: ancestorsUpTo n q
    | none => []

/-- The paths above a path, the nearest first. -/
def ancestors (p : Path) : List Path :=
  ancestorsUpTo p.components.length p

/-- The directory a path lies in; empty when it has none. -/
def directory (p : Path) : Path :=
  p.parent?.getD ⟨""⟩

/-- The last step of a path, when it is a name. -/
def fileName? (p : Path) : Option String :=
  match (trimIdle p.split.2).getLast? with
  | some s => if s = ['.', '.'] then none else some (String.ofList s)
  | none => none

/-- What follows the last dot of a name, unless nothing stands before that dot. -/
def extensionOf? (name : List Char) : Option (List Char) :=
  match name.reverse.dropWhile (· != '.') with
  | _ :: _ :: _ => some (name.reverse.takeWhile (· != '.')).reverse
  | _ => none

/-- What follows the last dot of the file name. -/
def extension? (p : Path) : Option (List Char) :=
  p.fileName?.bind fun name => extensionOf? name.toList

/-- An extension without the dots it is written with. -/
def bareExtension (extension : String) : String :=
  String.ofList (extension.toList.dropWhile (· == '.'))

/-- Whether a path has an extension, which may be given with leading dots. -/
def hasExtension (p : Path) (extension : String) : Bool :=
  p.extension? == some (bareExtension extension).toList

/-- The file name for display; the whole path when it has none. -/
def shortName (p : Path) : String :=
  p.fileName?.getD p.text

/-- `q` as seen from the directory `p`; an absolute `q` stands alone. -/
def join (p q : Path) : Path :=
  if q.isAbsolute then q
  else if p.text.toList.getLast?.all (· == '/') then ⟨p.text ++ q.text⟩
  else ⟨p.text ++ "/" ++ q.text⟩

/-- The path with another file name in place of its own, or with one added when it has none. -/
def withFileName (p : Path) (name : String) : Path :=
  (if p.fileName?.isSome then p.directory else p).join ⟨name⟩

/-- Whether a path is another or lies below it, step by step. -/
def isBelow (p ancestor : Path) : Bool :=
  ancestor.components.isPrefixOf p.components

/-- Parts after the first `n` that are steps, and after idle ones that follow these. -/
def dropSteps : Nat → List (List Char) → List (List Char)
  | _, [] => []
  | n, s :: ss =>
    if isIdle s then dropSteps n ss
    else match n with
      | 0 => s :: ss
      | n + 1 => dropSteps n ss

/-- The rest of a path after an ancestor. -/
def below? (p ancestor : Path) : Option Path :=
  if p.isBelow ancestor then
    let rest := trimIdle p.split.2
    match ancestor.components.length with
    | 0 => some (ofSplit p.split.1 rest)
    | n + 1 => some (ofSplit .free (dropSteps (n + 1 - p.split.1.components.length) rest))
  else none

/-- A path for display: relative to `root` when it lies there. -/
def relativeTo (p root : Path) : String :=
  ((p.below? root).getD p).text

end Path

end FigureGallery
