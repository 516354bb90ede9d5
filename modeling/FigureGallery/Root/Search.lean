import FigureGallery.Document.Source
import FigureGallery.Exclusion.Filter
import FigureGallery.Markup.Directive

/-!
# The root document

The document that a scan starts from. The directories from the one of the active document up to the project root are
searched in turn for a document with an include directive. In one directory preferred names come first, and the others
follow by name. When no directory has one, the active document stands alone.
-/

namespace FigureGallery.Root

open Exclusion

/-- How a root document was found. -/
inductive Kind where
  /-- In a directory on the way up. -/
  | ancestor
  /-- Nowhere, so the active document stands in. -/
  | activeDocument
deriving DecidableEq

/-- A root document. -/
structure Resolution where
  document : Path
  kind : Kind
deriving DecidableEq

/-- Whether the active document stands in for a root document. -/
def Resolution.isFallback (r : Resolution) : Bool :=
  r.kind == .activeDocument

/-- What a search looks for. -/
structure Options where
  /-- The extension of documents. -/
  extension : String
  /-- The names that come before all others. -/
  preferred : List String

/-- The first elements of a list, up to and including the first that satisfies a test. -/
def through {α : Type} (test : α → Bool) : List α → List α
  | [] => []
  | a :: as => if test a then [a] else a :: through test as

/-- The directories to search, the nearest first. -/
def directories (active projectRoot : Path) : List Path :=
  through (fun directory => directory.same projectRoot.normalize) active.normalize.ancestors

/-- The place of a name among the preferred names; behind all of them when it is not among them. -/
def rank (preferred : List String) (name : String) : Nat :=
  preferred.idxOf name

/-- Whether a name comes before another, or is the same. -/
def comesFirst (preferred : List String) (a b : String) : Bool :=
  rank preferred a < rank preferred b || (rank preferred a == rank preferred b && a ≤ b)

/-- The names of the files in a directory that have the extension of documents. -/
def documentNames (tree : FileTree) (options : Options) (directory : Path) : List String :=
  (tree.list directory).filter fun name =>
    (directory.join ⟨name⟩).hasExtension options.extension && tree.isFile (directory.join ⟨name⟩)

/-- Whether a document can be read and has an include directive. -/
def hasDirective (source : Source) (document : Path) : Bool :=
  match source.read document with
  | .ok text => Markup.Directive.startsIn text
  | .error _ => false

/-- The root document in a directory. -/
def inDirectory? (source : Source) (filter : Filter) (options : Options) (directory : Path) : Option Path :=
  let names := (documentNames source.tree options directory).filter fun name =>
    !filter.excludes source.tree (directory.join ⟨name⟩)
  ((names.mergeSort (comesFirst options.preferred)).map fun name => directory.join ⟨name⟩).find? (hasDirective source)

/-- The root document for an active document. -/
def resolve (source : Source) (filter : Filter) (options : Options) (active projectRoot : Path) : Resolution :=
  match (directories active projectRoot).findSome? (inDirectory? source filter options) with
  | some document => ⟨document, .ancestor⟩
  | none => ⟨active.normalize, .activeDocument⟩

/-- The directories that a search looks into before it ends. -/
def searched (source : Source) (filter : Filter) (options : Options) (active projectRoot : Path) : List Path :=
  through (fun directory => (inDirectory? source filter options directory).isSome) (directories active projectRoot)

/-- Whether a search meets a file that the filter cannot be asked about. A filter whose root is in normal form can be
asked about every file that a search meets. -/
def isLost (source : Source) (filter : Filter) (options : Options) (active projectRoot : Path) : Bool :=
  (searched source filter options active projectRoot).any fun directory =>
    (documentNames source.tree options directory).any fun name =>
      filter.isLost source.tree (directory.join ⟨name⟩)

end FigureGallery.Root
