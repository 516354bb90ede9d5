import FigureGallery.Document.Source
import FigureGallery.Error
import FigureGallery.Figure.Extraction
import FigureGallery.Markup.Directive

/-!
# Walking the include graph

The documents that a document includes, directly and indirectly, and what is extracted from them. Each document is
visited once; its figures come before those of the documents it includes. A document that is neither open nor a file
is passed over with everything behind it.
-/

namespace FigureGallery.Include

open Markup

/-- What a walk depends on besides the documents. -/
structure Options where
  /-- The extension of documents, which targets may be written without. -/
  extension : String
  extraction : Extraction.Options

/-- What a walk finds. -/
structure Walk where
  /-- The documents, in the order they were visited in. -/
  documents : List Path
  extraction : Extraction
deriving DecidableEq

/-- A walk under way. -/
structure Walker where
  /-- The documents that were met so far, the last one first. -/
  visited : List Path
  /-- What was found so far. -/
  walk : Walk
deriving DecidableEq

namespace Walker

/-- Nothing was met yet. -/
def start : Walker := ⟨[], ⟨[], .empty⟩⟩

/-- Whether a document was met before, under any spelling with the same steps. -/
def hasMet (walker : Walker) (document : Path) : Bool :=
  walker.visited.any document.same

/-- Meets a document. -/
def enter (walker : Walker) (document : Path) : Walker where
  visited := document :: walker.visited
  walk := { walker.walk with documents := walker.walk.documents ++ [document] }

/-- Adds what a document yields to what was found. -/
def record (walker : Walker) (extraction : Extraction) : Walker :=
  { walker with walk := { walker.walk with extraction := walker.walk.extraction.append extraction } }

end Walker

/-- A path with the extension of documents added, unless it has that extension. -/
def withExtension (extension : String) (p : Path) : Path :=
  if p.hasExtension extension then p
  else p.withFileName (p.fileName?.getD "" ++ "." ++ Path.bareExtension extension)

/-- The document that a target names in a document of `directory`; targets that start with `@` are packages. -/
def resolveTarget (options : Options) (directory : Path) (target : List Char) : Option Path :=
  if target.head? = some '@' then none
  else some (withExtension options.extension
    (Path.resolveReference directory (String.ofList target) options.extraction.projectRoot))

/-- What a document yields that cannot be read. -/
def unreadable (document : Path) (e : FileError) : Extraction :=
  ⟨[], [⟨document, .unreadableDocument (Failure.unreadableDocument document e).message, 0⟩]⟩

/-- Visits a document and, in the order of its directives, all that it includes. The search goes at most `depth`
documents deep. -/
def visit (source : Source) (options : Options) : (depth : Nat) → Walker → Path → Walker
  | 0, walker, _ => walker
  | depth + 1, walker, document =>
    if walker.hasMet document then walker
    else if source.isReachable document then
      match source.read document with
      | .error e => (walker.enter document).record (unreadable document e)
      | .ok text =>
        (Directive.targets text).foldl
          (fun walker target => match resolveTarget options document.directory target with
            | some next => visit source options depth walker next
            | none => walker)
          ((walker.enter document).record (.ofText source.tree options.extraction document text))
    else walker

/-- More documents than the search can meet: each is open or has one of the paths that can be looked up. -/
def depthBound (source : Source) : Nat :=
  FileTree.textBound FileTree.maxPathLength + source.buffers.entries.length

/-- Walks the include graph from a start. -/
def walk (source : Source) (options : Options) (start : Path) : Walk :=
  (visit source options (depthBound source) .start start.normalize).walk

end FigureGallery.Include
