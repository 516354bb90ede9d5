import FigureGallery.Config
import FigureGallery.Include.Walk
import FigureGallery.Root.Search

/-!
# Scans of a project

A scanner holds the options of one project and nothing from one scan to the next. A scan resolves the root document for
the active document, walks the include graph from it, and numbers the figures it finds.
-/

namespace FigureGallery

open Exclusion

/-- How a project is scanned. -/
structure ScanOptions where
  /-- The extension of documents. -/
  extension : String
  /-- How many characters after a figure its label is looked for in. -/
  labelLookahead : Nat
  /-- How long after the last change a scan waits, in milliseconds. -/
  debounceMs : Nat
  /-- The names that come first in the search for a root document. -/
  preferredRoots : List String
  /-- The patterns of excluded paths. -/
  excludePatterns : List String
  /-- Whether the ignore file of the project is not used. -/
  disableGitignore : Bool
deriving DecidableEq

namespace ScanOptions

/-- The options that a configuration asks for; its extension loses the dots it starts with. -/
def ofConfig (config : Config) : ScanOptions where
  extension := Path.bareExtension config.extension
  labelLookahead := config.labelLookahead
  debounceMs := config.debounceMs
  preferredRoots := config.preferredRoots
  excludePatterns := config.excludePatterns
  disableGitignore := config.disableGitignore

/-- The options of a project without a configuration. -/
def default : ScanOptions :=
  ofConfig Config.default

end ScanOptions

/-- The outcome of a scan. -/
structure Scan where
  /-- The root document. -/
  root : Root.Resolution
  /-- The documents, in the order they were visited in. -/
  documents : List Path
  /-- The figures, numbered in the order they were found in. -/
  figures : List Figure
  /-- What was left out. -/
  diagnostics : List Diagnostic
deriving DecidableEq

/-- The settled options of a project. -/
structure Scanner where
  /-- The root of the project, in normal form. -/
  projectRoot : Path
  options : ScanOptions
  filter : Filter

namespace Scanner

/-- A scanner with given options. -/
def make (tree : FileTree) (root : Path) (options : ScanOptions) : Except Failure Scanner :=
  let projectRoot := tree.absolute root
  match Filter.make tree projectRoot options.excludePatterns options.disableGitignore with
  | .ok filter => .ok ⟨projectRoot, options, filter⟩
  | .error e => .error (.config e)

/-- A scanner with the options that the configuration of the project asks for. -/
def load (tree : FileTree) (root : Path) : Except Failure Scanner :=
  match Config.load tree root with
  | .ok (some config) => make tree root (.ofConfig config)
  | .ok none => make tree root .default
  | .error e => .error e

/-- Whether a path is a document of the project's markup. -/
def isMarkup (scanner : Scanner) (p : Path) : Bool :=
  p.hasExtension scanner.options.extension

/-- Whether a change of a file calls for a scan: any file of the project that is not excluded, since images count as
much as documents. -/
def isRelevant (scanner : Scanner) (tree : FileTree) (p : Path) : Bool :=
  (tree.absolute p).isBelow scanner.projectRoot && !scanner.filter.excludes tree (tree.absolute p)

/-- The root document for an active document. -/
def resolveRoot (scanner : Scanner) (source : Source) (active : Path) : Root.Resolution :=
  Root.resolve source scanner.filter ⟨scanner.options.extension, scanner.options.preferredRoots⟩
    (source.tree.absolute active) scanner.projectRoot

/-- What a walk of the project depends on. -/
def walkOptions (scanner : Scanner) : Include.Options where
  extension := scanner.options.extension
  extraction := ⟨scanner.options.labelLookahead, some scanner.projectRoot⟩

/-- A scan for an active document. -/
def scan (scanner : Scanner) (source : Source) (active : Path) : Scan :=
  let root := scanner.resolveRoot source active
  let walk := Include.walk source scanner.walkOptions root.document
  ⟨root, walk.documents, Figure.numbered walk.extraction.figures, walk.extraction.diagnostics⟩

end Scanner

end FigureGallery
