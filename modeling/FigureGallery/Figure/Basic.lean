import FigureGallery.Path.Basic
import FigureGallery.Markup.Comment

/-!
# Figures and diagnostics

What a scan reports about a document: the figures that can be shown, and one diagnostic for every construct or
document that was left out.
-/

namespace FigureGallery

/-- A figure of a document. -/
structure Figure where
  /-- The image path as it is written in the document. -/
  imagePath : String
  /-- The image path as seen from the document. -/
  resolvedImage : Path
  /-- The caption without blanks around it. -/
  caption : String
  /-- The line of the `figure` keyword, counted from one. -/
  line : Nat
  /-- The name of the document, for display. -/
  sourceFile : String
  /-- The document. -/
  sourcePath : Path
  /-- The label with its angle brackets; empty when there is none. -/
  label : String
  /-- The place in the scan, counted from one; zero before figures are numbered. -/
  ordinal : Nat
deriving DecidableEq

namespace Figure

/-- Whether a figure carries a label. -/
def hasLabel (f : Figure) : Bool :=
  f.label != ""

/-- Numbers figures from one in the order they are listed in. -/
def numbered (figures : List Figure) : List Figure :=
  figures.mapIdx fun i f => { f with ordinal := i + 1 }

end Figure

/-- Why a construct or a document was left out. -/
inductive DiagnosticKind where
  /-- The construct sits inside a comment. -/
  | commentedOut (comment : Markup.Comment)
  /-- The parenthesis of the call is never closed. -/
  | unbalancedBlock
  /-- The call refers to no image. -/
  | missingImage
  /-- The image is not a file. -/
  | imageNotFound (path : Path)
  /-- The document could not be read. -/
  | unreadableDocument (reason : String)
deriving DecidableEq

/-- A construct or a document that was left out of a scan. -/
structure Diagnostic where
  file : Path
  kind : DiagnosticKind
  /-- The line, counted from one; zero when the whole document is meant. -/
  line : Nat
deriving DecidableEq

/-- The text of a diagnostic, for people. -/
def DiagnosticKind.message : DiagnosticKind → String
  | .commentedOut .line => "figure is inside a line comment"
  | .commentedOut .block => "figure is inside a block comment"
  | .unbalancedBlock => "figure is missing its closing \x60)\x60"
  | .missingImage => "figure has no \x60image(\"...\")\x60 reference"
  | .imageNotFound path => "image \x60" ++ path.text ++ "\x60 does not exist"
  | .unreadableDocument reason => "document could not be read: " ++ reason

/-- The text of a diagnostic, for people. -/
def Diagnostic.message (d : Diagnostic) : String :=
  d.kind.message

end FigureGallery
