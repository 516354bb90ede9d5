import FigureGallery.FileTree
import FigureGallery.Figure.Basic
import FigureGallery.Markup.Delimiter
import FigureGallery.Markup.Shape
import FigureGallery.Text.LineTable

/-!
# Extraction of figures

Every occurrence of a `figure` call in a document has exactly one outcome: a figure, or a diagnostic that says why
there is none. The figures and the diagnostics of a document are the outcomes of its occurrences, in their order.
-/

namespace FigureGallery.Extraction

open Markup

/-- The caption of figures that have none of their own. -/
def noCaption : String := "No Caption"

/-- What extraction depends on besides the document. -/
structure Options where
  /-- How many characters after a figure its label is looked for in. -/
  labelLookahead : Nat
  /-- The directory that references with a leading slash start from. -/
  projectRoot : Option Path

/-- A place where a `figure` call starts. -/
structure Occurrence where
  /-- The offset of the keyword. -/
  keyword : Nat
  /-- The offset just after the opening parenthesis. -/
  body : Nat
deriving DecidableEq

/-- What becomes of an occurrence. -/
inductive Outcome where
  | figure (figure : Figure)
  | omitted (diagnostic : Diagnostic)
deriving DecidableEq

/-- The occurrences in a text that itself starts at `offset`. After an occurrence the search goes on behind its opening
parenthesis. -/
def occurrencesFrom (offset : Nat) (text : List Char) : List Occurrence :=
  match _found : figureOpening? text with
  | some rest =>
    let body := offset + (Text.byteLength text - Text.byteLength rest)
    ⟨offset, body⟩ :: occurrencesFrom body rest
  | none => match text with
    | [] => []
    | c :: cs => occurrencesFrom (offset + c.utf8Size) cs
  termination_by text.length
  decreasing_by
    · exact length_keywordThen?_lt _found
    · simp

/-- The places of a text where a `figure` call starts. -/
def occurrences (text : List Char) : List Occurrence :=
  occurrencesFrom 0 text

/-- The caption in the body of a call: one in brackets before one in quotes. -/
def captionOf (body : List Char) : String :=
  match (firstMatch? bracketCaption? body).or (firstMatch? quotedCaption? body) with
  | some content => String.ofList (Text.trim content)
  | none => noCaption

/-- The label within `lookahead` characters of a text, with its brackets; empty when there is none. -/
def labelOf (lookahead : Nat) (text : List Char) : String :=
  match label? (text.take lookahead) with
  | some name => String.ofList ('<' :: name ++ ['>'])
  | none => ""

/-- The outcome of an occurrence. -/
def outcome (tree : FileTree) (options : Options) (document : Path) (text : List Char) (lines : Text.LineTable)
    (place : Occurrence) : Outcome :=
  let line := lines.lineOf place.keyword
  let skip (kind : DiagnosticKind) : Outcome := .omitted ⟨document, kind, line⟩
  match Comment.at? text place.keyword with
  | some comment => skip (.commentedOut comment)
  | none => match Delimiters.parentheses.block text place.body with
    | .error _ => skip .unbalancedBlock
    | .ok block => match firstMatch? imageReference? block.body with
      | none => skip .missingImage
      | some image =>
        let imagePath := String.ofList image
        let resolved := Path.resolveReference document.directory imagePath options.projectRoot
        if tree.isFile resolved then
          .figure {
            imagePath
            resolvedImage := resolved
            caption := captionOf block.body
            line
            sourceFile := document.shortName
            sourcePath := document
            label := labelOf options.labelLookahead (Text.after (block.close + 1) text)
            ordinal := 0 }
        else skip (.imageNotFound resolved)

end Extraction

/-- What a document yields: its figures and its diagnostics, each in document order. -/
structure Extraction where
  figures : List Figure
  diagnostics : List Diagnostic
deriving DecidableEq

namespace Extraction

/-- Nothing was extracted. -/
def empty : Extraction := ⟨[], []⟩

/-- Adds an outcome to what was extracted before. -/
def record (extraction : Extraction) : Outcome → Extraction
  | .figure f => { extraction with figures := extraction.figures ++ [f] }
  | .omitted d => { extraction with diagnostics := extraction.diagnostics ++ [d] }

/-- The figures and diagnostics of a document with a given text. -/
def ofText (tree : FileTree) (options : Options) (document : Path) (text : List Char) : Extraction :=
  let lines := Text.LineTable.ofText text
  (occurrences text).foldl (fun extraction place => extraction.record (outcome tree options document text lines place))
    empty

/-- One extraction after another. -/
def append (a b : Extraction) : Extraction :=
  ⟨a.figures ++ b.figures, a.diagnostics ++ b.diagnostics⟩

end Extraction

end FigureGallery
