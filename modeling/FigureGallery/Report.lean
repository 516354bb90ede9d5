import FigureGallery.Figure.Basic

/-!
# Reports of diagnostics

What the command line says about a construct that was left out: where it is, what is wrong, and how to mend it.
-/

namespace FigureGallery

/-- A warning about a construct that was left out. -/
structure Report where
  text : String
  code : String
  help : String
deriving DecidableEq

namespace Report

/-- The code of a reason. -/
def codeOf : DiagnosticKind → String
  | .commentedOut _ => "typfig::commented_out"
  | .unbalancedBlock => "typfig::unbalanced_block"
  | .missingImage => "typfig::missing_image"
  | .imageNotFound _ => "typfig::image_not_found"
  | .unreadableDocument _ => "typfig::unreadable_document"

/-- The advice that goes with a reason. -/
def helpOf : DiagnosticKind → String
  | .commentedOut _ => "remove the comment markers to show this figure"
  | .unbalancedBlock => "every \x60(\x60 opened by a figure needs a matching \x60)\x60"
  | .missingImage => "only figures wrapping an \x60image(\"...\")\x60 call are shown"
  | .imageNotFound _ => "image paths are resolved relative to the document that contains the figure"
  | .unreadableDocument _ => "check that the file is valid UTF-8 and readable"

/-- The report of a diagnostic, with paths shown relative to `root`. A line of zero means the whole document. -/
def ofDiagnostic (d : Diagnostic) (root : Path) : Report :=
  let file := d.file.relativeTo root
  let location := if d.line = 0 then file else file ++ ":" ++ toString d.line
  ⟨"[" ++ location ++ "] " ++ d.message, codeOf d.kind, helpOf d.kind⟩

end Report

end FigureGallery
