import FigureGallery.Navigation
import FigureGallery.Proofs.Include.Unreadable
import FigureGallery.Proofs.Scanner.LineBreak
import FigureGallery.Proofs.Text.Boundary

/-!
# Lines of editors and lines of figures

The position of a keyword in an open document counts the line feeds before it; the line of its figure counts the line
breaks. The two differ by the carriage returns before the keyword that have no line feed behind them.
-/

namespace FigureGallery

open Text

/-- A figure without a number. -/
def Figure.unnumbered (f : Figure) : Figure :=
  { f with ordinal := 0 }

/-- Numbers can be taken back. -/
lemma Figure.map_unnumbered_numbered (figures : List Figure) :
    (Figure.numbered figures).map unnumbered = figures.map unnumbered := by
  refine List.ext_getElem? fun i => ?_
  rw [List.getElem?_map, Figure.getElem?_numbered, List.getElem?_map, Option.map_map]
  rfl

namespace Extraction

/-- The keyword of a call stands at one position. -/
lemma IsCall.existsUnique_position {text : List Char} {place : Occurrence} (call : IsCall text place) :
    ∃! p : Position, p.offset? text = some place.keyword := by
  obtain ⟨pre, opening, post, rfl, _, rfl⟩ := call
  rw [List.append_assoc]
  refine ⟨endOf pre, Position.offset?_eq_some_iff.mpr ⟨pre, _, rfl, rfl, rfl⟩, fun p found => ?_⟩
  rw [← (Position.offset?_eq_some_iff_isBoundary.mp found).2, before_byteLength]

end Extraction

/-- What a document yields has no numbers yet. -/
lemma Include.map_unnumbered_extract (source : Source) (options : Include.Options) (document : Path) :
    (extract source options document).figures.map Figure.unnumbered = (extract source options document).figures := by
  rw [extract]
  split
  · refine (List.map_congr_left fun f mem => ?_).trans (List.map_id _)
    rw [Figure.unnumbered, ← (Extraction.mem_figures_ofText mem).2, id]
  · rfl

namespace Scanner

variable {scanner : Scanner} {source : Source} {active document : Path}

/-- The figures that a scan lists of a document are those that the document yields. -/
lemma filter_figures_scan (listed : document ∈ (scanner.scan source active).documents) :
    ((scanner.scan source active).figures.filter (·.sourcePath = document)).map Figure.unnumbered =
      (Include.extract source scanner.walkOptions document).figures := by
  have about := congrArg Extraction.figures (Include.about_walk listed)
  -- Numbers make no difference to which document a figure is of.
  have ofDocument (figures : List Figure) : (figures.filter (·.sourcePath = document)).map Figure.unnumbered =
      (figures.map Figure.unnumbered).filter (·.sourcePath = document) := by
    rw [List.filter_map]
    rfl
  rw [ofDocument, scan, Figure.map_unnumbered_numbered, ← ofDocument]
  exact (congrArg (List.map Figure.unnumbered) about).trans (Include.map_unnumbered_extract source _ document)

/-- A recorded figure of an open document is reported on a line that counts every line break before its keyword, while the
position of the keyword counts line feeds only. Both are one line exactly if each carriage return before the keyword has a
line feed behind it; otherwise the figure is reported further down, and shown there when the client asks for it, by as many
lines as there are carriage returns without one. -/
theorem line_eq_iff_no_lone_return {text : String} (listed : document ∈ (scanner.scan source active).documents)
    (isOpen : source.buffers.get? document = some text) :
    ∃ os, List.Forall₂
        (fun place o =>
          Extraction.Decided source.tree scanner.walkOptions.extraction document (unifyLineBreaks text.toList)
            (place.unified text.toList) o ∧
          (∃! p : Position, p.offset? text.toList = some place.keyword) ∧
          ∀ p : Position, p.offset? text.toList = some place.keyword →
            o.line = p.line + 1 + loneReturns (before place.keyword text.toList) ∧
            (⟨document, o.line⟩ : NavigationTarget).zeroBasedLine =
              p.line + loneReturns (before place.keyword text.toList) ∧
            (o.line = p.line + 1 ↔ ∀ front behind, before place.keyword text.toList = front ++ '\r' :: behind →
              behind.head? = some '\n'))
        (Extraction.occurrences text.toList) os ∧
      ((scanner.scan source active).figures.filter (·.sourcePath = document)).map Figure.unnumbered =
        os.filterMap Extraction.Outcome.figure? := by
  have stored : source.stored document = .ok text := by rw [Source.stored, isOpen]
  obtain ⟨os, decided, yields⟩ := @Extraction.exists_forall₂_of_stored source scanner.walkOptions document text stored
  have called := (List.forall₂_and_left _ os).mpr
    ⟨fun place (mem : place ∈ Extraction.occurrences text.toList) => Extraction.mem_occurrences_iff.mp mem, decided⟩
  refine ⟨os, called.imp fun place o outcome => ?_, by rw [filter_figures_scan listed, yields]⟩
  obtain ⟨call, decided, line⟩ := outcome
  refine ⟨decided, call.existsUnique_position, fun p found => ?_⟩
  have feeds : lineFeeds (before place.keyword text.toList) = p.line := by
    rw [← (Position.offset?_eq_some_iff_isBoundary.mp found).2, endOf]
  rw [lineBreaks_eq, feeds] at line
  have shift : o.line = p.line + 1 + loneReturns (before place.keyword text.toList) := by omega
  refine ⟨shift, by change o.line - 1 = _; omega, ?_⟩
  rw [← loneReturns_eq_zero_iff]
  omega

/-- A pair of a carriage return and a line feed counts alike, and a carriage return on its own does not. -/
theorem line_eq_iff_no_lone_return_one :
    let tree : FileTree := ⟨[(["w"], .directory), (["w", "p.png"], .file "".toUTF8)], []⟩
    let document : Path := ⟨"/w/a.typ"⟩
    let text := "é\r\nb\r#figure(image(\"p.png\"))"
    let source : Source := ⟨tree, Buffers.empty.set document text⟩
    ∃ scanner f, make tree ⟨"/w"⟩ .default = .ok scanner ∧ document ∈ (scanner.scan source document).documents ∧
      source.buffers.get? document = some text ∧ (scanner.scan source document).figures = [f] ∧
      (⟨1, 3⟩ : Position).offset? text.toList = some 7 ∧ f.line = 3 := by
  intro tree document text source
  obtain ⟨scanner, made⟩ := @exists_make tree ⟨"/w"⟩ .default (by decide +kernel)
  have documents : (scanner.scan source document).documents = [document] :=
    eq_of_make made (f := fun s => (s.scan source document).documents) (by decide +kernel)
  have listed : document ∈ (scanner.scan source document).documents := by simp [documents]
  have isOpen : source.buffers.get? document = some text := by decide +kernel
  have about : (scanner.scan source document).figures.map Figure.sourcePath = [document] :=
    eq_of_make made (f := fun s => (s.scan source document).figures.map Figure.sourcePath) (by decide +kernel)
  have calls : Extraction.occurrences text.toList = [⟨7, 14⟩] := by decide +kernel
  have position : (⟨1, 3⟩ : Position).offset? text.toList = some 7 := by decide
  have lone : loneReturns (before 7 text.toList) = 1 := by decide
  obtain ⟨f, figures, about⟩ := List.map_eq_singleton_iff.mp about
  obtain ⟨os, decided, yields⟩ := line_eq_iff_no_lone_return listed isOpen
  -- There is one call, and its outcome is the figure.
  rw [calls] at decided
  obtain ⟨o, _, ⟨_, _, lines⟩, ends, rfl⟩ := List.forall₂_cons_left_iff.mp decided
  obtain rfl := List.forall₂_nil_left_iff.mp ends
  obtain ⟨line, _⟩ := lines ⟨1, 3⟩ position
  have only : [f].filter (·.sourcePath = document) = [f] := by simp [about]
  rw [figures, only] at yields
  refine ⟨scanner, f, made, listed, isOpen, figures, position, ?_⟩
  cases o with
  | figure g =>
    obtain rfl : f.unnumbered = g := by simpa [Extraction.Outcome.figure?] using yields
    exact line.trans (by rw [lone])
  | omitted _ => simp [List.filterMap_cons, Extraction.Outcome.figure?] at yields

end Scanner

end FigureGallery
