import FigureGallery.Proofs.Figure.Outcome
import FigureGallery.Proofs.Include.Walk
import FigureGallery.Proofs.Include.Worklist
import FigureGallery.Scanner

/-!
# What a scan lists

A scan lists the documents in the order of a worklist search from the root document. Its figures are those of the
documents one after another, numbered and otherwise as they were extracted, and its diagnostics are those of the
documents, with one more for each document that cannot be read.
-/

namespace FigureGallery

/-- The figure at a place is the one that was at this place before, with the number of the place. -/
lemma Figure.getElem?_numbered (figures : List Figure) (i : Nat) :
    (Figure.numbered figures)[i]? = figures[i]?.map fun f => { f with ordinal := i + 1 } := by
  rw [Figure.numbered, List.getElem?_mapIdx]

/-- The numbers run from one without a gap. -/
lemma Figure.map_ordinal_numbered (figures : List Figure) :
    (Figure.numbered figures).map ordinal = List.range' 1 figures.length := by
  refine List.ext_getElem? fun i => ?_
  rw [List.getElem?_map, Figure.getElem?_numbered]
  by_cases h : i < figures.length
  · simp [h, Nat.add_comm]
  · simp [h]

/-- Numbering leaves the documents of figures as they are. -/
lemma Figure.map_sourcePath_numbered (figures : List Figure) :
    (Figure.numbered figures).map sourcePath = figures.map sourcePath := by
  refine List.ext_getElem? fun i => ?_
  rw [List.getElem?_map, Figure.getElem?_numbered, List.getElem?_map, Option.map_map]
  rfl

namespace Include

variable {source : Source} {options : Options} {document : Path}

/-- A document yields one diagnostic on itself when it cannot be read, and none when it can be. -/
lemma filter_isUnreadable_extract :
    ((extract source options document).diagnostics.filter Diagnostic.isUnreadable).map (fun d => (d.file, d.line)) =
      if (source.read document).toOption.isNone then [(document, 0)] else [] := by
  cases h : source.read document with
  | error e =>
    simp only [extract, h]
    rfl
  | ok text =>
    have none : (Extraction.ofText source.tree options.extraction document text).diagnostics.filter
        Diagnostic.isUnreadable = [] :=
      List.filter_eq_nil_iff.mpr fun d mem => (Extraction.mem_diagnostics_ofText mem).2
    simp only [extract, h, none]
    rfl

/-- One item for each document of a kind. -/
lemma flatMap_ite {α : Type} (p : Path → Bool) (f : Path → α) (documents : List Path) :
    (documents.flatMap fun d => if p d then [f d] else []) = (documents.filter p).map f := by
  induction documents with
  | nil => rfl
  | cons d documents ih =>
    rw [List.flatMap_cons, List.filter_cons, ih]
    split <;> rfl

end Include

namespace Scanner

open Include

/-- The figures of a scan are numbered from one without a gap. -/
lemma map_ordinal_scan (scanner : Scanner) (source : Source) (active : Path) :
    (scanner.scan source active).figures.map Figure.ordinal =
      List.range' 1 (scanner.scan source active).figures.length := by
  rw [scan, Figure.map_ordinal_numbered, Figure.numbered, List.length_mapIdx]

/-- A walk is a worklist search, and a scan is what the walk from its root document finds: the documents in this order,
what each of them yields one after another, the figures numbered without a gap, and one diagnostic on line zero for
each document that cannot be read. -/
theorem scan_concatenates_documents (scanner : Scanner) (source : Source) (active : Path) :
    let scan := scanner.scan source active
    let yield := extract source scanner.walkOptions
    let found := scan.documents.flatMap fun d => (yield d).figures
    (∀ (options : Include.Options) (start : Path), ∃ n, ∀ more,
      (graph source options).step^[more + n] ⟨[], [start.normalize]⟩ = ⟨(walk source options start).documents, []⟩) ∧
    scan.documents = (walk source scanner.walkOptions scan.root.document).documents ∧
    (∀ i : Nat, scan.figures[i]? = found[i]?.map fun f => { f with ordinal := i + 1 }) ∧
    scan.figures.map Figure.ordinal = List.range' 1 found.length ∧
    scan.figures.map Figure.sourcePath = scan.documents.flatMap (fun d => (yield d).figures.map fun _ => d) ∧
    scan.diagnostics = scan.documents.flatMap (fun d => (yield d).diagnostics) ∧
    scan.diagnostics.map Diagnostic.file = scan.documents.flatMap (fun d => (yield d).diagnostics.map fun _ => d) ∧
    (scan.diagnostics.filter Diagnostic.isUnreadable).map (fun d => (d.file, d.line)) =
      (scan.documents.filter fun d => (source.read d).toOption.isNone).map (fun d => (d, 0)) := by
  intro scan yield found
  have extraction := (search_walk source scanner.walkOptions scan.root.document).2
  have figures : scan.figures = Figure.numbered found := congrArg (fun e : Extraction => Figure.numbered e.figures) extraction
  have diagnostics : scan.diagnostics = scan.documents.flatMap fun d => (yield d).diagnostics :=
    congrArg Extraction.diagnostics extraction
  refine ⟨fun options start => ?_, rfl, fun i => ?_, ?_, ?_, diagnostics, ?_, ?_⟩
  · obtain ⟨n, finished⟩ := (search_walk source options start).1.finishes
    rw [List.reverse_reverse] at finished
    exact ⟨n, finished⟩
  · rw [figures, Figure.getElem?_numbered]
  · rw [figures, Figure.map_ordinal_numbered]
  · rw [figures, Figure.map_sourcePath_numbered, List.map_flatMap]
    exact congrArg (List.flatMap · scan.documents) (funext fun d => extract_document.1)
  · rw [diagnostics, List.map_flatMap]
    exact congrArg (List.flatMap · scan.documents) (funext fun d => extract_document.2)
  · rw [diagnostics, List.filter_flatMap, List.map_flatMap]
    have each : ∀ d, ((yield d).diagnostics.filter Diagnostic.isUnreadable).map (fun d => (d.file, d.line)) =
        if (source.read d).toOption.isNone then [(d, 0)] else [] := fun d => filter_isUnreadable_extract
    rw [funext each, flatMap_ite]

end Scanner

end FigureGallery
