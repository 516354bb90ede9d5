import FigureGallery.Figure.Extraction
import Mathlib.Tactic.Lemma

/-!
# Outcomes of occurrences

What is extracted from a document is read off the list of the outcomes of its occurrences: the figures are the outcomes
that are figures, the diagnostics are the others, both in their order. Each of them is about the document itself.
-/

namespace FigureGallery

/-- Whether a diagnostic says that a document could not be read. -/
def Diagnostic.isUnreadable (d : Diagnostic) : Bool :=
  match d.kind with
  | .unreadableDocument _ => true
  | _ => false

namespace Extraction

/-- The figure that an outcome is. -/
def Outcome.figure? : Outcome → Option Figure
  | .figure f => some f
  | .omitted _ => none

/-- The diagnostic that an outcome is. -/
def Outcome.diagnostic? : Outcome → Option Diagnostic
  | .figure _ => none
  | .omitted d => some d

/-- The path at which an outcome has looked for an image. -/
def Outcome.image? : Outcome → Option Path
  | .figure f => some f.resolvedImage
  | .omitted d => match d.kind with
    | .imageNotFound path => some path
    | _ => none

/-- The outcomes of the occurrences in a text. -/
def outcomes (tree : FileTree) (options : Options) (document : Path) (text : List Char) : List Outcome :=
  (occurrences text).map (outcome tree options document text (Text.LineTable.ofText text))

/-- Recording outcomes one after another adds each of them to its kind. -/
lemma foldl_record (outcomes : List Outcome) (extraction : Extraction) :
    outcomes.foldl record extraction =
      extraction.append ⟨outcomes.filterMap Outcome.figure?, outcomes.filterMap Outcome.diagnostic?⟩ := by
  induction outcomes generalizing extraction with
  | nil => simp [append]
  | cons o outcomes ih =>
    rw [List.foldl_cons, ih]
    cases o with
    | figure f => simp [record, append, List.filterMap_cons, Outcome.figure?, Outcome.diagnostic?]
    | omitted d => simp [record, append, List.filterMap_cons, Outcome.figure?, Outcome.diagnostic?]

/-- What a document yields are its outcomes, sorted by kind. -/
lemma ofText_eq (tree : FileTree) (options : Options) (document : Path) (text : List Char) :
    ofText tree options document text =
      ⟨(outcomes tree options document text).filterMap Outcome.figure?,
        (outcomes tree options document text).filterMap Outcome.diagnostic?⟩ := by
  have folded := foldl_record (outcomes tree options document text) empty
  rw [outcomes, List.foldl_map] at folded
  rw [ofText, folded, append, empty, List.nil_append, List.nil_append, outcomes]

section Attribution

variable {tree : FileTree} {options : Options} {document : Path} {text : List Char}

/-- An outcome is about the document that is read, and never says that it could not be read. -/
lemma outcome_document {lines : Text.LineTable} {place : Occurrence} :
    (∀ f ∈ (outcome tree options document text lines place).figure?, f.sourcePath = document ∧ f.ordinal = 0) ∧
      ∀ d ∈ (outcome tree options document text lines place).diagnostic?, d.file = document ∧ ¬ d.isUnreadable := by
  rw [outcome]
  split
  · simp [Outcome.figure?, Outcome.diagnostic?, Diagnostic.isUnreadable]
  · split
    · simp [Outcome.figure?, Outcome.diagnostic?, Diagnostic.isUnreadable]
    · split
      · simp [Outcome.figure?, Outcome.diagnostic?, Diagnostic.isUnreadable]
      · dsimp only
        split
        · simp [Outcome.figure?, Outcome.diagnostic?]
        · simp [Outcome.figure?, Outcome.diagnostic?, Diagnostic.isUnreadable]

/-- The figures of a document name it as their source and are not numbered. -/
lemma mem_figures_ofText {f : Figure} (mem : f ∈ (ofText tree options document text).figures) :
    f.sourcePath = document ∧ f.ordinal = 0 := by
  rw [ofText_eq] at mem
  obtain ⟨o, ho, e⟩ := List.mem_filterMap.mp mem
  obtain ⟨place, _, rfl⟩ := List.mem_map.mp ho
  exact outcome_document.1 f e

/-- The diagnostics of a document that was read name it and leave something else out than the document. -/
lemma mem_diagnostics_ofText {d : Diagnostic} (mem : d ∈ (ofText tree options document text).diagnostics) :
    d.file = document ∧ ¬ d.isUnreadable := by
  rw [ofText_eq] at mem
  obtain ⟨o, ho, e⟩ := List.mem_filterMap.mp mem
  obtain ⟨place, _, rfl⟩ := List.mem_map.mp ho
  exact outcome_document.2 d e

end Attribution

section Images

variable {tree other : FileTree} {options : Options} {document : Path} {text : List Char}

/-- An outcome depends on one file only, the image that it has looked for. -/
lemma outcome_congr {lines : Text.LineTable} {place : Occurrence}
    (h : ∀ q ∈ (outcome tree options document text lines place).image?, other.isFile q = tree.isFile q) :
    outcome other options document text lines place = outcome tree options document text lines place := by
  unfold outcome at h ⊢
  dsimp only at h ⊢
  cases comment : Markup.Comment.at? text place.keyword with
  | some comment => rfl
  | none =>
    cases body : Markup.Delimiters.parentheses.block text place.body with
    | error fault => rfl
    | ok block =>
      dsimp only
      cases reference : Markup.firstMatch? Markup.imageReference? block.body with
      | none => rfl
      | some image =>
        simp only [comment, body, reference] at h
        dsimp only
        generalize document.directory.resolveReference (String.ofList image) options.projectRoot = resolved at h ⊢
        -- Whether the image is a file or not, the outcome says where it was looked for.
        have looked : other.isFile resolved = tree.isFile resolved := by
          refine h resolved ?_
          split <;> rfl
        rw [looked]

/-- What a document with a given text yields depends only on which of the images are files that its outcomes have
looked for. -/
lemma ofText_congr
    (h : ∀ o ∈ outcomes tree options document text, ∀ q ∈ o.image?, other.isFile q = tree.isFile q) :
    ofText other options document text = ofText tree options document text := by
  have same : outcomes other options document text = outcomes tree options document text :=
    List.map_congr_left fun place mem => outcome_congr (h _ (List.mem_map_of_mem mem))
  rw [ofText_eq, ofText_eq, same]

end Images

end Extraction

end FigureGallery
