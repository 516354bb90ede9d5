import FigureGallery.Include.Walk
import FigureGallery.Proofs.Figure.Outcome
import FigureGallery.Proofs.Include.Search

/-!
# The walker as a search

A walk keeps one state through a recursion: the visited documents, the listed ones, and all that was extracted. With
enough depth this recursion is the search of the include graph, and what it has extracted is at every moment what the
documents listed so far yield, one after another.
-/

namespace FigureGallery.Include

open Markup

/-- The targets of the directives of a document; there are none in a document that cannot be read. -/
def targetsAt (source : Source) (document : Path) : List (List Char) :=
  match source.read document with
  | .ok text => Directive.targets text
  | .error _ => []

/-- The include graph of a source: a document includes what its targets name, packages aside. -/
def graph (source : Source) (options : Options) : Graph where
  isReachable := source.isReachable
  includes document := (targetsAt source document).filterMap (resolveTarget options document.directory)

/-- What one document yields. -/
def extract (source : Source) (options : Options) (document : Path) : Extraction :=
  match source.read document with
  | .ok text => .ofText source.tree options.extraction document text
  | .error e => unreadable document e

/-- What documents yield, one after another. -/
def extractAll (source : Source) (options : Options) (documents : List Path) : Extraction :=
  ⟨documents.flatMap fun d => (extract source options d).figures,
    documents.flatMap fun d => (extract source options d).diagnostics⟩

/-- One more document adds what it yields at the end. -/
lemma extractAll_concat (source : Source) (options : Options) (documents : List Path) (document : Path) :
    extractAll source options (documents ++ [document]) =
      (extractAll source options documents).append (extract source options document) := by
  simp [extractAll, Extraction.append]

/-- What a document yields is about this document. -/
lemma extract_document {source : Source} {options : Options} {document : Path} :
    (extract source options document).figures.map Figure.sourcePath =
        (extract source options document).figures.map (fun _ => document) ∧
      (extract source options document).diagnostics.map Diagnostic.file =
        (extract source options document).diagnostics.map fun _ => document := by
  rw [extract]
  split
  · refine ⟨List.map_congr_left fun f mem => ?_, List.map_congr_left fun d mem => ?_⟩
    · exact (Extraction.mem_figures_ofText mem).1
    · exact (Extraction.mem_diagnostics_ofText mem).1
  · exact ⟨rfl, rfl⟩

/-- Whether a walker has met a document, as a statement. -/
lemma Walker.hasMet_iff {walker : Walker} {document : Path} : walker.hasMet document ↔ Met walker.visited document := by
  simp [hasMet, Met, List.any_eq_true]

/-- A walker whose lists agree: the visited documents exist and are distinct, they are the listed ones in reverse, and
what was extracted is what they yield. -/
structure Walker.Consistent (source : Source) (options : Options) (walker : Walker) : Prop where
  distinct : Distinct walker.visited
  reachable : ∀ d ∈ walker.visited, source.isReachable d
  documents : walker.walk.documents = walker.visited.reverse
  extraction : walker.walk.extraction = extractAll source options walker.walk.documents

variable {source : Source} {options : Options}

/-- A walker that has met nothing is consistent. -/
lemma Walker.Consistent.start : Walker.start.Consistent source options where
  distinct := .nil
  reachable := by simp [Walker.start]
  documents := rfl
  extraction := rfl

/-- Meeting a new document and recording what it yields keeps a walker consistent. -/
lemma Walker.Consistent.enter {walker : Walker} {document : Path} (ok : walker.Consistent source options)
    (fresh : ¬ Met walker.visited document) (reachable : source.isReachable document) :
    ((walker.enter document).record (extract source options document)).Consistent source options where
  distinct := .cons (fun d mem same => fresh ⟨d, mem, same⟩) ok.distinct
  reachable := by
    intro d mem
    obtain rfl | mem := List.mem_cons.mp mem
    · exact reachable
    · exact ok.reachable d mem
  documents := by simp [Walker.record, Walker.enter, ok.documents]
  extraction := by
    change walker.walk.extraction.append _ = extractAll source options (walker.walk.documents ++ [document])
    rw [extractAll_concat, ← ok.extraction]

/-- What a step of a walk does: it keeps the walker consistent and searches the given documents. -/
def Walks (source : Source) (options : Options) (walker : Walker) (pending : List Path) (after : Walker) : Prop :=
  after.Consistent source options ∧ (graph source options).Search walker.visited pending after.visited

/-- Visiting the targets of a text one after another searches the documents that the text includes. -/
lemma walks_foldl {n depth : Nat} (directory : Path) {visit : Walker → Path → Walker}
    (spec : ∀ walker document, walker.Consistent source options → n ≤ walker.visited.length + depth →
      Walks source options walker [document] (visit walker document))
    (targets : List (List Char)) (walker : Walker) (ok : walker.Consistent source options)
    (enough : n ≤ walker.visited.length + depth) :
    Walks source options walker (targets.filterMap (resolveTarget options directory))
      (targets.foldl
        (fun walker target => match resolveTarget options directory target with
          | some next => visit walker next
          | none => walker)
        walker) := by
  induction targets generalizing walker with
  | nil => exact ⟨ok, .done⟩
  | cons target targets ih =>
    rw [List.foldl_cons]
    cases e : resolveTarget options directory target with
    | none =>
      rw [List.filterMap_cons_none e]
      exact ih walker ok enough
    | some next =>
      rw [List.filterMap_cons_some e]
      obtain ⟨ok', run⟩ := spec walker next ok enough
      -- Documents are only added, so the depth that is left still suffices for the other targets.
      obtain ⟨found, grown⟩ := run.extends
      obtain ⟨ok'', run'⟩ := ih (visit walker next) ok' (by rw [grown, List.length_append]; omega)
      exact ⟨ok'', run.append run'⟩

/-- With as much depth as documents can still be met, a visit is a search. -/
lemma walks_visit {n : Nat} (bounded : (graph source options).Bounded n) (depth : Nat) (walker : Walker)
    (document : Path) (ok : walker.Consistent source options) (enough : n ≤ walker.visited.length + depth) :
    Walks source options walker [document] (visit source options depth walker document) := by
  induction depth generalizing walker document with
  | zero =>
    -- There is no depth left, but no new document either.
    refine ⟨ok, .pass ?_ .done⟩
    by_contra h
    obtain ⟨fresh, reachable⟩ := not_or.mp h
    have := bounded (document :: walker.visited)
      (.cons (fun d mem same => fresh ⟨d, mem, same⟩) ok.distinct)
      (List.forall_mem_cons.mpr ⟨not_not.mp reachable, ok.reachable⟩)
    rw [List.length_cons] at this
    omega
  | succ depth ih =>
    rw [visit]
    by_cases met : Met walker.visited document
    · rw [if_pos (Walker.hasMet_iff.mpr met)]
      exact ⟨ok, .pass (.inl met) .done⟩
    · rw [if_neg (mt Walker.hasMet_iff.mp met)]
      by_cases reachable : source.isReachable document
      · rw [if_pos reachable]
        have entered := ok.enter met reachable
        cases e : source.read document with
        | error err =>
          have includes : (graph source options).includes document = [] := by simp [graph, targetsAt, e]
          rw [extract, e] at entered
          exact ⟨entered, .enter met reachable (includes ▸ .done) .done⟩
        | ok text =>
          have includes : (graph source options).includes document =
              (Directive.targets text).filterMap (resolveTarget options document.directory) := by
            simp [graph, targetsAt, e]
          rw [extract, e] at entered
          obtain ⟨ok', run⟩ := walks_foldl document.directory ih (Directive.targets text) _ entered
            (by simp only [Walker.record, Walker.enter, List.length_cons]; omega)
          exact ⟨ok', .enter met reachable (includes ▸ run) .done⟩
      · rw [if_neg reachable]
        exact ⟨ok, .pass (.inr reachable) .done⟩

end FigureGallery.Include
