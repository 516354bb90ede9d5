import FigureGallery.Proofs.FileTree.Writing
import FigureGallery.Proofs.Markup.Target
import FigureGallery.Proofs.Scanner.Exclusion
import FigureGallery.Proofs.Scanner.Scan

/-!
# Scans without a root document

When the search for a root document finds none, the active document stands in, and a scan walks the include graph from it
as from any root document. So the active document stands alone just when it includes no other document that exists. This is
so for each document that the search takes into account, since a document with a directive is then its own root document.
It may fail for an active document that the search passes over: one that is excluded, or no file, or of another extension.
-/

namespace FigureGallery

open FileTree FigureGallery.Path

/-- A file as seen from the top has a name. -/
lemma FileTree.exists_pathOf_of_isFile {tree : FileTree} {p : Path} (isFile : tree.isFile (tree.absolute p)) :
    ∃ location name, Location.IsPlain (location ++ [name]) ∧ tree.absolute p = pathOf (location ++ [name]) := by
  have seen := tree.isSeen_absolute p
  generalize tree.absolute p = q at isFile seen
  cases seen with
  | empty =>
    obtain ⟨_, located, _⟩ := isFile_iff.mp isFile
    exact absurd rfl (locate_eq_ok_iff.mp located).1.not_empty
  | @pathOf location plain =>
    obtain rfl | ⟨init, last, rfl⟩ := List.eq_nil_or_concat location
    · rw [isFile_top] at isFile
      exact absurd isFile Bool.false_ne_true
    · rw [List.concat_eq_append] at *
      exact ⟨init, last, plain, rfl⟩

namespace Include

variable {source : Source} {options : Options}

/-- A document without a directive includes nothing. -/
lemma includes_eq_nil {document : Path} (none : ¬ Root.hasDirective source document) :
    (graph source options).includes document = [] := by
  have targets : targetsAt source document = [] := by
    rw [Root.hasDirective] at none
    rw [targetsAt]
    split
    · rename_i text e
      rw [e] at none
      exact by_contra fun nonempty => none (Markup.Directive.startsIn_of_targets_ne_nil nonempty)
    · rfl
  change (targetsAt source document).filterMap _ = []
  rw [targets, List.filterMap_nil]

end Include

namespace Root

variable {source : Source} {filter : Exclusion.Filter} {options : Options} {document projectRoot : Path}

lemma exists_of_isFallback {found : Resolution} (fallback : found.isFallback) :
    ∃ document, found = ⟨document, .activeDocument⟩ := by
  obtain ⟨document, kind⟩ := found
  obtain rfl : kind = .activeDocument := eq_of_beq fallback
  exact ⟨document, rfl⟩

/-- When no root document is found for a file that the search takes into account, the file has no directive. -/
lemma not_hasDirective_of_fallback {location : Location} {name : String} (plain : Location.IsPlain (location ++ [name]))
    (nothing : ∀ d ∈ directories (pathOf (location ++ [name])) projectRoot, inDirectory? source filter options d = none)
    (isFile : source.tree.isFile (pathOf (location ++ [name])))
    (has : (pathOf (location ++ [name])).hasExtension options.extension)
    (kept : filter.excludes source.tree (pathOf (location ++ [name])) = false) :
    ¬ hasDirective source (pathOf (location ++ [name])) := by
  intro directive
  have way := way_directories (pathOf (location ++ [name])) projectRoot
  rw [normalize_pathOf plain, parent?_pathOf_concat plain] at way
  have here := inDirectory?_eq_none_iff.mp (nothing _ way.mem_first) name
  have joined : (pathOf location).join ⟨name⟩ = pathOf (location ++ [name]) :=
    join_pathOf plain.above plain.last
  rw [qualifies_iff, mem_candidates_iff, joined] at here
  exact here ⟨⟨⟨mem_list_of_isFile plain isFile, has, isFile⟩, kept⟩, directive⟩

end Root

namespace Scanner

open Include

/-- A document that the search for a root document takes into account. -/
structure IsCandidate (scanner : Scanner) (source : Source) (document : Path) : Prop where
  isFile : source.tree.isFile document
  hasExtension : document.hasExtension scanner.options.extension
  kept : scanner.filter.excludes source.tree document = false

/-- No document but the root document is listed. -/
def StandsAlone (scan : Scan) : Prop :=
  scan.documents = [] ∨ scan.documents = [scan.root.document]

variable {scanner : Scanner} {source : Source} {active document : Path}

/-- A candidate that stands in for a root document has no directive. -/
lemma IsCandidate.not_hasDirective (candidate : scanner.IsCandidate source document)
    (found : scanner.resolveRoot source active = ⟨document, .activeDocument⟩) : ¬ Root.hasDirective source document := by
  obtain ⟨isFile, has, kept⟩ := candidate
  obtain rfl := resolveRoot_of_activeDocument found
  have stands : Root.resolve source scanner.filter ⟨scanner.options.extension, scanner.options.preferredRoots⟩
      (source.tree.absolute active) scanner.projectRoot = ⟨(source.tree.absolute active).normalize, .activeDocument⟩ := by
    rw [source.tree.normalize_absolute]
    exact found
  have nothing := Root.resolve_eq_activeDocument_iff.mp stands
  obtain ⟨location, name, plain, e⟩ := exists_pathOf_of_isFile isFile
  rw [e] at isFile has kept nothing ⊢
  exact Root.not_hasDirective_of_fallback plain nothing isFile has kept

section Walk

variable {kind : Root.Kind} (found : scanner.resolveRoot source active = ⟨document, kind⟩)

include found

lemma root_scan : (scanner.scan source active).root = ⟨document, kind⟩ := by
  rw [scan, found]

/-- A scan lists what a walk from the root document does. -/
lemma documents_scan :
    (scanner.scan source active).documents = (walk source scanner.walkOptions document).documents := by
  rw [scan, found]

/-- The figures of a scan are in the documents that it lists. -/
lemma sourcePath_mem_of_mem_figures {f : Figure} (mem : f ∈ (scanner.scan source active).figures) :
    f.sourcePath ∈ (scanner.scan source active).documents := by
  have listed := List.mem_map_of_mem (f := Figure.sourcePath) mem
  rw [documents_scan found]
  rw [scan, found, Figure.map_sourcePath_numbered] at listed
  obtain ⟨g, mem', same⟩ := List.mem_map.mp listed
  exact same ▸ mem_walk_of_said.1 g mem'

end Walk

/-- When a scan has no root document, the active document stands in for it as seen from the top, and stands alone just
when it includes no other document that exists. Nothing is listed when it does not exist itself. A document that the
search for a root document takes into account stands alone, since it has no directive; so one that does not stand alone is
excluded, or no file, or of another extension. The figures of a document that stands alone are its own. -/
theorem standsAlone_iff_of_fallback (scanner : Scanner) (source : Source) (active : Path)
    (fallback : (scanner.resolveRoot source active).isFallback) :
    let scan := scanner.scan source active
    let document := source.tree.absolute active
    scan.root = ⟨document, .activeDocument⟩ ∧
    (scan.documents = [] ↔ ¬ source.isReachable document) ∧
    (StandsAlone scan ↔ ∀ next ∈ (graph source scanner.walkOptions).includes document,
      source.isReachable document → source.isReachable next → next.same document) ∧
    (scanner.IsCandidate source document → scan.documents = [document]) ∧
    (StandsAlone scan → ∀ f ∈ scan.figures, f.sourcePath = document) := by
  intro scan document
  obtain ⟨other, found⟩ := Root.exists_of_isFallback fallback
  have stands : other = document := resolveRoot_of_activeDocument found
  have normal : other.normalize = other := by rw [stands]; exact source.tree.normalize_absolute active
  have root : scan.root = ⟨other, .activeDocument⟩ := root_scan found
  have nothing := @walk_eq_nil_iff source scanner.walkOptions other
  have single := @walk_eq_singleton_iff source scanner.walkOptions other
  rw [← documents_scan found, normal] at nothing single
  rw [← stands]
  refine ⟨root, nothing, ?_, fun candidate => ?_, ?_⟩
  · rw [StandsAlone, root, nothing, single]
    constructor
    · rintro (missing | ⟨_, alone⟩) next mem there
      · exact absurd there missing
      · exact alone next mem
    · intro alone
      by_cases there : source.isReachable other
      · exact .inr ⟨there, fun next mem => alone next mem there⟩
      · exact .inl there
  · rw [single]
    refine ⟨by rw [Source.isReachable, candidate.isFile, Bool.or_true], fun next mem => ?_⟩
    rw [includes_eq_nil (candidate.not_hasDirective found)] at mem
    cases mem
  · intro alone f mem
    have listed := sourcePath_mem_of_mem_figures found mem
    obtain empty | single := alone
    · rw [empty] at listed
      cases listed
    · rw [single, root] at listed
      exact List.mem_singleton.mp listed

/-- An excluded document whose include is a file: the scan lists both, with the figure of the include. -/
theorem standsAlone_iff_of_fallback_excluded :
    let source : Source := .ofTree ⟨[(["w"], .directory), (["w", "main.typ"], .file "#include \"b.typ\"".toUTF8),
      (["w", "b.typ"], .file "#figure(image(\"p.png\"))".toUTF8), (["w", "p.png"], .file "".toUTF8)], []⟩
    let options : ScanOptions := { ScanOptions.default with excludePatterns := ["main.typ"] }
    let active : Path := ⟨"/w/main.typ"⟩
    ∃ scanner, make source.tree ⟨"/w"⟩ options = .ok scanner ∧ (scanner.resolveRoot source active).isFallback ∧
      (scanner.scan source active).documents = [active, ⟨"/w/b.typ"⟩] ∧
      (scanner.scan source active).figures.map Figure.sourcePath = [⟨"/w/b.typ"⟩] ∧
      ¬ StandsAlone (scanner.scan source active) ∧ ¬ scanner.IsCandidate source active := by
  intro source options active
  obtain ⟨scanner, made⟩ := @exists_make source.tree ⟨"/w"⟩ options (by decide +kernel)
  have fallback : (scanner.resolveRoot source active).isFallback :=
    eq_of_make made (f := fun s => (s.resolveRoot source active).isFallback) (by decide +kernel)
  have documents : (scanner.scan source active).documents = [active, ⟨"/w/b.typ"⟩] :=
    eq_of_make made (f := fun s => (s.scan source active).documents) (by decide +kernel)
  have figures : (scanner.scan source active).figures.map Figure.sourcePath = [⟨"/w/b.typ"⟩] :=
    eq_of_make made (f := fun s => (s.scan source active).figures.map Figure.sourcePath) (by decide +kernel)
  obtain ⟨_, _, _, candidate, own⟩ := standsAlone_iff_of_fallback scanner source active fallback
  have seen : source.tree.absolute active = active := by decide +kernel
  rw [seen, documents] at candidate
  refine ⟨scanner, made, fallback, documents, figures, fun alone => ?_, fun is => absurd (candidate is) (by simp)⟩
  obtain ⟨f, mem, elsewhere⟩ := List.mem_map.mp (figures ▸ List.mem_singleton_self (⟨"/w/b.typ"⟩ : Path))
  have other : (⟨"/w/b.typ"⟩ : Path) = active := elsewhere.symm.trans ((own alone f mem).trans seen)
  exact absurd other (by decide)

end Scanner

end FigureGallery
