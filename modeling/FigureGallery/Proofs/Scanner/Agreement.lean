import FigureGallery.Proofs.Include.Agreement
import FigureGallery.Proofs.Root.Search
import FigureGallery.Scanner

/-!
# Scans of sources that agree

The root of a project is absolute or empty, and the root document of a scan has the extension of documents when the
active document has it. Two sources with the same root document and the same walk from it give the same scan.
-/

namespace FigureGallery

open FigureGallery.Path

/-- What is computed of a result holds of the value that it is. -/
lemma exists_ok_of_map {ε α β : Type} {result : Except ε α} {f : α → β} {b : β}
    (h : result.toOption.map f = some b) : ∃ a, result = .ok a ∧ f a = b := by
  cases result with
  | error e => simp [Except.toOption] at h
  | ok a => exact ⟨a, rfl, Option.some.inj h⟩

/-- Every path but the empty one is absolute as seen from the top. -/
lemma FileTree.isAbsolute_absolute (tree : FileTree) {p : Path} (h : p.text ≠ "") : (tree.absolute p).isAbsolute := by
  rw [absolute, Path.absolute, if_neg h, isAbsolute_normalize]
  exact isAbsolute_join (isAbsolute_pathOf _) p

/-- A path as seen from the top is in normal form. -/
@[simp]
lemma FileTree.normalize_absolute (tree : FileTree) (p : Path) : (tree.absolute p).normalize = tree.absolute p := by
  rw [absolute, Path.absolute]
  split
  · rename_i empty
    obtain ⟨text⟩ := p
    subst empty
    rfl
  · exact normalize_normalize _

/-- A path as seen from the top is seen from there as it is. -/
lemma FileTree.absolute_absolute (tree : FileTree) (p : Path) : tree.absolute (tree.absolute p) = tree.absolute p := by
  by_cases empty : p.text = ""
  · have same : tree.absolute p = p := by rw [absolute, Path.absolute, if_pos empty]
    rw [same, same]
  · obtain ⟨location, plain, e⟩ := exists_normalize_eq_pathOf (tree.isAbsolute_absolute empty)
    rw [normalize_absolute] at e
    rw [e, absolute_pathOf tree plain]

/-- The normal form of an absolute path is in the same place. -/
lemma FileTree.absolute_normalize (tree : FileTree) {p : Path} (h : p.isAbsolute) :
    tree.absolute p.normalize = tree.absolute p := by
  have seen {q : Path} (h : q.isAbsolute) : tree.absolute q = q.normalize := by
    have not_empty : q.text ≠ "" := fun empty => by simp [isAbsolute, empty] at h
    rw [absolute, Path.absolute, if_neg not_empty, join_of_isAbsolute _ h]
  rw [seen h, seen (by rwa [isAbsolute_normalize]), normalize_normalize]

namespace Scanner

variable {scanner : Scanner} {source : Source} {active : Path}

/-- A scanner is made for the root in normal form, with the options. -/
lemma of_make {tree : FileTree} {root : Path} {options : ScanOptions} (made : make tree root options = .ok scanner) :
    scanner.projectRoot = tree.absolute root ∧ scanner.options = options := by
  unfold make at made
  dsimp only at made
  split at made
  · obtain rfl := Except.ok.inj made
    exact ⟨rfl, rfl⟩
  · simp at made

/-- A scanner is made with the filter for its root. -/
lemma make_filter {tree : FileTree} {root : Path} {options : ScanOptions} (made : make tree root options = .ok scanner) :
    Exclusion.Filter.make tree (tree.absolute root) options.excludePatterns options.disableGitignore =
      .ok scanner.filter := by
  unfold make at made
  dsimp only at made
  split at made
  · rename_i filter ruled
    obtain rfl := Except.ok.inj made
    exact ruled
  · simp at made

/-- What is computed of the scanner that is made holds of it. -/
lemma eq_of_make {tree : FileTree} {root : Path} {options : ScanOptions} (made : make tree root options = .ok scanner)
    {α : Type} {f : Scanner → α} {a : α} (h : (make tree root options).toOption.map f = some a) : f scanner = a := by
  rw [made] at h
  exact Option.some.inj h

/-- A scanner that can be computed can be made. -/
lemma exists_make {tree : FileTree} {root : Path} {options : ScanOptions}
    (h : (make tree root options).toOption.isSome) : ∃ scanner, make tree root options = .ok scanner := by
  cases made : make tree root options with
  | ok scanner => exact ⟨scanner, rfl⟩
  | error fault => simp [made, Except.toOption] at h

/-- The root of a project is absolute, or empty. -/
lemma isAbsolute_projectRoot {tree : FileTree} {root : Path} {options : ScanOptions}
    (made : make tree root options = .ok scanner) (h : scanner.projectRoot.text ≠ "") :
    scanner.projectRoot.isAbsolute := by
  rw [(of_make made).1] at h ⊢
  refine tree.isAbsolute_absolute fun empty => h ?_
  rw [FileTree.absolute, Path.absolute, if_pos empty, empty]

/-- Directories are searched for an absolute path only, since the empty path has none above it. -/
lemma isAbsolute_of_mem_directories {tree : FileTree} {directory projectRoot : Path}
    (mem : directory ∈ Root.directories (tree.absolute active) projectRoot) : (tree.absolute active).isAbsolute := by
  refine tree.isAbsolute_absolute fun empty => ?_
  have above := Root.mem_ancestors_of_mem_directories mem
  rw [FileTree.absolute, Path.absolute, if_pos empty] at above
  obtain ⟨text⟩ := active
  subst empty
  simp [show (⟨""⟩ : Path).normalize.ancestors = [] by decide] at above

/-- The root document of a scan for a document is an absolute path, and has the extension of documents. -/
lemma resolveRoot_document (has : active.hasExtension scanner.options.extension) :
    (scanner.resolveRoot source active).document.hasExtension scanner.options.extension ∧
      (scanner.resolveRoot source active).document.isAbsolute := by
  obtain ⟨s, name, _⟩ := hasExtension_iff.mp has
  have absolute : (source.tree.absolute active).isAbsolute := by
    refine source.tree.isAbsolute_absolute fun empty => ?_
    simp [fileName?_eq_some_iff, components_eq_nil.mpr empty] at name
  have named : (source.tree.absolute active).hasExtension scanner.options.extension :=
    hasExtension_of_fileName?_eq has fun _ => source.tree.fileName?_absolute
  unfold resolveRoot
  let options : Root.Options := ⟨scanner.options.extension, scanner.options.preferredRoots⟩
  exact ⟨@Root.hasExtension_resolve source scanner.filter options _ scanner.projectRoot named,
    Root.isAbsolute_resolve absolute⟩

/-- Nothing is searched for the empty path, which is its own root document. -/
lemma resolveRoot_document_of_relative (relative : ¬ (source.tree.absolute active).isAbsolute) :
    (scanner.resolveRoot source active).document = ⟨""⟩ := by
  have empty : active.text = "" := by
    by_contra not_empty
    exact relative (source.tree.isAbsolute_absolute not_empty)
  unfold resolveRoot Root.resolve
  split
  · rename_i found
    obtain ⟨directory, mem, _⟩ := List.exists_of_findSome?_eq_some found
    exact absurd (isAbsolute_of_mem_directories mem) relative
  · obtain ⟨text⟩ := active
    subst empty
    rfl

/-- The walk of a scan starts at the root document. -/
lemma absolute_resolveRoot : source.tree.absolute (scanner.resolveRoot source active).document.normalize =
    source.tree.absolute (scanner.resolveRoot source active).document := by
  by_cases absolute : (source.tree.absolute active).isAbsolute
  · refine source.tree.absolute_normalize ?_
    unfold resolveRoot
    exact Root.isAbsolute_resolve absolute
  · rw [resolveRoot_document_of_relative absolute]
    rfl

/-- Over trees of one shape a scan has the same root document, if the documents in the directories to search are read
alike. -/
lemma resolveRoot_congr {other : Source} (shape : source.tree.SameShape other.tree)
    (read : ∀ directory ∈ Root.directories (source.tree.absolute active) scanner.projectRoot,
      ∀ name ∈ source.tree.list directory, scanner.isMarkup (directory.join ⟨name⟩) →
        other.read (directory.join ⟨name⟩) = source.read (directory.join ⟨name⟩)) :
    scanner.resolveRoot other active = scanner.resolveRoot source active := by
  unfold resolveRoot
  rw [shape.absolute_eq]
  exact Root.resolve_eq_of_sameShape shape read

/-- Sources with the same root document and the same walk from it give the same scan. -/
lemma scan_congr {other : Source} (root : scanner.resolveRoot other active = scanner.resolveRoot source active)
    (same : Include.walk other scanner.walkOptions (scanner.resolveRoot source active).document =
      Include.walk source scanner.walkOptions (scanner.resolveRoot source active).document) :
    scanner.scan other active = scanner.scan source active := by
  unfold scan
  dsimp only
  rw [root, same]

end Scanner

end FigureGallery
