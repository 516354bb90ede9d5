import FigureGallery.Proofs.Root.Nearest
import FigureGallery.Proofs.Scanner.Agreement

/-!
# One root document for a project

Searches for a root document that start at different levels take the same directories from where they meet. So all
documents on the way from the active document up to its root document have this root document, and the root document has
itself.
-/

namespace FigureGallery

open FileTree FigureGallery.Path

namespace Root

variable {source : Source} {filter : Exclusion.Filter} {options : Options} {document active projectRoot : Path}

/-- Searches that start in one of the directories up to that of a root document find this root document. -/
lemma exists_of_resolve_eq (found : resolve source filter options active projectRoot = ⟨document, .ancestor⟩) :
    ∃ nearer directory further, directories active projectRoot = nearer ++ directory :: further ∧
      inDirectory? source filter options directory = some document ∧
      ∀ d ∈ nearer ++ [directory], ∀ b : Path, b.normalize.parent? = some d →
        resolve source filter options b projectRoot = ⟨document, .ancestor⟩ := by
  obtain ⟨nearer, directory, further, e, fail, here⟩ := resolve_eq_ancestor_iff.mp found
  refine ⟨nearer, directory, further, e, here, fun d mem b parent => ?_⟩
  obtain ⟨before, rest, rfl, first⟩ : ∃ before rest, nearer = before ++ rest ∧
      (rest ++ directory :: further).head? = some d := by
    obtain mem | mem := List.mem_append.mp mem
    · obtain ⟨before, after, rfl⟩ := List.append_of_mem mem
      exact ⟨before, d :: after, rfl, rfl⟩
    · obtain rfl := List.mem_singleton.mp mem
      exact ⟨nearer, [], (List.append_nil nearer).symm, rfl⟩
  -- From here on both searches take the same directories.
  have way := way_directories active projectRoot
  rw [e, List.append_assoc] at way
  have onward := way.suffix
  rw [first, ← parent] at onward
  exact resolve_eq_ancestor_iff.mpr ⟨rest, directory, further, (way_directories b projectRoot).unique onward,
    fun x mem => fail x (List.mem_append_right _ mem), here⟩

/-- The root document in a directory has a name there, and is not excluded. -/
lemma exists_pathOf_of_inDirectory? (plain : source.tree.IsPlain) {location : Location} (located : location.IsPlain)
    (here : inDirectory? source filter options (pathOf location) = some document) :
    ∃ name, Location.IsPlain (location ++ [name]) ∧ document = pathOf (location ++ [name]) ∧
      filter.excludes source.tree document = false := by
  obtain ⟨name, qualifies, _, rfl⟩ := inDirectory?_eq_some_iff_least.mp here
  have named : Plain name.toList := plain.of_mem_list qualifies.listed
  exact ⟨name, List.forall_mem_append.mpr ⟨located, List.forall_mem_singleton.mpr named⟩, join_pathOf located named,
    qualifies.kept⟩

end Root

namespace Scanner

variable {scanner : Scanner} {source : Source} {a b : Path}

/-- The filter of a scanner is bound to a root in normal form. -/
lemma isSound_filter {tree : FileTree} {root : Path} {options : ScanOptions} (made : make tree root options = .ok scanner) :
    scanner.filter.IsSound :=
  .inr ⟨tree, tree.absolute root, options.excludePatterns, options.disableGitignore, tree.normalize_absolute root,
    make_filter made⟩

/-- Documents in the directories up to that of a root document have this root document, and so has the root document. -/
lemma resolveRoot_eq_of_ancestor (plain : source.tree.IsPlain) {document : Path}
    (found : scanner.resolveRoot source a = ⟨document, .ancestor⟩) :
    (source.tree.absolute document).directory = document.directory ∧
      document.directory ∈ (source.tree.absolute a).ancestors ∧
      ∀ d ∈ (source.tree.absolute a).ancestors, d.isBelow document.directory →
        ∀ b, (source.tree.absolute b).directory = d → scanner.resolveRoot source b = ⟨document, .ancestor⟩ := by
  obtain ⟨nearer, directory, further, e, here, shared⟩ := Root.exists_of_resolve_eq found
  have mem : directory ∈ Root.directories (source.tree.absolute a) scanner.projectRoot := by simp [e]
  obtain ⟨location, located, rfl⟩ := Root.exists_pathOf_of_mem_directories (isAbsolute_of_mem_directories mem) mem
  obtain ⟨name, whole, rfl, _⟩ := Root.exists_pathOf_of_inDirectory? plain located here
  rw [directory_pathOf_concat whole, source.tree.absolute_pathOf whole, directory_pathOf_concat whole]
  have above := Root.mem_ancestors_of_mem_directories mem
  rw [source.tree.normalize_absolute] at above
  refine ⟨rfl, above, fun d hd below b inside => ?_⟩
  have way := Root.way_directories (source.tree.absolute a) scanner.projectRoot
  rw [e, source.tree.normalize_absolute] at way
  have parent : (source.tree.absolute b).parent? = some d := by
    rw [Path.directory] at inside
    cases parent : (source.tree.absolute b).parent? with
    | none =>
      -- Nothing is below the top but what starts there.
      rw [parent, Option.getD_none] at inside
      subst inside
      rw [isBelow, components_pathOf located] at below
      simp [components_eq_nil.mpr] at below
    | some q =>
      rw [parent] at inside
      exact congrArg some inside
  exact shared d (way.mem_of_isBelow hd below) _ (by rwa [source.tree.normalize_absolute])

/-- The active document stands in as it is seen from the top. -/
lemma resolveRoot_of_activeDocument {document : Path} (found : scanner.resolveRoot source a = ⟨document, .activeDocument⟩) :
    document = source.tree.absolute a := by
  unfold resolveRoot Root.resolve at found
  split at found
  · simp at found
  · rw [source.tree.normalize_absolute] at found
    exact (congrArg Root.Resolution.document found).symm

/-- From one document to another of a project, the root document stays. A root document is its own root document. If it was
found in a directory above a document, it is that of all documents in the directories from that of the document up to its
own one. No search meets a file that the filter cannot be asked about. -/
theorem resolveRoot_shared {tree₀ : FileTree} {root : Path} {options : ScanOptions}
    (made : make tree₀ root options = .ok scanner) (plain : source.tree.IsPlain) (a : Path) :
    let found := scanner.resolveRoot source a
    scanner.resolveRoot source found.document = found ∧
    (found.kind = .ancestor →
      found.document.directory ∈ (source.tree.absolute a).ancestors ∧
      ∀ d ∈ (source.tree.absolute a).ancestors, d.isBelow found.document.directory →
        ∀ b, (source.tree.absolute b).directory = d → scanner.resolveRoot source b = found) ∧
    ∀ b, Root.isLost source scanner.filter ⟨scanner.options.extension, scanner.options.preferredRoots⟩
      (source.tree.absolute b) scanner.projectRoot = false := by
  intro found
  have notLost (b : Path) := Root.isLost_eq_false (isSound_filter made) plain
    ⟨scanner.options.extension, scanner.options.preferredRoots⟩ (source.tree.absolute b) scanner.projectRoot
  cases e : found with
  | mk document kind =>
    cases kind with
    | ancestor =>
      obtain ⟨own, above, shared⟩ := resolveRoot_eq_of_ancestor plain e
      have below : document.directory.isBelow document.directory := by simp [isBelow]
      exact ⟨shared _ above below document own, fun _ => ⟨above, shared⟩, notLost⟩
    | activeDocument =>
      refine ⟨?_, fun ancestor => absurd ancestor (by simp), notLost⟩
      have stands : document = source.tree.absolute a := resolveRoot_of_activeDocument e
      calc scanner.resolveRoot source document
        _ = scanner.resolveRoot source (source.tree.absolute a) := by rw [← stands]
        _ = scanner.resolveRoot source a := by unfold resolveRoot; rw [source.tree.absolute_absolute]
        _ = ⟨document, .activeDocument⟩ := e

/-- A chapter and a document next to it, which share a root document two directories above. -/
theorem resolveRoot_shared_chapters :
    let source : Source := .ofTree ⟨[(["w"], .directory), (["w", "main.typ"], .file "#include \"s/t/a.typ\"".toUTF8),
      (["w", "s"], .directory), (["w", "s", "t"], .directory), (["w", "s", "t", "a.typ"], .file "".toUTF8)], []⟩
    let found : Root.Resolution := ⟨⟨"/w/main.typ"⟩, .ancestor⟩
    ∃ scanner, make source.tree ⟨"/w"⟩ .default = .ok scanner ∧ source.tree.IsPlain ∧
      scanner.resolveRoot source ⟨"/w/s/t/a.typ"⟩ = found ∧ scanner.resolveRoot source ⟨"/w/main.typ"⟩ = found ∧
      scanner.resolveRoot source ⟨"/w/s/new.typ"⟩ = found := by
  intro source found
  obtain ⟨scanner, made⟩ := @exists_make source.tree ⟨"/w"⟩ .default (by decide +kernel)
  have plain : source.tree.IsPlain := by decide +kernel
  have chapter : scanner.resolveRoot source ⟨"/w/s/t/a.typ"⟩ = found :=
    eq_of_make made (f := fun s => s.resolveRoot source ⟨"/w/s/t/a.typ"⟩) (by decide +kernel)
  obtain ⟨own, shared, _⟩ := resolveRoot_shared made plain ⟨"/w/s/t/a.typ"⟩
  rw [chapter] at own shared
  obtain ⟨_, shared⟩ := shared rfl
  exact ⟨scanner, made, plain, chapter, own,
    shared ⟨"/w/s"⟩ (by decide +kernel) (by decide +kernel) ⟨"/w/s/new.typ"⟩ (by decide +kernel)⟩

end Scanner

end FigureGallery
