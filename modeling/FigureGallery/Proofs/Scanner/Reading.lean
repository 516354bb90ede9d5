import FigureGallery.Proofs.Scanner.Agreement

/-!
# What a scan reads

A scan looks into the documents that it lists, and into the documents in the directories that it searches for the root
document. Of all other files it only sees whether they exist. So two trees of one shape in which these documents have the
same contents give the same scan: the search for the root document comes to the same end, and from there each document
has the same text and leads to the same documents.
-/

namespace FigureGallery

open Include FileTree FigureGallery.Path

namespace Scanner

/-- The files that a scan of a tree may look into. -/
inductive Reads (scanner : Scanner) (tree : FileTree) (active : Path) : Path → Prop where
  | document {d} :
    d ∈ (scanner.scan (.ofTree tree) active).documents →
    Reads scanner tree active d
  /-- A document in a directory above the active one, up to the project root or, from outside the project, to the top. -/
  | candidate {directory name} :
    directory ∈ (tree.absolute active).ancestors →
    ((tree.absolute active).directory.isBelow scanner.projectRoot → directory.isBelow scanner.projectRoot) →
    name ∈ tree.list directory →
    scanner.isMarkup (directory.join ⟨name⟩) →
    Reads scanner tree active (directory.join ⟨name⟩)

variable {scanner : Scanner} {tree other : FileTree} {active : Path}

/-- The documents in the directories that are searched for the root document are read. -/
lemma reads_of_mem_directories {tree₀ : FileTree} {root : Path} {options : ScanOptions}
    (made : make tree₀ root options = .ok scanner) {directory : Path} {name : String}
    (mem : directory ∈ Root.directories (tree.absolute active) scanner.projectRoot) (listed : name ∈ tree.list directory)
    (markup : scanner.isMarkup (directory.join ⟨name⟩)) : scanner.Reads tree active (directory.join ⟨name⟩) := by
  have normal : scanner.projectRoot.normalize = scanner.projectRoot := by
    rw [(of_make made).1, tree₀.normalize_absolute]
  refine .candidate ?_ (fun inside => ?_) listed markup
  · have above := Root.mem_ancestors_of_mem_directories mem
    rwa [tree.normalize_absolute] at above
  · rw [← normal] at inside ⊢
    exact Root.isBelow_of_mem_directories (by rwa [tree.normalize_absolute]) mem

/-- Both trees have the same root document. -/
lemma resolveRoot_eq_of_sameShape {tree₀ : FileTree} {root : Path} {options : ScanOptions}
    (made : make tree₀ root options = .ok scanner) (shape : tree.SameShape other)
    (same : ∀ p, scanner.Reads tree active p → tree.SameContent other p) :
    scanner.resolveRoot (.ofTree other) active = scanner.resolveRoot (.ofTree tree) active := by
  refine resolveRoot_congr shape fun directory mem name listed markup => ?_
  exact Source.read_eq_of_sameShape shape fun _ => same _ (reads_of_mem_directories made mem listed markup)

/-- The walk from the root document is the same in both trees. -/
lemma walk_eq_of_sameShape (shape : tree.SameShape other)
    (same : ∀ p, scanner.Reads tree active p → tree.SameContent other p) :
    walk (.ofTree other) scanner.walkOptions (scanner.resolveRoot (.ofTree tree) active).document =
      walk (.ofTree tree) scanner.walkOptions (scanner.resolveRoot (.ofTree tree) active).document := by
  have isFile (q : Path) : (Source.ofTree other).isReachable q = (Source.ofTree tree).isReachable q :=
    shape.isFile_eq q
  have read {d : Path} (mem : d ∈ (walk (.ofTree tree) scanner.walkOptions
      (scanner.resolveRoot (.ofTree tree) active).document).documents) :
      (Source.ofTree other).read d = (Source.ofTree tree).read d :=
    Source.read_eq_of_sameShape shape fun _ => same d (.document mem)
  exact walk_congr (isFile _) (fun d mem => read mem) (fun d _ q _ => isFile q) fun d mem => extract_congr shape (read mem)

/-- Two trees with the same directories and files give the same scan, whatever the files contain, as long as the documents
that the first scan lists have the same contents in both, and so have the documents in the directories from that of the
active document up to the project root, or up to the top from outside the project. -/
theorem scan_eq_of_reads_alike {tree₀ : FileTree} {root : Path} {options : ScanOptions}
    (made : make tree₀ root options = .ok scanner) (shape : tree.SameShape other)
    (same : ∀ p, scanner.Reads tree active p → tree.SameContent other p) :
    scanner.scan (.ofTree other) active = scanner.scan (.ofTree tree) active :=
  scan_congr (resolveRoot_eq_of_sameShape made shape same) (walk_eq_of_sameShape shape same)

/-- An image gets another content, and so does a document below the searched directories that nothing includes. -/
theorem scan_eq_of_reads_alike_image :
    let tree : FileTree := ⟨[(["w"], .directory), (["w", "s"], .directory), (["w", "n"], .directory),
      (["w", "main.typ"], .file "#include \"s/a.typ\"".toUTF8), (["w", "s", "p.png"], .file "old".toUTF8),
      (["w", "s", "a.typ"], .file "#figure(image(\"p.png\"))".toUTF8), (["w", "n", "b.typ"], .file "".toUTF8)], []⟩
    let other := (tree.set ["w", "s", "p.png"] (.file "new".toUTF8)).set ["w", "n", "b.typ"]
      (.file "#include \"c.typ\"".toUTF8)
    let active : Path := ⟨"/w/s/a.typ"⟩
    ∃ scanner, make tree ⟨"/w"⟩ .default = .ok scanner ∧ tree.SameShape other ∧
      (∀ p, scanner.Reads tree active p → tree.SameContent other p) ∧
      tree.readText ⟨"/w/s/p.png"⟩ = .ok "old" ∧ other.readText ⟨"/w/s/p.png"⟩ = .ok "new" ∧
      (scanner.scan (.ofTree other) active).documents = [⟨"/w/main.typ"⟩, active] ∧
      (scanner.scan (.ofTree other) active).figures.length = 1 ∧
      scanner.scan (.ofTree other) active = scanner.scan (.ofTree tree) active := by
  intro tree other active
  let image : Location := ["w", "s", "p.png"]
  let note : Location := ["w", "n", "b.typ"]
  obtain ⟨scanner, made⟩ := @exists_make tree ⟨"/w"⟩ .default (by decide +kernel)
  have shape : tree.SameShape other := by
    have first : tree.HasFile image := ⟨_, rfl⟩
    exact .trans (sameShape_set ((sameShape_set first _).hasFile_iff.mpr ⟨_, rfl⟩) _) (sameShape_set first _)
  have documents : (scanner.scan (.ofTree tree) active).documents = [⟨"/w/main.typ"⟩, active] :=
    eq_of_make made (f := fun s => (s.scan (.ofTree tree) active).documents) (by decide +kernel)
  have figures : (scanner.scan (.ofTree tree) active).figures.length = 1 :=
    eq_of_make made (f := fun s => (s.scan (.ofTree tree) active).figures.length) (by decide +kernel)
  have candidates : ∀ directory ∈ (tree.absolute active).ancestors, ∀ name ∈ tree.list directory,
      (directory.join ⟨name⟩).hasExtension ScanOptions.default.extension →
        ∀ location ∈ (tree.locate (directory.join ⟨name⟩)).toOption, location ≠ image ∧ location ≠ note := by
    decide +kernel
  -- No file that is read lies in one of the two places.
  have elsewhere : ∀ p, scanner.Reads tree active p →
      ∀ location ∈ (tree.locate p).toOption, location ≠ image ∧ location ≠ note := by
    intro p reads
    cases reads with
    | document mem =>
      rw [documents] at mem
      revert p
      decide +kernel
    | candidate above _ listed markup =>
      rw [isMarkup, (of_make made).2] at markup
      exact candidates _ above _ listed markup
  have same : ∀ p, scanner.Reads tree active p → tree.SameContent other p := by
    intro p reads location located
    obtain ⟨notImage, notNote⟩ := elsewhere p reads location (by rw [located]; rfl)
    rw [get?_set _ (by simp), if_neg notNote, get?_set _ (by simp), if_neg notImage]
  have scan := scan_eq_of_reads_alike made shape same
  exact ⟨scanner, made, shape, same, rfl, rfl, by rw [scan, documents], by rw [scan, figures], scan⟩

end Scanner

end FigureGallery
