import FigureGallery.Proofs.Document.Saving
import FigureGallery.Proofs.Figure.Outcome
import FigureGallery.Proofs.Include.Tidy
import FigureGallery.Proofs.Scanner.Agreement

/-!
# Scans of open documents and of saved ones

A scan of open documents over a file tree is a scan of the tree that they are saved to, since the walk spells absolute
paths in one way, under which a document is open and is a file. Relative paths are another matter: nothing is open under
them, yet they may lead to the file of an open document. They come up only from an empty project root.
-/

namespace FigureGallery

open FileTree Include FigureGallery.Path

namespace Source

/-- Two sources with the same files, whose open documents are files, and which have the same texts under absolute paths. -/
structure Agrees (source other : Source) : Prop where
  shape : source.tree.SameShape other.tree
  opens : OpensFiles source.tree source.buffers
  opensOther : OpensFiles other.tree other.buffers
  read : ∀ location : Location, location.IsPlain → other.read (pathOf location) = source.read (pathOf location)

variable {source other : Source} {p : Path}

lemma stored_of_none (closed : source.buffers.get? p = none) : source.stored p = (ofTree source.tree).stored p := by
  rw [stored, closed]
  rfl

lemma stored_of_some {text : String} (opened : source.buffers.get? p = some text) : source.stored p = .ok text := by
  rw [stored, opened]

/-- If open documents are files, then so is every document that exists. -/
lemma isReachable_of_isTidy (opens : OpensFiles source.tree source.buffers) (tidy : IsTidy p) :
    source.isReachable p = source.tree.isFile p := by
  rw [isReachable, Bool.or_eq_right_iff_imp]
  intro contains
  obtain ⟨location, plain, comps, isFile⟩ := opens p contains
  obtain top | ⟨other, plain', rfl⟩ := tidy ((isAbsolute_congr comps).trans (isAbsolute_pathOf location))
  · rw [isFile_eq_false_of_components (comps.symm.trans top)] at isFile
    simp at isFile
  · rwa [eq_of_components_eq plain' plain comps]

lemma components_ne_root (opens : OpensFiles source.tree source.buffers) (reachable : source.isReachable p) :
    p.components ≠ [.root] := by
  intro top
  have tidy : IsTidy p := fun _ => .inl top
  rw [isReachable_of_isTidy opens tidy, isFile_eq_false_of_components top] at reachable
  simp at reachable

namespace Agrees

variable (agrees : source.Agrees other)

include agrees

lemma isReachable_eq (tidy : IsTidy p) : other.isReachable p = source.isReachable p := by
  rw [isReachable_of_isTidy agrees.opens tidy, isReachable_of_isTidy agrees.opensOther tidy, agrees.shape.isFile_eq]

/-- A document that exists is read alike, unless its path is relative. -/
lemma read_eq (tidy : IsTidy p) (reachable : source.isReachable p)
    (relative : ¬ p.isAbsolute → other.read p = source.read p) : other.read p = source.read p := by
  by_cases absolute : p.isAbsolute
  · obtain top | ⟨location, plain, rfl⟩ := tidy absolute
    · exact absurd top (components_ne_root agrees.opens reachable)
    · exact agrees.read location plain
  · exact relative absolute

/-- Walks are the same if the relative paths that one of them lists are read alike. -/
lemma walk_eq {options : Include.Options} (noSlash : '/' ∉ options.extension.toList) {start : Path}
    (relative : ∀ d ∈ (walk source options start).documents, ¬ d.isAbsolute → other.read d = source.read d) :
    walk other options start = walk source options start := by
  have read {d : Path} (mem : d ∈ (walk source options start).documents) : other.read d = source.read d := by
    have reached := reached_of_mem_walk mem
    exact agrees.read_eq (isTidy_of_reached noSlash reached) reached.isReachable (relative d mem)
  refine walk_congr (agrees.isReachable_eq (isTidy_normalize start)) (fun d => read) (fun d _ next included => ?_)
    fun d mem => extract_congr agrees.shape (read mem)
  exact agrees.isReachable_eq (isTidy_of_include noSlash included)

/-- The search for a root document comes to the same end. -/
lemma resolveRoot_eq (plain : source.tree.IsPlain) (scanner : Scanner) (active : Path) :
    scanner.resolveRoot other active = scanner.resolveRoot source active := by
  refine Scanner.resolveRoot_congr agrees.shape fun directory mem name listed _ => ?_
  obtain ⟨location, located, rfl⟩ := Root.exists_pathOf_of_mem_directories (Scanner.isAbsolute_of_mem_directories mem) mem
  have named := plain.of_get? ((FileTree.mem_list_iff located).mp listed).2
  rw [join_pathOf located (named name (by simp))]
  exact agrees.read _ named

/-- Scans are the same if the relative paths that one of them lists are read alike. -/
lemma scan_eq (plain : source.tree.IsPlain) {scanner : Scanner} (noSlash : '/' ∉ scanner.options.extension.toList)
    {active : Path} (relative : ∀ d ∈ (scanner.scan source active).documents, ¬ d.isAbsolute → other.read d = source.read d) :
    scanner.scan other active = scanner.scan source active :=
  Scanner.scan_congr (agrees.resolveRoot_eq plain scanner active) (agrees.walk_eq noSlash relative)

end Agrees

end Source

namespace Saves

variable {tree saved : FileTree} {buffers : Buffers} {p : Path}

/-- A document that is not open is stored in both trees with the same text, if what is open in its place is what its file
says. -/
lemma stored_eq (saves : Saves tree buffers saved) (plain : tree.IsPlain)
    (same : ∀ text, buffers.get? (tree.absolute p) = some text → tree.readText p = .ok text) :
    (Source.ofTree saved).stored p = (Source.ofTree tree).stored p := by
  change (if saved.isFile p then saved.readText p else .ok "") = if tree.isFile p then tree.readText p else .ok ""
  rw [saves.shape.isFile_eq]
  split
  · rename_i isFile
    rw [saves.readText plain isFile]
    cases e : buffers.get? (tree.absolute p) with
    | some text => exact (same text e).symm
    | none => rfl
  · rfl

/-- An open document is stored in the tree that it was saved to. -/
lemma stored_opened (saves : Saves tree buffers saved) (opens : OpensFiles tree buffers) (plain : tree.IsPlain)
    {location : Location} (located : location.IsPlain) {text : String} (e : buffers.get? (pathOf location) = some text) :
    (Source.ofTree saved).stored (pathOf location) = .ok text := by
  have tidy : IsTidy (pathOf location) := fun _ => .inr ⟨location, located, rfl⟩
  have contains : buffers.contains (pathOf location) := by simp [Buffers.contains, e]
  have isFile : tree.isFile (pathOf location) := by
    have reachable := @Source.isReachable_of_isTidy ⟨tree, buffers⟩ _ opens tidy
    rw [← reachable, Source.isReachable, contains, Bool.true_or]
  change (if saved.isFile (pathOf location) then saved.readText (pathOf location) else .ok "") = .ok text
  rw [saves.shape.isFile_eq, if_pos isFile, saves.readText plain isFile, tree.absolute_pathOf located, e]

/-- A document that is not open reads the same, as far as its own file says what is open in its place. -/
lemma read_eq (saves : Saves tree buffers saved) (plain : tree.IsPlain) (closed : buffers.get? p = none)
    (same : ∀ text, buffers.get? (tree.absolute p) = some text → tree.readText p = .ok text) :
    (Source.ofTree saved).read p = (⟨tree, buffers⟩ : Source).read p ∧
      (⟨saved, buffers⟩ : Source).read p = (⟨tree, buffers⟩ : Source).read p := by
  have stored := saves.stored_eq plain same
  have before : (⟨tree, buffers⟩ : Source).stored p = (Source.ofTree tree).stored p := Source.stored_of_none closed
  have after : (⟨saved, buffers⟩ : Source).stored p = (Source.ofTree saved).stored p := Source.stored_of_none closed
  simp only [Source.read, before, after, stored, and_self]

/-- Whatever is open reads from the tree that it was saved to as it read before, and so do the saved documents that are
still open. -/
lemma agrees (saves : Saves tree buffers saved) (opens : OpensFiles tree buffers) (plain : tree.IsPlain) :
    Source.Agrees ⟨tree, buffers⟩ (.ofTree saved) ∧ Source.Agrees ⟨tree, buffers⟩ ⟨saved, buffers⟩ := by
  have read (location : Location) (located : location.IsPlain) :
      (Source.ofTree saved).read (pathOf location) = (⟨tree, buffers⟩ : Source).read (pathOf location) ∧
        (⟨saved, buffers⟩ : Source).read (pathOf location) = (⟨tree, buffers⟩ : Source).read (pathOf location) := by
    cases e : buffers.get? (pathOf location) with
    | some text =>
      have before : (⟨tree, buffers⟩ : Source).stored (pathOf location) = .ok text := Source.stored_of_some e
      have after : (⟨saved, buffers⟩ : Source).stored (pathOf location) = .ok text := Source.stored_of_some e
      simp only [Source.read, before, after, saves.stored_opened opens plain located e, and_self]
    | none =>
      refine saves.read_eq plain e fun text opened => ?_
      rw [tree.absolute_pathOf located, e] at opened
      simp at opened
  exact ⟨⟨saves.shape, opens, opensFiles_empty, fun location located => (read location located).1⟩,
    ⟨saves.shape, opens, opens.of_sameShape saves.shape, fun location located => (read location located).2⟩⟩

end Saves

variable {tree : FileTree} {buffers : Buffers}

/-- A document that is opened with the text that its file has reads as before. -/
lemma Source.agrees_set (opens : OpensFiles tree buffers) {location : Location} (located : location.IsPlain)
    (closed : buffers.get? (pathOf location) = none) {text : String} (saved : tree.readText (pathOf location) = .ok text) :
    Source.Agrees ⟨tree, buffers⟩ ⟨tree, buffers.set (pathOf location) text⟩ := by
  have isFile : tree.isFile (pathOf location) := isFile_of_readText saved
  refine ⟨.refl tree, opens, opens.set located isFile text, fun place plain => ?_⟩
  rw [read, read, stored, stored, Buffers.get?_set]
  by_cases same : (pathOf place).components = (pathOf location).components
  · obtain rfl := eq_of_components_eq plain located same
    rw [if_pos rfl]
    simp only [closed, if_pos isFile, saved]
  · rw [if_neg same]

namespace Scanner

variable {scanner : Scanner} {active : Path}

/-- From a project root that is not empty a scan lists absolute paths only. -/
lemma isAbsolute_of_mem_documents {tree₀ : FileTree} {root : Path} {options : ScanOptions} {source : Source}
    (made : make tree₀ root options = .ok scanner) (rooted : scanner.projectRoot.text ≠ "") {d : Path}
    (mem : d ∈ (scanner.scan source active).documents) (opens : OpensFiles source.tree source.buffers) :
    d.isAbsolute := by
  have reached := reached_of_mem_walk mem
  by_cases absolute : (source.tree.absolute active).isAbsolute
  · have start : (scanner.resolveRoot source active).document.normalize.isAbsolute := by
      rw [isAbsolute_normalize]
      unfold resolveRoot
      exact Root.isAbsolute_resolve absolute
    refine isAbsolute_of_reached start (fun root mem => ?_) (fun p => Source.components_ne_root opens) reached
    obtain rfl := Option.some.inj mem
    exact isAbsolute_projectRoot made rooted
  · -- The empty path is no document, so nothing is behind it.
    have start := reached.isReachable_start
    rw [resolveRoot_document_of_relative absolute] at start
    change source.isReachable (normalize ⟨""⟩) at start
    rw [Source.isReachable_of_isTidy opens (isTidy_normalize ⟨""⟩)] at start
    have noFile : source.tree.isFile (normalize ⟨""⟩) = false := rfl
    simp [noFile] at start

/-- Open documents, each of which is a file under its absolute path in normal form, can all be saved, and a scan of what is
open is a scan of the tree that it is saved to. So a scan stays the same when everything is saved. The exception are
relative paths, which a scan lists only if the project root is empty: one that leads to the file of an open document has
to have the text that is open. A document that is opened with the text of its file never changes a scan. -/
theorem scan_opened_eq_scan_saved {tree₀ : FileTree} {root : Path} {options : ScanOptions}
    (made : make tree₀ root options = .ok scanner) (noSlash : '/' ∉ options.extension.toList) {tree : FileTree}
    (plain : tree.IsPlain) {documents : List (Path × String)}
    (files : ∀ document ∈ documents, document.1.isAbsolute ∧ document.1.normalize = document.1 ∧ tree.isFile document.1)
    (active : Path) :
    let source : Source := ⟨tree, .opened documents⟩
    ∃ saved, tree.saved documents = .ok saved ∧
      ((scanner.projectRoot.text = "" → ∀ d ∈ (scanner.scan source active).documents, ¬ d.isAbsolute →
          ∀ text, source.buffers.get? (tree.absolute d) = some text → tree.readText d = .ok text) →
        scanner.scan source active = scanner.scan (.ofTree saved) active ∧
        scanner.scan ⟨saved, source.buffers⟩ active = scanner.scan source active) ∧
      ∀ p text, p.isAbsolute → p.normalize = p → source.buffers.get? p = none → tree.readText p = .ok text →
        scanner.scan ⟨tree, source.buffers.set p text⟩ active = scanner.scan source active := by
  intro source
  obtain ⟨opens, saved, e, saves⟩ := exists_saves files
  have noSlash : '/' ∉ scanner.options.extension.toList := by rwa [(of_make made).2]
  refine ⟨saved, e, fun loose => ?_, fun p text absolute normal closed unchanged => ?_⟩
  · have relative : ∀ d ∈ (scanner.scan source active).documents, ¬ d.isAbsolute →
        (Source.ofTree saved).read d = source.read d ∧ (⟨saved, source.buffers⟩ : Source).read d = source.read d := by
      intro d mem relative
      by_cases empty : scanner.projectRoot.text = ""
      · exact saves.read_eq plain (opens.get?_eq_none relative) (loose empty d mem relative)
      · exact absurd (isAbsolute_of_mem_documents made empty mem opens) relative
    obtain ⟨agrees, stillOpen⟩ := saves.agrees opens plain
    exact ⟨(agrees.scan_eq plain noSlash fun d mem h => (relative d mem h).1).symm,
      stillOpen.scan_eq plain noSlash fun d mem h => (relative d mem h).2⟩
  · obtain ⟨location, located, here⟩ := exists_normalize_eq_pathOf absolute
    rw [normal] at here
    subst here
    refine (Source.agrees_set opens located closed unchanged).scan_eq plain noSlash fun d _ relative => ?_
    have other : d.components ≠ (pathOf location).components := fun same =>
      relative ((isAbsolute_congr same).trans (isAbsolute_pathOf location))
    rw [Source.read, Source.read, Source.stored, Source.stored, Buffers.get?_set, if_neg other]

/-- A document whose file is no text is opened, and then the document that includes it. -/
theorem scan_opened_eq_scan_saved_not_text :
    let tree : FileTree := ⟨[(["w"], .directory), (["w", "a.typ"], .file "#include \"s/b\"".toUTF8),
      (["w", "s"], .directory), (["w", "s", "b.typ"], .file ⟨#[255]⟩), (["w", "s", "b.png"], .file "".toUTF8)], []⟩
    let documents : List (Path × String) := [(⟨"/w/s/b.typ"⟩, "#figure(image(\"b.png\"))")]
    let source : Source := ⟨tree, .opened documents⟩
    let active : Path := ⟨"/w/a.typ"⟩
    ∃ scanner saved, make tree ⟨"/w"⟩ .default = .ok scanner ∧ '/' ∉ ScanOptions.default.extension.toList ∧
      tree.IsPlain ∧ (∀ document ∈ documents,
        document.1.isAbsolute ∧ document.1.normalize = document.1 ∧ tree.isFile document.1) ∧
      scanner.projectRoot.text ≠ "" ∧ tree.saved documents = .ok saved ∧
      (scanner.scan source active).figures.length = 1 ∧
      scanner.scan source active = scanner.scan (.ofTree saved) active ∧
      scanner.scan ⟨saved, source.buffers⟩ active = scanner.scan source active ∧
      source.buffers.get? active = none ∧ tree.readText active = .ok "#include \"s/b\"" ∧
      scanner.scan ⟨tree, source.buffers.set active "#include \"s/b\""⟩ active = scanner.scan source active := by
  intro tree documents source active
  obtain ⟨scanner, made⟩ := @exists_make tree ⟨"/w"⟩ .default (by decide +kernel)
  have noSlash : '/' ∉ ScanOptions.default.extension.toList := by decide +kernel
  have plain : tree.IsPlain := by decide +kernel
  have files : ∀ document ∈ documents,
      document.1.isAbsolute ∧ document.1.normalize = document.1 ∧ tree.isFile document.1 := by decide +kernel
  have rooted : scanner.projectRoot.text ≠ "" := by
    have text : scanner.projectRoot.text = "/w" :=
      eq_of_make made (f := fun s => s.projectRoot.text) (by decide +kernel)
    rw [text]
    decide
  have figures : (scanner.scan source active).figures.length = 1 :=
    eq_of_make made (f := fun s => (s.scan source active).figures.length) (by decide +kernel)
  have closed : source.buffers.get? active = none := by decide +kernel
  have unchanged : tree.readText active = .ok "#include \"s/b\"" := by decide +kernel
  obtain ⟨saved, e, same, unaffected⟩ := scan_opened_eq_scan_saved made noSlash plain files active
  obtain ⟨scan, stillOpen⟩ := same fun empty => absurd empty rooted
  have opened := unaffected active "#include \"s/b\"" (by decide +kernel) (by decide +kernel) closed unchanged
  exact ⟨scanner, saved, made, noSlash, plain, files, rooted, e, figures, scan, stillOpen, closed, unchanged, opened⟩

/-- An include from an empty project root leads to the file of an open document, which is not open under that path. -/
theorem scan_opened_ne_scan_saved_relative :
    ¬ ∀ (tree₀ tree saved : FileTree) (root : Path) (options : ScanOptions) (scanner : Scanner)
      (documents : List (Path × String)) (active : Path), make tree₀ root options = .ok scanner →
      '/' ∉ options.extension.toList → tree.IsPlain →
      (∀ document ∈ documents, document.1.isAbsolute ∧ document.1.normalize = document.1 ∧ tree.isFile document.1) →
      tree.saved documents = .ok saved →
      scanner.scan ⟨tree, .opened documents⟩ active = scanner.scan (.ofTree saved) active := by
  intro h
  let tree (text : String) : FileTree := ⟨[(["w", "s", "b.typ"], .file text.toUTF8), (["w"], .directory),
    (["w", "a.typ"], .file "#include \"/s/b\"".toUTF8), (["w", "s"], .directory)], ["w"]⟩
  let old := tree ""
  let new := tree "#include \"/a\""
  let documents : List (Path × String) := [(⟨"/w/s/b.typ"⟩, "#include \"/a\"")]
  let active : Path := ⟨"/w/a.typ"⟩
  obtain ⟨scanner, made⟩ := @exists_make old ⟨""⟩ .default (by decide +kernel)
  have same := h old old new ⟨""⟩ .default scanner documents active made (by decide +kernel) (by decide +kernel)
    (by decide +kernel) rfl
  have before : (scanner.scan ⟨old, .opened documents⟩ active).documents = [active, ⟨"s/b.typ"⟩] :=
    eq_of_make made (f := fun s => (s.scan ⟨old, .opened documents⟩ active).documents) (by decide +kernel)
  have after : (scanner.scan (.ofTree new) active).documents = [active, ⟨"s/b.typ"⟩, ⟨"a.typ"⟩] :=
    eq_of_make made (f := fun s => (s.scan (.ofTree new) active).documents) (by decide +kernel)
  rw [same, after] at before
  exact absurd before (by decide)

end Scanner

end FigureGallery
