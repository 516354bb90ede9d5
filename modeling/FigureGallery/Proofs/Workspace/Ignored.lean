import FigureGallery.Proofs.Scanner.Overlay
import FigureGallery.Proofs.Workspace.Coherence
import FigureGallery.Proofs.Workspace.Editing

/-!
# Documents that an open gallery ignores

While the gallery is open, the session answers every step on a document of the project with a scan to come. What it
ignores are other files, and what is open under their names is never read: a scan before the step and one after it find
the same. A file whose whole name is the extension has no extension, so that it is ignored, but a scan may come across it
in the top directory. With an empty project root this is so in the working directory and the directories above it too.
-/

namespace FigureGallery

open Include FigureGallery.Path

namespace Session

variable {s : Session} {p : Path}

/-- A file that is no document does not become active. -/
lemma withActive_of_not_accepts (other : ¬ s.accepts p) : s.withActive p = s :=
  if_neg other

/-- A file that is no document is not active. -/
lemma withoutActive_of_not_accepts (active : ∀ document ∈ s.active, s.accepts document) (other : ¬ s.accepts p) :
    s.withoutActive p = s := by
  refine if_neg fun same => ?_
  cases e : s.active with
  | none => simp [e] at same
  | some document =>
    rw [e, Option.any_some] at same
    refine other ?_
    rw [accepts, hasExtension_congr (same_iff.mp same)]
    exact active document e

/-- What an open session ignores is about a file that is no document, and leaves the session as it is. -/
lemma handle_eq_of_ignore (isOpen : s.isOpen) {trigger : Trigger}
    (about : trigger = .activeChanged p ∨ trigger = .textChanged p) {now : Nat}
    (ignored : (s.handle trigger now).1 = .ignore) :
    ¬ s.accepts p ∧ (s.handle trigger now).2 = s := by
  obtain rfl | rfl := about
  · rw [handle] at ignored ⊢
    split at ignored
    · simp at ignored
    · rename_i closed
      have other : ¬ s.accepts p := fun accepted => closed (by simp [accepted, isOpen])
      rw [if_neg closed]
      exact ⟨other, withActive_of_not_accepts other⟩
  · rw [handle] at ignored ⊢
    split at ignored
    · simp at ignored
    · rename_i closed
      rw [if_neg closed]
      exact ⟨fun accepted => closed (by simp [accepted, isOpen]), rfl⟩

end Session

namespace Workspace

variable {w : Workspace} {tree : FileTree}

/-- Whether a scan may come across relative paths. -/
def IsLoose (w : Workspace) (tree : FileTree) : Prop :=
  ∃ active ∈ w.session.active, ∃ scanner ∈ w.scannerFor tree active, scanner.IsLoose w.buffers

/-- The scanner for a document has the extension of the session, and was made for some project. -/
lemma Coherent.scannerFor (ok : w.Coherent) {active : Path} {scanner : Scanner}
    (h : w.scannerFor tree active = some scanner) :
    bareExtension scanner.options.extension = w.session.extension ∧
      ∃ tree root options, Scanner.make tree root options = .ok scanner := by
  rw [ok.extension]
  unfold Workspace.scannerFor at h
  cases e : w.scanner with
  | some made =>
    rw [e] at h
    obtain rfl := Option.some.inj h
    exact ⟨rfl, ok.scanner made e⟩
  | none =>
    rw [e] at h
    obtain ⟨directory, _, h⟩ := Option.bind_eq_some_iff.mp h
    cases made : Scanner.make tree directory .default with
    | error e => simp [made, Except.toOption] at h
    | ok scanner' =>
      rw [made] at h
      obtain rfl := Option.some.inj h
      refine ⟨?_, tree, directory, .default, made⟩
      rw [(Scanner.of_make made).2]
      exact bareExtension_bareExtension _

/-- A scan does not depend on what is open under a path that is no document. -/
lemma Coherent.scan_eq (ok : w.Coherent) {p : Path} (other : ¬ w.session.accepts p)
    (aside : ¬ p.same ⟨"/." ++ w.session.extension⟩)
    (asideAbove : w.IsLoose tree → ∀ n, ¬ p.same
      ((ofSplit .free (List.replicate n ['.', '.'])).join ⟨"." ++ w.session.extension⟩))
    {buffers : Buffers} (h : ∀ q : Path, q.components ≠ p.components → buffers.get? q = w.buffers.get? q) :
    ({ w with buffers } : Workspace).scan tree = w.scan tree := by
  rw [scan, scan]
  dsimp only
  refine Option.bind_congr fun active isActive => ?_
  change (w.scannerFor tree active).map _ = (w.scannerFor tree active).map _
  cases e : w.scannerFor tree active with
  | none => rfl
  | some scanner =>
    obtain ⟨extension, _, _, _, made⟩ := ok.scannerFor e
    have accepts (q : Path) : q.hasExtension scanner.options.extension = w.session.accepts q := by
      rw [Session.accepts, hasExtension, hasExtension, ← extension, bareExtension_bareExtension]
    have has : active.hasExtension scanner.options.extension := by
      rw [accepts]
      exact ok.active active isActive
    refine congrArg some (@Scanner.scan_congr_of_buffers scanner (w.source tree) active
      (Scanner.isAbsolute_projectRoot made) has p (fun may => ?_) buffers h)
    cases may with
    | named has =>
      rw [accepts] at has
      exact other has
    | top same =>
      rw [extension] at same
      exact aside same
    | above n loose same =>
      rw [extension] at same
      exact asideAbove ⟨active, isActive, scanner, e, loose⟩ n same

/-- An edit that is ignored while the gallery is open is one of a file that is no document, and changes nothing. -/
lemma recordEdit_of_ignore (isOpen : w.session.isOpen) {p : Path} {now : Nat}
    (ignored : (w.recordEdit p now).1 = .ignore) : ¬ w.session.accepts p ∧ (w.recordEdit p now).2 = w := by
  -- The document becomes active before the session is asked, which would not be ignored.
  obtain ⟨active, e⟩ := w.session.withActive_eq p
  have openStill : (w.session.withActive p).isOpen := by rwa [e]
  obtain ⟨other, same⟩ := Session.handle_eq_of_ignore openStill (.inr rfl) ignored
  have other : ¬ w.session.accepts p := by rwa [e] at other
  refine ⟨other, ?_⟩
  rw [recordEdit, handle]
  dsimp only
  rw [same, Session.withActive_of_not_accepts other]

/-- Closing a file that is ignored while the gallery is open is closing one that is no document, and nothing else
changes than what is open. -/
lemma closeDocument_of_ignore (ok : w.Coherent) (isOpen : w.session.isOpen) {files : FileTree} {p : Path} {now : Nat}
    (ignored : (w.closeDocument files p now).1 = .ignore) :
    ¬ w.session.accepts p ∧ (w.closeDocument files p now).2 = { w with buffers := w.buffers.erase p } := by
  obtain ⟨active, e⟩ := w.session.withoutActive_eq p
  rw [closeDocument, handle] at ignored ⊢
  dsimp only at ignored ⊢
  split at ignored
  · rename_i isFile
    obtain ⟨other, same⟩ := Session.handle_eq_of_ignore isOpen (.inr rfl) ignored
    rw [if_pos isFile, same]
    exact ⟨other, rfl⟩
  · rename_i gone
    have openStill : (w.session.withoutActive p).isOpen := by rwa [e]
    obtain ⟨other, same⟩ := Session.handle_eq_of_ignore openStill (.inr rfl) ignored
    have other : ¬ w.session.accepts p := by rwa [e] at other
    rw [if_neg gone, same, Session.withoutActive_of_not_accepts ok.active other]
    exact ⟨other, rfl⟩

/-- Changes of a text change nothing else than what is open under its path. -/
lemma applyChanges_eq (w : Workspace) (p : Path) (changes : List Change) :
    ∃ buffers, (w.applyChanges p changes).1 = { w with buffers } ∧
      ∀ q : Path, q.components ≠ p.components → buffers.get? q = w.buffers.get? q := by
  refine ⟨(w.applyChanges p changes).1.buffers, ?_, fun q ne => ?_⟩
  · rw [applyChanges]
    split
    · rfl
    · split <;> rfl
  · refine @get?_step_of_ne w (.applyChanges p changes) q fun document mem => ?_
    obtain rfl := Option.some.inj mem
    exact ne

/-- While the gallery is open, opening a document, changing it or closing it is ignored only if the scan stays the same,
a file aside whose whole name is the extension: at the top, or where relative paths may come up in the working directory
or above it. -/
theorem scan_eq_of_ignore (reachable : w.Reachable) (isOpen : w.session.isOpen) {p : Path}
    (aside : ¬ p.same ⟨"/." ++ w.session.extension⟩)
    (asideAbove : w.IsLoose tree → ∀ n, ¬ p.same
      ((ofSplit .free (List.replicate n ['.', '.'])).join ⟨"." ++ w.session.extension⟩)) :
    (∀ text now, (w.openDocument p text now).1 = .ignore →
      (w.openDocument p text now).2.scan tree = w.scan tree) ∧
    (∀ changes now, ((w.applyChanges p changes).1.recordEdit p now).1 = .ignore →
      ((w.applyChanges p changes).1.recordEdit p now).2.scan tree = w.scan tree) ∧
    ∀ files now, (w.closeDocument files p now).1 = .ignore →
      (w.closeDocument files p now).2.scan tree = w.scan tree := by
  have ok := reachable.coherent
  refine ⟨fun text now ignored => ?_, fun changes now ignored => ?_, fun files now ignored => ?_⟩
  · obtain ⟨other, same⟩ := Session.handle_eq_of_ignore isOpen (.inl rfl) ignored
    rw [openDocument, handle, same]
    refine ok.scan_eq other aside asideAbove fun q ne => ?_
    rw [Buffers.get?_set, if_neg ne]
  · obtain ⟨other, same⟩ := recordEdit_of_ignore (by rwa [session_applyChanges]) ignored
    obtain ⟨buffers, changed, texts⟩ := w.applyChanges_eq p changes
    rw [session_applyChanges] at other
    rw [same, changed]
    exact ok.scan_eq other aside asideAbove texts
  · obtain ⟨other, same⟩ := closeDocument_of_ignore ok isOpen ignored
    rw [same]
    refine ok.scan_eq other aside asideAbove fun q ne => ?_
    rw [Buffers.get?_erase, if_neg ne]

/-- A text file that a document names is opened, changed and closed again, and none of this is read. -/
theorem scan_eq_of_ignore_text_file :
    let w := run empty [.openGallery none 0, .openDocument ⟨"/w/a.typ"⟩ "#include \"b.txt\"" 0]
    let tree : FileTree := ⟨[], []⟩
    let p : Path := ⟨"/w/b.txt"⟩
    w.Reachable ∧ w.session.isOpen ∧ ¬ p.same ⟨"/." ++ w.session.extension⟩ ∧ ¬ w.IsLoose tree ∧
      (w.openDocument p "= B" 1).1 = .ignore ∧ (w.openDocument p "= B" 1).2.scan tree = w.scan tree ∧
      ((w.applyChanges p [⟨none, "= B"⟩]).1.recordEdit p 1).1 = .ignore ∧
      ((w.applyChanges p [⟨none, "= B"⟩]).1.recordEdit p 1).2.scan tree = w.scan tree ∧
      (w.closeDocument tree p 1).1 = .ignore ∧ (w.closeDocument tree p 1).2.scan tree = w.scan tree ∧
      (w.scan tree).isSome := by
  intro w tree p
  have reachable : w.Reachable := ⟨_, rfl⟩
  have isOpen : w.session.isOpen := by decide +kernel
  have aside : ¬ p.same ⟨"/." ++ w.session.extension⟩ := by decide +kernel
  have tight : ¬ w.IsLoose tree := by
    rintro ⟨active, isActive, scanner, e, loose⟩
    have active_eq : w.session.active = some ⟨"/w/a.typ"⟩ := by decide +kernel
    obtain rfl := Option.some.inj (active_eq.symm.trans isActive)
    have root : (w.scannerFor tree ⟨"/w/a.typ"⟩).map
        (fun scanner => (scanner.projectRoot.text, bareExtension scanner.options.extension)) = some ("/w", "typ") := by
      decide +kernel
    rw [e, Option.map_some, Option.some.injEq, Prod.mk.injEq] at root
    obtain empty | ⟨bare, _⟩ := loose
    · simp [empty] at root
    · simp [bare] at root
  obtain ⟨opened, changed, closed⟩ := scan_eq_of_ignore reachable isOpen aside fun loose => absurd loose tight
  have ignored : (w.openDocument p "= B" 1).1 = .ignore ∧
      ((w.applyChanges p [⟨none, "= B"⟩]).1.recordEdit p 1).1 = .ignore ∧ (w.closeDocument tree p 1).1 = .ignore := by
    decide +kernel
  exact ⟨reachable, isOpen, aside, tight, ignored.1, opened _ _ ignored.1, ignored.2.1, changed _ _ ignored.2.1,
    ignored.2.2, closed _ _ ignored.2.2, by decide +kernel⟩

/-- A document that names its project root, with a relative path that has the empty path for a project root. -/
theorem scan_ne_of_ignore_above :
    ¬ ∀ (w : Workspace) (tree : FileTree) (p : Path) (text : String) (now : Nat), w.Reachable → w.session.isOpen →
      ¬ p.same ⟨"/." ++ w.session.extension⟩ → (w.openDocument p text now).1 = .ignore →
      (w.openDocument p text now).2.scan tree = w.scan tree := by
  intro h
  let tree : FileTree := ⟨[(["w"], .directory), (["w", "a.typ"], .file "#include \"/\"".toUTF8)], ["w"]⟩
  let w := run empty [.openGallery none 0, .openDocument ⟨"a.typ"⟩ "" 0]
  have same := h w tree ⟨".typ"⟩ "" 1 ⟨_, rfl⟩ (by decide +kernel) (by decide +kernel) (by decide +kernel)
  have before : (w.scan tree).map (·.documents) = some [⟨"/w/a.typ"⟩] := by decide +kernel
  have after : ((w.openDocument ⟨".typ"⟩ "" 1).2.scan tree).map (·.documents) = some [⟨"/w/a.typ"⟩, ⟨".typ"⟩] := by
    decide +kernel
  rw [same, before] at after
  exact absurd after (by decide)

end Workspace

end FigureGallery
