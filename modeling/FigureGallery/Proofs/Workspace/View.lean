import FigureGallery.Proofs.Workspace.Configuration

/-!
# What an operation leaves as it was

The texts of the open documents, the active document and the configuration are what scans depend on besides the files.
For each operation that a document is told about there is an exact condition under which all of them stay as they were.
-/

namespace FigureGallery

/-- Making a document active leaves the active document as it was if it refuses the document, or has it already. -/
lemma Session.active_withActive_eq_iff {s : Session} {document : Path} :
    (s.withActive document).active = s.active ↔ (s.accepts document → s.active = some document) := by
  rw [withActive]
  split
  · rename_i accepts
    simp [accepts, eq_comm]
  · rename_i refuses
    simp [refuses]

/-- Forgetting a document leaves the active document as it was if that is another one. -/
lemma Session.active_withoutActive_eq_iff {s : Session} {document : Path} :
    (s.withoutActive document).active = s.active ↔ ¬ s.active.any document.same := by
  rw [withoutActive]
  split
  · rename_i active
    cases e : s.active with
    | none => simp [e] at active
    | some other => simpa [e] using active
  · rename_i other
    simpa using other

lemma Session.active_handle_activeChanged (s : Session) (document : Path) (now : Nat) :
    (s.handle (.activeChanged document) now).2.active = (s.withActive document).active := by
  rw [handle]
  split
  · rfl
  · rfl

lemma Session.active_handle_textChanged (s : Session) (document : Path) (now : Nat) :
    (s.handle (.textChanged document) now).2.active = s.active := by
  rw [handle]
  split
  · rfl
  · rfl

namespace Workspace

/-- Workspaces with the same texts, the same active document and the same configuration. -/
structure SameView (w v : Workspace) : Prop where
  texts : ∀ p, w.buffers.get? p = v.buffers.get? p
  active : w.session.active = v.session.active
  root : w.root = v.root
  scanner : w.scanner = v.scanner

/-- A document that becomes active is active already. -/
def KeepsActive (w : Workspace) (document : Path) : Prop :=
  w.session.accepts document → w.session.active = some document

variable {w v : Workspace} {tree : FileTree} {document : Path}

lemma sameView_iff : w.SameView v ↔ (∀ p, w.buffers.get? p = v.buffers.get? p) ∧
    w.session.active = v.session.active ∧ w.root = v.root ∧ w.scanner = v.scanner :=
  ⟨fun ⟨texts, active, root, scanner⟩ => ⟨texts, active, root, scanner⟩,
    fun ⟨texts, active, root, scanner⟩ => ⟨texts, active, root, scanner⟩⟩

/-- A text that is set was there before. -/
lemma get?_set_eq_iff {text : String} :
    (∀ p, (w.buffers.set document text).get? p = w.buffers.get? p) ↔ w.buffers.get? document = some text := by
  constructor
  · intro same
    rw [← same document, Buffers.get?_set, if_pos rfl]
  · intro here p
    rw [Buffers.get?_set]
    split
    · rename_i e
      rw [← here, Buffers.get?, Buffers.get?, e]
    · rfl

lemma get?_erase_eq_iff :
    (∀ p, (w.buffers.erase document).get? p = w.buffers.get? p) ↔ w.buffers.get? document = none := by
  constructor
  · intro same
    rw [← same document, Buffers.get?_erase, if_pos rfl]
  · intro gone p
    rw [Buffers.get?_erase]
    split
    · rename_i e
      rw [← gone, Buffers.get?, Buffers.get?, e]
    · rfl

lemma sameView_activeChanged (now : Nat) :
    (w.handle (.activeChanged document) now).2.SameView w ↔ w.KeepsActive document := by
  rw [sameView_iff, handle, Session.active_handle_activeChanged, Session.active_withActive_eq_iff]
  simp [KeepsActive]

lemma sameView_openDocument (text : String) (now : Nat) : (w.openDocument document text now).2.SameView w ↔
    w.buffers.get? document = some text ∧ w.KeepsActive document := by
  rw [sameView_iff, openDocument, handle, Session.active_handle_activeChanged, Session.active_withActive_eq_iff,
    get?_set_eq_iff]
  simp [KeepsActive]

/-- An edit is recorded in a workspace that may have been changed before. -/
lemma sameView_recordEdit (now : Nat) : (w.recordEdit document now).2.SameView v ↔
    (∀ p, w.buffers.get? p = v.buffers.get? p) ∧ (w.session.withActive document).active = v.session.active ∧
      w.root = v.root ∧ w.scanner = v.scanner := by
  rw [sameView_iff, recordEdit, handle, Session.active_handle_textChanged]

lemma sameView_closeDocument (now : Nat) : (w.closeDocument tree document now).2.SameView w ↔
    w.buffers.get? document = none ∧ (w.session.active.any document.same → tree.isFile document) := by
  have active : (if tree.isFile document then w.session else w.session.withoutActive document).active =
      w.session.active ↔ (w.session.active.any document.same → tree.isFile document) := by
    split
    · rename_i isFile
      simp [isFile]
    · rename_i gone
      rw [Session.active_withoutActive_eq_iff]
      simp [gone]
  rw [sameView_iff, closeDocument, handle, Session.active_handle_textChanged, get?_erase_eq_iff, active]
  simp

/-- When the configuration stays the same, reading it again leaves the active document to the edit. -/
lemma sameView_recordEdit_configure (ok : w.Coherent) (now : Nat) :
    ((w.configure tree w.root).recordEdit document now).2.SameView w ↔
      w.root.bind (scannerAt tree) = w.scanner ∧ w.KeepsActive document := by
  rw [sameView_recordEdit]
  have renewed (same : w.root.bind (scannerAt tree) = w.scanner) :
      ((w.configure tree w.root).session.withActive document).active = w.session.active ↔ w.KeepsActive document := by
    have extension : (w.configure tree w.root).session.extension = w.session.extension := by
      rw [(w.coherent_configure tree w.root).extension, ok.extension, configure, same]
    have accepts (p : Path) : (w.configure tree w.root).session.accepts p = w.session.accepts p := by
      rw [Session.accepts, Session.accepts, extension]
    have active : (w.configure tree w.root).session.active = w.session.active := by
      rw [configure, active_renewed]
      cases e : w.session.active with
      | none => rfl
      | some p => exact Option.filter_some_pos ((accepts p).trans (ok.active p e))
    rw [← active, Session.active_withActive_eq_iff, accepts, active]
    rfl
  constructor
  · rintro ⟨_, active, _, same⟩
    exact ⟨same, (renewed same).mp active⟩
  · rintro ⟨same, keeps⟩
    exact ⟨fun _ => rfl, (renewed same).mpr keeps, rfl, same⟩

end Workspace

end FigureGallery
