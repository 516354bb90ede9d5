import FigureGallery.Proofs.Server.Publication
import FigureGallery.Proofs.Workspace.View

/-!
# Schemes of URIs

A notification names a document by a URI, of which the server keeps the path only. So documents that are shown under
other schemes are taken for the files with their paths: a notice about one does what the notice about the file does, and
replaces, edits or drops the text of the file if that is what it tells.
-/

namespace FigureGallery

namespace Server

/-- A notification names a document by a URI, and tells something about it. -/
inductive Incoming.Names (message : Incoming) : Uri → (Path → Notice) → Prop where
  | opened {p} :
    message.method = "textDocument/didOpen" →
    paramsOf Schema.didOpen DidOpen.ofJson? message.params = .ok p →
    Names message p.uri (.opened · p.text)
  | changed {p} :
    message.method = "textDocument/didChange" →
    paramsOf Schema.didChange DidChange.ofJson? message.params = .ok p →
    Names message p.uri (.changed · p.changes)
  | saved {p} :
    message.method = "textDocument/didSave" →
    paramsOf Schema.didSave didSave? message.params = .ok p →
    Names message p.uri .saved
  | closed {p} :
    message.method = "textDocument/didClose" →
    paramsOf Schema.didClose didClose? message.params = .ok p →
    Names message p.uri .closed
  | activated {p} :
    message.method = "typfig/activeDocumentChanged" →
    paramsOf Schema.activeDocument ActiveDocument.ofJson? message.params = .ok p →
    Names message p.uri .activated

/-- When a notice leaves the texts, the active document and the configuration as they were: a text is told that is known,
a document is closed that is not open, the configuration is the same as before, and no other document becomes active. -/
def Notice.Keeps (w : Workspace) (tree : FileTree) : Notice → Prop
  | .opened document text => w.buffers.get? document = some text ∧ w.KeepsActive document
  | .changed document changes => match w.buffers.get? document with
    | some text => (Change.applyAll text changes).1 = text ∧
      ((Change.applyAll text changes).2 = none → w.KeepsActive document)
    | none => changes = [] ∧ w.KeepsActive document
  | .saved document => (Config.isConfigFile document → w.root.bind (Workspace.scannerAt tree) = w.scanner) ∧
    w.KeepsActive document
  | .closed document => w.buffers.get? document = none ∧ (w.session.active.any document.same → tree.isFile document)
  | .activated document => w.KeepsActive document

variable {s : Server} {w : Workspace} {around : Surroundings} {message : Incoming} {uri : Uri} {notice : Path → Notice}

lemma Incoming.Names.method (names : message.Names uri notice) : message.method ∈ Notice.methods := by
  cases names with
  | opened method => simp [method, Notice.methods]
  | changed method => simp [method, Notice.methods]
  | saved method => simp [method, Notice.methods]
  | closed method => simp [method, Notice.methods]
  | activated method => simp [method, Notice.methods]

/-- What a notification tells is read as a notice about the path of the URI. -/
lemma Incoming.Names.ofMessage? (names : message.Names uri notice) :
    Notice.ofMessage? message = uri.toPath?.map notice := by
  have read {method : Method} {name : String} (e : message.method = name) (known : Method.ofName? name = some method)
      (told : Notice.read? method message.params = uri.toPath?.map notice) :
      Notice.ofMessage? message = uri.toPath?.map notice := by
    rw [Notice.ofMessage?, e, known]
    exact told
  cases names with
  | opened method fits => exact read method (show _ = some Method.didOpen from rfl) (by rw [Notice.read?, fits]; rfl)
  | changed method fits => exact read method (show _ = some Method.didChange from rfl) (by rw [Notice.read?, fits]; rfl)
  | saved method fits => exact read method (show _ = some Method.didSave from rfl) (by rw [Notice.read?, fits]; rfl)
  | closed method fits => exact read method (show _ = some Method.didClose from rfl) (by rw [Notice.read?, fits]; rfl)
  | activated method fits =>
    exact read method (show _ = some Method.activeDocumentChanged from rfl) (by rw [Notice.read?, fits]; rfl)

/-- The condition is exact. -/
lemma Notice.sameView_answer (ok : w.Coherent) (around : Surroundings) (notice : Notice) :
    (notice.answer w around).2.SameView w ↔ notice.Keeps w around.tree := by
  cases notice with
  | opened document text => exact Workspace.sameView_openDocument text around.now
  | changed document changes =>
    rw [answer, Workspace.applyChanges, Keeps]
    cases here : w.buffers.get? document with
    | some text =>
      have same : some text = some (Change.applyAll text changes).1 ↔ (Change.applyAll text changes).1 = text := by
        rw [Option.some_inj, eq_comm]
      dsimp only
      cases (Change.applyAll text changes).2 with
      | none =>
        dsimp only
        rw [Workspace.sameView_recordEdit, Session.active_withActive_eq_iff, Workspace.get?_set_eq_iff, here, same]
        simp [Workspace.KeepsActive]
      | some error =>
        dsimp only
        rw [Workspace.sameView_iff, Workspace.get?_set_eq_iff, here, same]
        simp
    | none =>
      cases last : changes.getLast? with
      | some change =>
        have nonempty : changes ≠ [] := by
          rintro rfl
          simp at last
        dsimp only
        rw [Workspace.sameView_recordEdit, Workspace.get?_set_eq_iff, here]
        simp [nonempty]
      | none =>
        dsimp only
        rw [Workspace.sameView_recordEdit, Session.active_withActive_eq_iff]
        simp [Workspace.KeepsActive, List.getLast?_eq_none_iff.mp last]
  | saved document =>
    rw [answer, Keeps]
    split
    · rename_i config
      rw [Workspace.sameView_recordEdit_configure ok]
      simp [config]
    · rename_i other
      rw [Workspace.sameView_recordEdit, Session.active_withActive_eq_iff]
      simp [other, Workspace.KeepsActive]
  | closed document => exact Workspace.sameView_closeDocument around.now
  | activated document => exact Workspace.sameView_activeChanged around.now

/-- A server that takes a notification does what the notice about the path of its URI tells, whatever the scheme of the
URI is: notifications that tell the same under different schemes do the same, and the texts, the active document and the
configuration stay as they were exactly if the notice keeps them. A URI without a path is passed over. -/
theorem sameView_iff_keeps_of_any_scheme (reachable : s.Reachable) (phase : s.phase = .initialized)
    (id : message.id = none) (names : message.Names uri notice) (around : Surroundings) :
    let after := (s.receive around message).step
    (uri.toPath? = none → after = ⟨s, []⟩) ∧
    ∀ document, uri.toPath? = some document →
      (after.server.workspace.SameView s.workspace ↔ (notice document).Keeps s.workspace around.tree) ∧
      ∀ other uri', other.id = none → other.Names uri' notice → uri'.toPath? = some document →
        (s.receive around other).step = after := by
  intro after
  have step : after = s.dispatch around (s.answerOf around message) := step_receive phase around names.method id
  refine ⟨fun unnamed => ?_, fun document named => ⟨?_, fun other uri' silent again same => ?_⟩⟩
  · rw [step, answerOf, names.ofMessage?, unnamed]
    rfl
  · rw [step, workspace_dispatch, answerOf, names.ofMessage?, named]
    exact (notice document).sameView_answer reachable.workspace.coherent around
  · rw [step, step_receive phase around again.method silent, answerOf, answerOf, names.ofMessage?,
      again.ofMessage?, named, same]

/-- A document that no file has yet is opened beside the open file with its path, whose text it replaces. -/
theorem sameView_iff_keeps_of_any_scheme_untitled :
    let around : Surroundings := ⟨⟨[], []⟩, 0, .null⟩
    let start : Incoming := ⟨"initialize", some (.object [("capabilities", .object [])]), some (.nat 1)⟩
    let opening (uri text : String) : Incoming := ⟨"textDocument/didOpen", some (.object [("textDocument", .object [
      ("uri", .string uri), ("languageId", .string "typst"), ("version", .nat 1), ("text", .string text)])]), none⟩
    let s := ((fresh.receive around start).step.server.receive around (opening "file:///a.typ" "= A")).step.server
    let after := (s.receive around (opening "untitled:/a.typ" "")).step
    s.workspace.buffers.get? ⟨"/a.typ"⟩ = some "= A" ∧ ¬ after.server.workspace.SameView s.workspace ∧
      after.server.workspace.buffers.get? ⟨"/a.typ"⟩ = some "" ∧
      (s.receive around (opening "file:///a.typ" "")).step = after := by
  intro around start opening s after
  have reachable : s.Reachable := .receive _ _ (.receive _ _ .fresh)
  have phase : s.phase = .initialized := by decide +kernel
  have here : s.workspace.buffers.get? ⟨"/a.typ"⟩ = some "= A" := by decide +kernel
  obtain ⟨p, fits, facts⟩ : ∃ p, paramsOf Schema.didOpen DidOpen.ofJson? (opening "untitled:/a.typ" "").params = .ok p ∧
      (p.uri.toPath?, p.text) = (some ⟨"/a.typ"⟩, "") :=
    exists_ok_of_map (by decide +kernel)
  obtain ⟨q, fits', facts'⟩ : ∃ q, paramsOf Schema.didOpen DidOpen.ofJson? (opening "file:///a.typ" "").params = .ok q ∧
      (q.uri.toPath?, q.text) = (some ⟨"/a.typ"⟩, "") :=
    exists_ok_of_map (by decide +kernel)
  obtain ⟨named, text⟩ := Prod.mk.inj facts
  obtain ⟨named', text'⟩ := Prod.mk.inj facts'
  have names : (opening "untitled:/a.typ" "").Names p.uri (.opened · p.text) := .opened rfl fits
  have names' : (opening "file:///a.typ" "").Names q.uri (.opened · q.text) := .opened rfl fits'
  rw [text] at names
  rw [text'] at names'
  obtain ⟨_, counts⟩ := sameView_iff_keeps_of_any_scheme reachable phase rfl names around
  obtain ⟨unchanged, same⟩ := counts ⟨"/a.typ"⟩ named
  refine ⟨here, fun view => ?_, by decide +kernel, same _ _ rfl names' named'⟩
  have kept := (unchanged.mp view).1
  simp [here] at kept

end Server

end FigureGallery
