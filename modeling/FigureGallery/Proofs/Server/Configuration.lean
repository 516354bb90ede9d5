import FigureGallery.Proofs.Server.Notice

/-!
# Configurations that are saved

When a configuration is saved, the server reads it and then takes notice of an edit of the saved file. Edits of files that
are no documents are ignored, and a configuration file is a document only where documents have the extension `toml`. So
what the new configuration makes of the figures is not published until something else calls for a scan.
-/

namespace FigureGallery

/-- A configuration file is a document only where documents have its extension. -/
lemma Config.hasExtension_iff {p : Path} (config : Config.isConfigFile p) {extension : String} :
    p.hasExtension extension ↔ Path.bareExtension extension = "toml" := by
  rw [Config.isConfigFile] at config
  cases name : p.fileName? with
  | none => simp [name] at config
  | some s =>
    have toml : Path.extensionOf? s.toList = some "toml".toList := by
      simp only [name, Option.any_some, Bool.or_eq_true, beq_iff_eq] at config
      rcases config with rfl | rfl <;> decide
    rw [Path.hasExtension, Path.extension?, name, Option.bind_some, toml, beq_iff_eq, Option.some.injEq,
      String.toList_inj, eq_comm]

/-- The extension of a coherent session has no dots to lose. -/
lemma Workspace.Coherent.bareExtension_extension {w : Workspace} (ok : w.Coherent) :
    Path.bareExtension w.session.extension = w.session.extension := by
  rw [ok.extension]
  cases w.scanner <;> exact Path.bareExtension_bareExtension _

/-- In an open gallery an edit of a document is waited for, and an edit of another file changes nothing. -/
lemma Workspace.recordEdit_cases {w : Workspace} (isOpen : w.session.isOpen) (document : Path) (now : Nat) :
    (w.session.accepts document ∧
        w.recordEdit document now = (.debounced, { w with session := (w.session.withActive document).armed now })) ∨
      (¬ w.session.accepts document ∧ w.recordEdit document now = (.ignore, w)) := by
  cases accepts : w.session.accepts document with
  | true =>
    obtain ⟨active, e⟩ := w.session.withActive_eq document
    have armed : (w.session.withActive document).isOpen && (w.session.withActive document).accepts document := by
      rw [e]
      exact Bool.and_eq_true_iff.mpr ⟨isOpen, accepts⟩
    refine .inl ⟨rfl, ?_⟩
    simp only [recordEdit, handle, Session.handle, if_pos armed]
  | false =>
    have same : w.session.withActive document = w.session := by simp [Session.withActive, accepts]
    refine .inr ⟨by simp, ?_⟩
    simp [recordEdit, handle, Session.handle, same, accepts]

namespace Server

variable {s : Server} {around : Surroundings} {message : Incoming} {document : Path}

/-- A saved configuration is read, and what is dispatched is an edit of the saved file. -/
lemma step_receive_config (phase : s.phase = .initialized) (method : message.method = "textDocument/didSave")
    (id : message.id = none) (saved : Notice.ofMessage? message = some (.saved document))
    (config : Config.isConfigFile document) :
    (s.receive around message).step = s.dispatch around
      ((s.workspace.configure around.tree s.workspace.root).recordEdit document around.now) := by
  have kind : message.method ∈ Notice.methods := by simp [method, Notice.methods]
  rw [step_receive phase around kind id, answerOf, saved]
  simp only [Option.elim_some, Notice.answer, if_pos config]

/-- A configuration that is saved while the gallery is open publishes nothing at once. The next scan is waited for
exactly if documents have the extension of configuration files. Otherwise the workspace has the new configuration, and
the gallery is still open, but nothing is published about it, through any number of notices that are ignored. -/
theorem isArmed_iff_of_saved_config (phase : s.phase = .initialized) (isOpen : s.workspace.session.isOpen)
    (method : message.method = "textDocument/didSave") (id : message.id = none)
    (saved : Notice.ofMessage? message = some (.saved document)) (config : Config.isConfigFile document) :
    let renewed := s.workspace.configure around.tree s.workspace.root
    let after := (s.receive around message).step
    after.sent = [] ∧ (after.server.IsArmed ↔ renewed.session.extension = "toml") ∧
      (renewed.session.extension ≠ "toml" →
        after.server.workspace = renewed ∧ renewed.session.isOpen ∧
        ∀ messages, (∀ message ∈ messages, message.2.IsNotice) → .debounced ∉ after.server.actions messages →
          (after.server.receiveAll messages).sent = [] ∧
          ∀ tree, ∀ step ∈ (after.server.receiveAll messages).server.settle tree, step.sent = []) := by
  intro renewed after
  have step : after = s.dispatch around (renewed.recordEdit document around.now) :=
    step_receive_config phase method id saved config
  have stillOpen : renewed.session.isOpen := (Workspace.renewed_eq _ _).1.trans isOpen
  have idle : renewed.session.debouncer.deadline = none := (Workspace.renewed_eq _ _).2
  have toml : renewed.session.accepts document ↔ renewed.session.extension = "toml" := by
    rw [Session.accepts, Config.hasExtension_iff config,
      (s.workspace.coherent_configure around.tree s.workspace.root).bareExtension_extension]
  rw [step]
  obtain ⟨accepts, e⟩ | ⟨refuses, e⟩ := Workspace.recordEdit_cases stillOpen document around.now
  · -- The saved file is a document itself, which is edited.
    have extension := toml.mp accepts
    obtain ⟨active, same⟩ := renewed.session.withActive_eq document
    rw [e, same]
    exact ⟨rfl, iff_of_true ⟨stillOpen, _, rfl, rfl⟩ extension, fun other => absurd extension other⟩
  · have extension := mt toml.mpr refuses
    rw [e]
    refine ⟨rfl, iff_of_false (fun armed => ?_) extension, fun _ => ⟨rfl, stillOpen, ?_⟩⟩
    · obtain ⟨_, time, _, deadline⟩ := armed
      exact absurd (idle.symm.trans deadline) (by simp)
    · intro messages notices ignored
      obtain ⟨sent, _, _, kept⟩ := receiveAll_cases (s := { s with workspace := renewed }) phase notices
      exact ⟨sent, (kept ignored (.inr idle)).settle⟩

/-- A figure loses its label when no character after it is searched any more. -/
theorem isArmed_iff_of_saved_config_lookahead :
    let tree (config : String) : FileTree := ⟨[(["w"], .directory), (["w", "p.png"], .file "".toUTF8),
      (["w", "a.typ"], .file "#figure(image(\"p.png\")) <l>".toUTF8), (["w", "typfig.toml"], .file config.toUTF8)], []⟩
    let around (config : String) (now : Nat) : Surroundings := ⟨tree config, now, .null⟩
    let start : Incoming := ⟨"initialize", some (.object [("capabilities", .object []), ("rootUri", .string "file:///w")]),
      some (.nat 1)⟩
    let gallery : Incoming := ⟨"typfig/openGallery", some (.object [("uri", .string "file:///w/a.typ")]), some (.nat 2)⟩
    let s := ((fresh.receive (around "" 0) start).step.server.receive (around "" 0) gallery).step.server
    let save : Incoming := ⟨"textDocument/didSave", some (.object [
      ("textDocument", .object [("uri", .string "file:///w/typfig.toml")])]), none⟩
    let final := around "label_lookahead = 0" 1
    let after := (s.receive final save).step
    let labels (w : Workspace) := (w.scan final.tree).map fun scan => scan.figures.map (·.label)
    s.Reachable ∧ s.phase = .initialized ∧ s.workspace.session.isOpen ∧
      Notice.ofMessage? save = some (.saved ⟨"/w/typfig.toml"⟩) ∧
      labels s.workspace = some ["<l>"] ∧ labels after.server.workspace = some [""] ∧
      after.sent = [] ∧ ¬ after.server.IsArmed ∧ ∀ step ∈ after.server.settle final.tree, step.sent = [] := by
  intro tree around start gallery s save final after labels
  have phase : s.phase = .initialized := by decide +kernel
  have isOpen : s.workspace.session.isOpen := by decide +kernel
  have saved : Notice.ofMessage? save = some (.saved ⟨"/w/typfig.toml"⟩) := by decide +kernel
  have extension : (s.workspace.configure final.tree s.workspace.root).session.extension ≠ "toml" := by decide +kernel
  obtain ⟨sent, armed, kept⟩ := @isArmed_iff_of_saved_config s final save _ phase isOpen rfl rfl saved rfl
  obtain ⟨_, _, quiet⟩ := kept extension
  exact ⟨.receive _ _ (.receive _ _ .fresh), phase, isOpen, saved, by decide +kernel, by decide +kernel, sent,
    mt armed.mp extension, (quiet [] (by simp) (by simp [actions])).2 final.tree⟩

end Server

end FigureGallery
