import FigureGallery.Proofs.Server.Reachable

/-!
# Notices about documents

What a client tells of its documents, and when the server publishes figures after it. A notice never publishes anything
by itself: it sets the deadline of the session and the timer to the same time, or it leaves both alone. So after any
number of notices the timer that is left is the one that the session waits for, and when it runs out, the figures of the
documents as they are then are published, once.
-/

namespace FigureGallery

namespace Server

/-- What a client tells of a document. -/
inductive Notice where
  | opened (document : Path) (text : String)
  | changed (document : Path) (changes : List Change)
  | saved (document : Path)
  | closed (document : Path)
  /-- The document became active. -/
  | activated (document : Path)
deriving DecidableEq

namespace Notice

/-- A notice about the document that some parameters name, if they fit and name a path. -/
def located {α : Type} (params : Except ParamsFault α) (uri : α → Uri) (notice : α → Path → Notice) : Option Notice :=
  match params with
  | .ok a => (uri a).toPath?.map (notice a)
  | .error _ => none

/-- The notice that a method with some parameters is. -/
def read? : Method → Option Json → Option Notice
  | .didOpen, params =>
    located (paramsOf Schema.didOpen DidOpen.ofJson? params) (·.uri) fun p document => .opened document p.text
  | .didChange, params =>
    located (paramsOf Schema.didChange DidChange.ofJson? params) (·.uri) fun p document => .changed document p.changes
  | .didSave, params => located (paramsOf Schema.didSave didSave? params) (·.uri) fun _ => .saved
  | .didClose, params => located (paramsOf Schema.didClose didClose? params) (·.uri) fun _ => .closed
  | .activeDocumentChanged, params =>
    located (paramsOf Schema.activeDocument ActiveDocument.ofJson? params) (·.uri) fun _ => .activated
  | _, _ => none

/-- The notice that a message is. -/
def ofMessage? (message : Incoming) : Option Notice :=
  (Method.ofName? message.method).bind fun method => read? method message.params

/-- The methods that tell of documents. -/
def methods : List String := [
  "textDocument/didOpen", "textDocument/didChange", "textDocument/didSave", "textDocument/didClose",
  "typfig/activeDocumentChanged"]

/-- What the session answers to a notice, and the workspace after it. Changes that cannot be applied break off, and the
session is not asked. -/
def answer (w : Workspace) (around : Surroundings) : Notice → Action × Workspace
  | .opened document text => w.openDocument document text around.now
  | .changed document changes => match w.applyChanges document changes with
    | (w, none) => w.recordEdit document around.now
    | (w, some _) => (.ignore, w)
  | .saved document =>
    (if Config.isConfigFile document then w.configure around.tree w.root else w).recordEdit document around.now
  | .closed document => w.closeDocument around.tree document around.now
  | .activated document => w.handle (.activeChanged document) around.now

/-- A notice that does not make the configuration be read sets the deadline of an open gallery, or it is ignored and
leaves the deadline alone. -/
lemma answer_cases (w : Workspace) (around : Surroundings) {notice : Notice}
    (keeps : ∀ document, notice = .saved document → ¬ Config.isConfigFile document) :
    ((notice.answer w around).1 = .debounced ∧ (notice.answer w around).2.session.isOpen ∧
        (notice.answer w around).2.session.debouncer = w.session.debouncer.trigger around.now) ∨
      ((notice.answer w around).1 = .ignore ∧ (notice.answer w around).2.session.isOpen = w.session.isOpen ∧
        (notice.answer w around).2.session.debouncer = w.session.debouncer) := by
  -- Which document is active decides neither the deadline nor whether the gallery is open.
  have edited (active : Option Path) (document : Path) :=
    Session.handle_cases { w.session with active } (show Trigger.textChanged document ≠ .openRequested by simp) around.now
  cases notice with
  | opened document text => exact w.session.handle_cases (by simp) around.now
  | changed document changes =>
    have same := w.session_applyChanges document changes
    rw [answer]
    split
    · rename_i after e
      rw [e] at same
      obtain ⟨active, e⟩ := w.session.withActive_eq document
      rw [Workspace.recordEdit, same, e]
      exact edited active document
    · rename_i after _ e
      rw [e] at same
      exact .inr ⟨rfl, congrArg Session.isOpen same, congrArg Session.debouncer same⟩
  | saved document =>
    obtain ⟨active, e⟩ := w.session.withActive_eq document
    rw [answer, if_neg (keeps document rfl), Workspace.recordEdit, e]
    exact edited active document
  | closed document =>
    obtain ⟨active, e⟩ := w.session.withoutActive_eq document
    rw [answer, Workspace.closeDocument, e]
    split
    · exact edited w.session.active document
    · exact edited active document
  | activated document => exact w.session.handle_cases (by simp) around.now

end Notice

variable {s : Server}

/-- A message that tells of a document: a notification, and not of a configuration that was saved. -/
structure Incoming.IsNotice (message : Incoming) : Prop where
  method : message.method ∈ Notice.methods
  id : message.id = none
  keeps : ∀ document, Notice.ofMessage? message = some (.saved document) → ¬ Config.isConfigFile document

/-- What the session answers to a message. It is not asked about one that is passed over. -/
def answerOf (s : Server) (around : Surroundings) (message : Incoming) : Action × Workspace :=
  (Notice.ofMessage? message).elim (.ignore, s.workspace) (·.answer s.workspace around)

/-- A notification about a document does what the session answers to its notice. -/
lemma step_aboutDocument {α : Type} (s : Server) (around : Surroundings) (params : Except ParamsFault α) (uri : α → Uri)
    {act : α → Path → Turn} {notice : α → Path → Notice}
    (h : ∀ a document, (act a document).step = s.dispatch around ((notice a document).answer s.workspace around)) :
    (s.aboutDocument params uri act).step = s.dispatch around
      ((Notice.located params uri notice).elim (.ignore, s.workspace) (·.answer s.workspace around)) := by
  unfold aboutDocument Notice.located
  cases params with
  | error fault => rfl
  | ok a =>
    dsimp only
    cases (uri a).toPath? with
    | none => rfl
    | some document => exact h a document

/-- An initialized server does with a notification about a document what the session answers to its notice. -/
lemma step_receive (phase : s.phase = .initialized) (around : Surroundings) {message : Incoming}
    (kind : message.method ∈ Notice.methods) (id : message.id = none) :
    (s.receive around message).step = s.dispatch around (s.answerOf around message) := by
  obtain ⟨name, params, id?⟩ := message
  obtain rfl : id? = none := id
  -- What is left to show for each method: that it is taken, and does what the session answers to its notice.
  have performed {method : Method} (known : Method.ofName? name = some method)
      (taken : s.enter around method none params = s.perform around method none params)
      (h : (s.perform around method none params).step = s.dispatch around
        ((Notice.read? method params).elim (.ignore, s.workspace) (·.answer s.workspace around))) :
      (s.receive around ⟨name, params, none⟩).step = s.dispatch around (s.answerOf around ⟨name, params, none⟩) := by
    rw [receive, if_neg (by simp [phase]), answerOf, Notice.ofMessage?, known]
    dsimp only
    rw [taken]
    exact h
  simp only [Notice.methods, List.mem_cons, List.not_mem_nil, or_false] at kind
  rcases kind with rfl | rfl | rfl | rfl | rfl
  · exact performed (show _ = some Method.didOpen from rfl) (if_pos phase)
      (s.step_aboutDocument around _ _ fun p document => rfl)
  · refine performed (show _ = some Method.didChange from rfl) (if_pos phase)
      (s.step_aboutDocument around _ _ fun p document => ?_)
    rw [didChange, Notice.answer]
    obtain ⟨after, error⟩ := s.workspace.applyChanges document p.changes
    cases error with
    | none => rfl
    | some error => rfl
  · exact performed (show _ = some Method.didSave from rfl) (if_pos phase)
      (s.step_aboutDocument around _ _ fun p document => rfl)
  · exact performed (show _ = some Method.didClose from rfl) (if_pos phase)
      (s.step_aboutDocument around _ _ fun p document => rfl)
  · exact performed (show _ = some Method.activeDocumentChanged from rfl) (if_pos phase)
      (s.step_aboutDocument around _ _ fun p document => rfl)

/-- What the session answers to messages, one after another. -/
def actions (s : Server) : List (Surroundings × Incoming) → List Action
  | [] => []
  | (around, message) :: messages =>
    (s.answerOf around message).1 :: (s.receive around message).step.server.actions messages

/-- The server after messages, one after another, and all that it sent. No timer runs out in between. -/
def receiveAll (s : Server) : List (Surroundings × Incoming) → Step
  | [] => ⟨s, []⟩
  | (around, message) :: messages =>
    let step := (s.receive around message).step
    let rest := step.server.receiveAll messages
    ⟨rest.server, step.sent ++ rest.sent⟩

/-- An open gallery whose session waits until the timer runs out. -/
def IsArmed (s : Server) : Prop :=
  s.workspace.session.isOpen ∧ ∃ time, s.timer = some time ∧ s.workspace.session.debouncer.deadline = some time

/-- A server that waits for no scan: no timer runs, or the session has no deadline. -/
def IsIdle (s : Server) : Prop :=
  s.timer = none ∨ s.workspace.session.debouncer.deadline = none

/-- A notice sends nothing. It arms the server, or it is ignored and the server waits as before. -/
lemma receive_cases (phase : s.phase = .initialized) (around : Surroundings) {message : Incoming}
    (notice : message.IsNotice) :
    (s.receive around message).step.sent = [] ∧ (s.receive around message).step.server.phase = .initialized ∧
      (((s.answerOf around message).1 = .debounced ∧ (s.receive around message).step.server.IsArmed) ∨
        ((s.answerOf around message).1 = .ignore ∧
          (s.IsArmed → (s.receive around message).step.server.IsArmed) ∧
          (s.IsIdle → (s.receive around message).step.server.IsIdle))) := by
  have cases : ((s.answerOf around message).1 = .debounced ∧ (s.answerOf around message).2.session.isOpen ∧
        (s.answerOf around message).2.session.debouncer = s.workspace.session.debouncer.trigger around.now) ∨
      ((s.answerOf around message).1 = .ignore ∧
        (s.answerOf around message).2.session.isOpen = s.workspace.session.isOpen ∧
        (s.answerOf around message).2.session.debouncer = s.workspace.session.debouncer) := by
    rw [answerOf]
    cases e : Notice.ofMessage? message with
    | none => exact .inr ⟨rfl, rfl, rfl⟩
    | some told => exact Notice.answer_cases _ _ fun document saved => notice.keeps document (by rw [e, saved])
  rw [step_receive phase around notice.method notice.id]
  generalize s.answerOf around message = asked at cases ⊢
  obtain ⟨action, after⟩ := asked
  obtain ⟨rfl, isOpen, debouncer⟩ | ⟨rfl, isOpen, debouncer⟩ := cases
  · refine ⟨rfl, phase, .inl ⟨rfl, isOpen, _, rfl, ?_⟩⟩
    change after.session.debouncer.deadline = some (around.now + after.session.debouncer.delay)
    rw [show after.session.debouncer = _ from debouncer]
    rfl
  · refine ⟨rfl, phase, .inr ⟨rfl, fun ⟨wasOpen, time, timer, deadline⟩ => ?_, fun idle => ?_⟩⟩
    · exact ⟨isOpen.trans wasOpen, time, timer, (congrArg Debouncer.deadline debouncer).trans deadline⟩
    · exact idle.imp_right (congrArg Debouncer.deadline debouncer).trans

/-- Notices send nothing. If one of them is answered with a scan to come, the server is armed after them; otherwise the
server waits as before. -/
lemma receiveAll_cases {messages : List (Surroundings × Incoming)} (phase : s.phase = .initialized)
    (notices : ∀ message ∈ messages, message.2.IsNotice) :
    (s.receiveAll messages).sent = [] ∧ (s.receiveAll messages).server.phase = .initialized ∧
      (.debounced ∈ s.actions messages ∨ s.IsArmed → (s.receiveAll messages).server.IsArmed) ∧
      (.debounced ∉ s.actions messages → s.IsIdle → (s.receiveAll messages).server.IsIdle) := by
  induction messages generalizing s with
  | nil => exact ⟨rfl, phase, fun armed => armed.resolve_left (by simp [actions]), fun _ idle => idle⟩
  | cons message messages ih =>
    obtain ⟨around, message⟩ := message
    obtain ⟨first, rest⟩ := List.forall_mem_cons.mp notices
    obtain ⟨sent, phase, cases⟩ := receive_cases phase around first
    obtain ⟨restSent, restPhase, armed, idle⟩ := ih phase rest
    rw [receiveAll, actions]
    refine ⟨by simp [sent, restSent], restPhase, fun debounced => armed ?_, fun ignored => ?_⟩
    · obtain ⟨_, now⟩ | ⟨action, kept, _⟩ := cases
      · exact .inr now
      · rw [action] at debounced
        exact debounced.imp (by simp) kept
    · obtain ⟨action, _⟩ | ⟨action, _, kept⟩ := cases
      · simp [action] at ignored
      · exact fun before => idle (fun mem => ignored (.tail _ mem)) (kept before)

/-- When the timer of an armed server runs out, the figures of the documents as they are then are published. -/
lemma IsArmed.wake (armed : s.IsArmed) (phase : s.phase = .initialized) :
    ∃ time, s.timer = some time ∧ ∀ tree now, time ≤ now →
      (s.wake tree now).sent = (s.workspace.scan tree).toList.map (.figureSet ·.figures) := by
  obtain ⟨isOpen, time, timer, deadline⟩ := armed
  refine ⟨time, timer, fun tree now late => ?_⟩
  have due : s.workspace.session.debouncer.isDue now := by simpa [Debouncer.isDue, deadline] using late
  have taken : (s.workspace.takeDue now).1 = true := by
    rw [Workspace.takeDue, Session.takeDue, if_pos isOpen, Debouncer.takeDue, if_pos due]
  have connected : s.isConnected := by simp [isConnected, phase]
  have scan : (s.workspace.takeDue now).2.scan tree = s.workspace.scan tree := by
    rw [Workspace.takeDue, Session.takeDue, if_pos isOpen]
    rfl
  rw [Server.wake]
  dsimp only
  rw [if_pos taken, scan, published, delivered]
  exact if_pos connected

/-- When the timer of an idle server runs out, nothing is published. -/
lemma IsIdle.settle (idle : s.IsIdle) (tree : FileTree) : ∀ step ∈ s.settle tree, step.sent = [] := by
  intro step mem
  obtain ⟨time, timer, rfl⟩ := Option.map_eq_some_iff.mp mem
  have deadline := idle.resolve_left (by simp [timer])
  have early : (s.workspace.takeDue time).1 = false := by
    simp [Workspace.takeDue, Session.takeDue, Debouncer.takeDue, Debouncer.isDue, deadline]
  rw [wake]
  dsimp only
  rw [early]
  rfl

/-- A server that messages make of a reachable one is reachable. -/
lemma Reachable.receiveAll (reachable : s.Reachable) (messages : List (Surroundings × Incoming)) :
    (s.receiveAll messages).server.Reachable := by
  induction messages generalizing s with
  | nil => exact reachable
  | cons message messages ih => exact ih (reachable.receive message.1 message.2)

/-- Notices publish nothing, however many there are and in whatever order. If one of them was answered with a scan to
come, the timer that is left publishes the figures of the documents as they are when it runs out, once, or nothing when
no document is active any more. If none was and the server was idle before, the timer publishes nothing. -/
theorem settle_publishes_last_scan (reachable : s.Reachable) (phase : s.phase = .initialized)
    {messages : List (Surroundings × Incoming)} (notices : ∀ message ∈ messages, message.2.IsNotice) :
    let last := (s.receiveAll messages).server
    (s.receiveAll messages).sent = [] ∧
      (.debounced ∈ s.actions messages → ∃ time, (∀ tree, last.settle tree = some (last.wake tree time)) ∧
        ∀ tree now, time ≤ now →
          (last.wake tree now).sent = (last.workspace.scan tree).toList.map (.figureSet ·.figures) ∧
          (last.wake tree now).sent.length = (if last.workspace.session.active.isSome then 1 else 0) ∧
          (last.wake tree now).server.settle tree = none) ∧
      (.debounced ∉ s.actions messages → s.IsIdle → ∀ tree, ∀ step ∈ last.settle tree, step.sent = []) := by
  intro last
  obtain ⟨sent, phase, armed, idle⟩ := receiveAll_cases phase notices
  refine ⟨sent, fun debounced => ?_, fun ignored before => (idle ignored before).settle⟩
  obtain ⟨time, timer, publishes⟩ := (armed (.inl debounced)).wake phase
  refine ⟨time, fun tree => by rw [settle, timer]; rfl, fun tree now late => ⟨publishes tree now late, ?_, rfl⟩⟩
  have coherent := (reachable.receiveAll messages).workspace.coherent
  rw [publishes tree now late, List.length_map, ← coherent.isSome_scan tree]
  cases last.workspace.scan tree <;> rfl

/-- A document that is opened and then changed while the gallery is open, and a file that is no document. -/
theorem settle_publishes_last_scan_changed :
    let around (now : Nat) : Surroundings := ⟨⟨[], []⟩, now, .null⟩
    let start : Incoming := ⟨"initialize", some (.object [("capabilities", .object [])]), some (.nat 1)⟩
    let gallery : Incoming := ⟨"typfig/openGallery", some (.object []), some (.nat 2)⟩
    let s := ((fresh.receive (around 0) start).step.server.receive (around 0) gallery).step.server
    let uri := ("uri", Json.string "file:///a.typ")
    let opening : Incoming := ⟨"textDocument/didOpen", some (.object [("textDocument", .object [
      uri, ("languageId", .string "typst"), ("version", .nat 1), ("text", .string "")])]), none⟩
    let change : Incoming := ⟨"textDocument/didChange", some (.object [
      ("textDocument", .object [uri, ("version", .nat 2)]),
      ("contentChanges", .array [.object [("text", .string "= A")]])]), none⟩
    let other : Incoming := ⟨"textDocument/didSave", some (.object [
      ("textDocument", .object [("uri", .string "file:///a.txt")])]), none⟩
    let messages := [(around 1, opening), (around 2, change)]
    s.Reachable ∧ s.phase = .initialized ∧ (∀ message ∈ messages, message.2.IsNotice) ∧ .debounced ∈ s.actions messages ∧
      (∀ tree, ∃ step, (s.receiveAll messages).server.settle tree = some step ∧ step.sent.length = 1) ∧
      other.IsNotice ∧ .debounced ∉ s.actions [(around 1, other)] ∧ s.IsIdle ∧
      ∀ tree, ∀ step ∈ (s.receiveAll [(around 1, other)]).server.settle tree, step.sent = [] := by
  intro around start gallery s uri opening change other messages
  have reachable : s.Reachable := .receive _ _ (.receive _ _ .fresh)
  have phase : s.phase = .initialized := by decide +kernel
  have openingIs : opening.IsNotice := by
    have told : Notice.ofMessage? opening = some (.opened ⟨"/a.typ"⟩ "") := by decide +kernel
    exact ⟨by decide +kernel, rfl, fun document saved => by simp [told] at saved⟩
  have changeIs : change.IsNotice := by
    have told : Notice.ofMessage? change = some (.changed ⟨"/a.typ"⟩ [⟨none, "= A"⟩]) := by decide +kernel
    exact ⟨by decide +kernel, rfl, fun document saved => by simp [told] at saved⟩
  have otherIs : other.IsNotice := by
    have told : Notice.ofMessage? other = some (.saved ⟨"/a.txt"⟩) := by decide +kernel
    refine ⟨by decide +kernel, rfl, fun document saved => ?_⟩
    obtain rfl : ⟨"/a.txt"⟩ = document := by simpa [told] using saved
    decide +kernel
  have notices : ∀ message ∈ messages, message.2.IsNotice := by simp [messages, openingIs, changeIs]
  have debounced : Action.debounced ∈ s.actions messages := by decide +kernel
  have ignored : Action.debounced ∉ s.actions [(around 1, other)] := by decide +kernel
  have idle : s.IsIdle := .inl rfl
  have active : (s.receiveAll messages).server.workspace.session.active.isSome := by decide +kernel
  refine ⟨reachable, phase, notices, debounced, ?_, otherIs, ignored, idle, ?_⟩
  · obtain ⟨time, settled, published⟩ := (settle_publishes_last_scan reachable phase notices).2.1 debounced
    refine fun tree => ⟨_, settled tree, ?_⟩
    rw [(published tree time le_rfl).2.1, if_pos active]
  · have others : ∀ message ∈ [(around 1, other)], message.2.IsNotice := by simpa using otherIs
    exact (settle_publishes_last_scan reachable phase others).2.2 ignored idle

end Server

end FigureGallery
