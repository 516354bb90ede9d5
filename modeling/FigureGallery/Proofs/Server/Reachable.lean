import FigureGallery.Proofs.Workspace.Coherence
import FigureGallery.Server.Receive

/-!
# Reachable servers

The servers that messages and timers make of a fresh one. Whatever a message is, what it does to the workspace is a run
of operations, so that the workspace of a reachable server is reachable.
-/

namespace FigureGallery.Server

/-- A server that messages and timers make of a fresh one. -/
inductive Reachable : Server → Prop where
  | fresh :
    Reachable fresh
  | receive {s} (around : Surroundings) (message : Incoming) :
    Reachable s →
    Reachable (s.receive around message).step.server
  | wake {s} (tree : FileTree) (now : Nat) :
    Reachable s →
    Reachable (s.wake tree now).server

/-- The workspace of a server is what operations make of a workspace. -/
def Runs (w : Workspace) (s : Server) : Prop :=
  ∃ operations, s.workspace = w.run operations

variable {s : Server}

/-- No operation at all. -/
lemma Runs.none {w : Workspace} (h : s.workspace = w) : s.Runs w :=
  ⟨[], h⟩

/-- One operation. -/
lemma Runs.one {w : Workspace} (operation : Workspace.Operation) (h : s.workspace = w.step operation) : s.Runs w :=
  ⟨[operation], h⟩

/-- The workspace after the session's answer is the one that came with the answer. -/
@[simp]
lemma workspace_dispatch (s : Server) (around : Surroundings) (asked : Action × Workspace) :
    (s.dispatch around asked).server.workspace = asked.2 := by
  rw [dispatch]
  split <;> rfl

/-- What the session answers is sent on, whatever it is: the workspace is the one that came with the answer. -/
lemma Runs.dispatch {w : Workspace} {around : Surroundings} {asked : Action × Workspace}
    (h : ∃ operations, asked.2 = w.run operations) : (s.dispatch around asked).server.Runs w := by
  obtain ⟨operations, e⟩ := h
  exact ⟨operations, (s.workspace_dispatch around asked).trans e⟩

/-- A refused message changes nothing. -/
lemma runs_refused (s : Server) (id : Option Json) (refusal : Refusal) :
    (s.refused id refusal).step.server.Runs s.workspace :=
  .none rfl

/-- A message that is passed over changes nothing. -/
lemma runs_passedOver (s : Server) : s.passedOver.step.server.Runs s.workspace :=
  .none rfl

/-- A notification about a document is passed over, or does what it does with the document. -/
lemma runs_aboutDocument {α : Type} (params : Except ParamsFault α) (uri : α → Uri) (act : α → Path → Turn)
    (h : ∀ a document, (act a document).step.server.Runs s.workspace) :
    (s.aboutDocument params uri act).step.server.Runs s.workspace := by
  unfold aboutDocument
  split
  · split
    · exact h _ _
    · exact s.runs_passedOver
  · exact s.runs_passedOver

/-- Changes of a document are two operations, or one when they break off. -/
lemma runs_didChange (s : Server) (around : Surroundings) (document : Path) (changes : List Change) :
    (s.didChange around document changes).2.Runs s.workspace := by
  rw [didChange]
  dsimp only
  split
  · exact .one (.applyChanges document changes) rfl
  · exact .dispatch ⟨[.applyChanges document changes, .recordEdit document around.now], rfl⟩

/-- A saved document is one operation, or two when it is a configuration. -/
lemma runs_didSave (s : Server) (around : Surroundings) (document : Path) :
    (s.didSave around document).server.Runs s.workspace := by
  rw [didSave]
  split
  · exact .dispatch ⟨[.configure around.tree s.workspace.root, .recordEdit document around.now], rfl⟩
  · exact .dispatch ⟨[.recordEdit document around.now], rfl⟩

/-- A message that fits the phase and its method does operations. -/
lemma runs_perform (s : Server) (around : Surroundings) (method : Method) (id params : Option Json) :
    (s.perform around method id params).step.server.Runs s.workspace := by
  cases method with
  | start =>
    rw [perform, start]
    split
    · exact s.runs_refused _ _
    · exact .one (.configure around.tree _) rfl
  | started =>
    rw [perform]
    split
    · exact .none rfl
    · exact s.runs_passedOver
  | shutdown =>
    rw [perform]
    split
    · exact .none rfl
    · exact s.runs_refused _ _
  | exit => exact s.runs_passedOver
  | didOpen =>
    exact runs_aboutDocument _ _ _ fun p document => .dispatch ⟨[.openDocument document p.text around.now], rfl⟩
  | didChange =>
    refine runs_aboutDocument _ _ _ fun p document => ?_
    have runs := s.runs_didChange around document p.changes
    have server : ∀ step, (s.didChange around document p.changes).1 = .ok step →
        step.server = (s.didChange around document p.changes).2 := by
      rw [didChange]
      dsimp only
      split
      · simp
      · intro step e
        obtain rfl := Except.ok.inj e
        rfl
    split
    · rename_i step after e
      rw [noticed, server step (by rw [e])]
      exact runs
    · rename_i error after e
      rw [e] at runs
      exact runs
  | didSave => exact runs_aboutDocument _ _ _ fun p document => s.runs_didSave around document
  | didClose =>
    exact runs_aboutDocument _ _ _ fun p document => .dispatch ⟨[.closeDocument around.tree document around.now], rfl⟩
  | openGallery =>
    rw [perform]
    split
    · exact s.runs_refused _ _
    · exact .one (.openGallery _ around.now) rfl
  | closeGallery =>
    rw [perform]
    split
    · exact .one .closeGallery rfl
    · exact s.runs_passedOver
  | activeDocumentChanged =>
    exact runs_aboutDocument _ _ _ fun p document => .dispatch ⟨[.activeChanged document around.now], rfl⟩
  | navigate =>
    rw [perform]
    split
    · exact s.runs_refused _ _
    · rename_i p _
      refine .none ?_
      change (s.navigate around p.path p.line).2.server.workspace = s.workspace
      rw [navigate]
      split
      · rw [showTarget]
        split <;> rfl
      · rfl
  | cancel => exact s.runs_passedOver
  | unsupportedRequest name =>
    rw [perform]
    split <;> exact s.runs_refused _ _
  | unsupportedNotification => exact s.runs_passedOver

/-- A message of a known kind does operations. -/
lemma runs_take (s : Server) (around : Surroundings) (method : Method) (id params : Option Json) :
    (s.take around method id params).step.server.Runs s.workspace := by
  rw [take]
  split
  · exact s.runs_passedOver
  · exact s.runs_refused _ _
  · exact s.runs_perform around method id params

/-- A message of a known method does operations. -/
lemma runs_enter (s : Server) (around : Surroundings) (method : Method) (id params : Option Json) :
    (s.enter around method id params).step.server.Runs s.workspace := by
  have taken (method : Method) : (s.take around method id params).step.server.Runs s.workspace :=
    s.runs_take around method id params
  unfold enter
  split
  · exact .none rfl
  · exact taken .cancel
  · split
    · exact taken .start
    · exact s.runs_refused _ _
  · split
    · exact runs_take { s with phase := .shutDown } around .shutdown id params
    · exact s.runs_refused _ _
  · split
    · exact taken method
    · exact s.runs_refused _ _

/-- A message does operations. -/
lemma runs_receive (s : Server) (around : Surroundings) (message : Incoming) :
    (s.receive around message).step.server.Runs s.workspace := by
  rw [receive]
  split
  · exact .none rfl
  · split
    · exact s.runs_enter around _ _ _
    · split
      · exact s.runs_passedOver
      · exact s.runs_refused _ _

/-- What operations make of a reachable workspace is reachable. -/
lemma Runs.reachable {w : Workspace} (runs : s.Runs w) (reachable : w.Reachable) : s.workspace.Reachable := by
  obtain ⟨more, e⟩ := runs
  obtain ⟨operations, rfl⟩ := reachable
  exact ⟨operations ++ more, by rw [e, Workspace.run_append]⟩

/-- The workspace of a reachable server is reachable. -/
lemma Reachable.workspace (reachable : s.Reachable) : s.workspace.Reachable := by
  induction reachable with
  | fresh => exact ⟨[], rfl⟩
  | @receive s around message _ ih => exact (s.runs_receive around message).reachable ih
  | @wake s tree now _ ih =>
    have runs : (s.wake tree now).server.Runs s.workspace := .one (.takeDue now) rfl
    exact runs.reachable ih

end FigureGallery.Server
