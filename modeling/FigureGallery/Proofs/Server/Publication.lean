import FigureGallery.Proofs.Scanner.Scan
import FigureGallery.Proofs.Server.Handling

/-!
# When figures are published

Figures are sent in two ways: at once, when the gallery is asked for, and when the timer of a scan that is waited for runs
out. The state of the server follows from what happened so far: the gallery is open if it was asked for and not closed
since then, and the timer is the one that the last notice set, unless a scan took place or was given up since then. So
figures are sent only to an open gallery, and no timer survives the gallery's closing.
-/

namespace FigureGallery.Server

/-- What happens to a server. The files may be different ones each time. -/
inductive Event where
  | message (around : Surroundings) (message : Incoming)
  /-- A time comes at which the timer may run out. -/
  | time (tree : FileTree) (now : Nat)

/-- The files at the time of an event. -/
def Event.tree : Event → FileTree
  | .message around _ => around.tree
  | .time tree _ => tree

/-- Whether the timer runs out at a time. -/
def isTimeUp (s : Server) (now : Nat) : Bool :=
  s.timer.any (· ≤ now)

/-- What a server does at an event. -/
def turn (s : Server) : Event → Turn
  | .message around message => s.receive around message
  | .time tree now => if s.isTimeUp now then noticed (s.wake tree now) else s.passedOver

/-- An event, and the server that it happens to. -/
structure Moment where
  server : Server
  event : Event

namespace Moment

/-- The gallery is asked for. -/
def Opens (m : Moment) : Prop :=
  ∃ around message, m.event = .message around message ∧ m.server.Opens message

/-- The gallery is closed. -/
def Closes (m : Moment) : Prop :=
  ∃ around message, m.event = .message around message ∧ m.server.Closes message

/-- A scan that was waited for is no longer: the timer runs out, the gallery is asked for or closed, or the server is shut
down. -/
def Settles (m : Moment) : Prop :=
  match m.event with
  | .message _ message => m.server.Settles message
  | .time _ now => m.server.isTimeUp now

/-- A notice sets the timer to a time: the session answers it with a scan to come, which the new delay puts off. -/
def Arms (time : Nat) (m : Moment) : Prop :=
  ∃ around message, m.event = .message around message ∧ m.server.Tells message ∧
    (m.server.answerOf around message).1 = .debounced ∧
    time = around.now + (m.server.answerOf around message).2.session.debouncer.delay

end Moment

/-- The server after events, one after another. -/
def after (s : Server) : List Event → Server
  | [] => s
  | event :: events => (s.turn event).step.server.after events

/-- Each event with the server that it happens to. -/
def moments (s : Server) : List Event → List Moment
  | [] => []
  | event :: events => ⟨s, event⟩ :: (s.turn event).step.server.moments events

/-- The gallery was asked for, and was not closed since then. -/
def LastOpened (history : List Moment) : Prop :=
  Session.Since Moment.Opens (fun m => ¬ m.Closes) history

/-- The last notice that set the timer set it to a time, and no scan took place or was given up since then. -/
def LastArmed (history : List Moment) (time : Nat) : Prop :=
  Session.Since (Moment.Arms time) (fun m => (∀ other, ¬ m.Arms other) ∧ ¬ m.Settles) history

variable {s : Server} {around : Surroundings} {message : Incoming} {history : List Moment} {event : Event}

/-- No trigger but the request for the gallery opens it, closes it or scans at once. -/
lemma isOpen_handle (session : Session) {trigger : Trigger} (other : trigger ≠ .openRequested) (now : Nat) :
    (session.handle trigger now).2.isOpen = session.isOpen ∧ (session.handle trigger now).1 ≠ .scanNow := by
  cases trigger with
  | openRequested => exact absurd rfl other
  | activeChanged document =>
    obtain ⟨active, e⟩ := session.withActive_eq document
    rw [Session.handle, e]
    split
    · exact ⟨rfl, by simp⟩
    · exact ⟨rfl, by simp⟩
  | textChanged document =>
    rw [Session.handle]
    split
    · exact ⟨rfl, by simp⟩
    · exact ⟨rfl, by simp⟩

/-- A notice neither opens nor closes the gallery, and never scans at once. -/
lemma Notice.isOpen_answer (w : Workspace) (around : Surroundings) (notice : Notice) :
    (notice.answer w around).2.session.isOpen = w.session.isOpen ∧ (notice.answer w around).1 ≠ .scanNow := by
  -- Whatever is done to the session first, an edit is the last thing that it is asked about.
  have edited {w' : Workspace} (same : w'.session.isOpen = w.session.isOpen) (document : Path) :
      (w'.recordEdit document around.now).2.session.isOpen = w.session.isOpen ∧
        (w'.recordEdit document around.now).1 ≠ .scanNow := by
    obtain ⟨active, e⟩ := w'.session.withActive_eq document
    rw [Workspace.recordEdit, e, ← same]
    exact isOpen_handle { w'.session with active } (by simp) around.now
  cases notice with
  | opened document text => exact isOpen_handle w.session (by simp) around.now
  | changed document changes =>
    have same := congrArg Session.isOpen (w.session_applyChanges document changes)
    rw [answer]
    split
    · rename_i after e
      rw [e] at same
      exact edited same document
    · rename_i after _ e
      rw [e] at same
      exact ⟨same, by simp⟩
  | saved document =>
    rw [answer]
    apply edited
    split
    · exact (Workspace.renewed_eq _ _).1
    · rfl
  | closed document =>
    obtain ⟨active, e⟩ := w.session.withoutActive_eq document
    rw [answer, Workspace.closeDocument, e]
    split
    · exact isOpen_handle w.session (by simp) around.now
    · exact isOpen_handle { w.session with active } (by simp) around.now
  | activated document => exact isOpen_handle w.session (by simp) around.now

lemma isOpen_answerOf (s : Server) (around : Surroundings) (message : Incoming) :
    (s.answerOf around message).2.session.isOpen = s.workspace.session.isOpen ∧
      (s.answerOf around message).1 ≠ .scanNow := by
  rw [answerOf]
  cases Notice.ofMessage? message with
  | none => exact ⟨rfl, by simp⟩
  | some notice => exact notice.isOpen_answer s.workspace around

namespace Moment

@[simp]
lemma opens_message : Opens ⟨s, .message around message⟩ ↔ s.Opens message := by
  simp [Opens]

@[simp]
lemma closes_message : Closes ⟨s, .message around message⟩ ↔ s.Closes message := by
  simp [Closes]

@[simp]
lemma settles_message : Settles ⟨s, .message around message⟩ ↔ s.Settles message := Iff.rfl

@[simp]
lemma settles_time {tree : FileTree} {now : Nat} : Settles ⟨s, .time tree now⟩ ↔ s.isTimeUp now := Iff.rfl

@[simp]
lemma not_opens_time {tree : FileTree} {now : Nat} : ¬ Opens ⟨s, .time tree now⟩ := by
  simp [Opens]

@[simp]
lemma not_closes_time {tree : FileTree} {now : Nat} : ¬ Closes ⟨s, .time tree now⟩ := by
  simp [Closes]

@[simp]
lemma not_arms_time {tree : FileTree} {now time : Nat} : ¬ Arms time ⟨s, .time tree now⟩ := by
  simp [Arms]

/-- A message that is no notice sets no timer. -/
lemma not_arms (tells : ¬ s.Tells message) (time : Nat) : ¬ Arms time ⟨s, .message around message⟩ := by
  rintro ⟨_, _, e, told, _⟩
  obtain ⟨rfl, rfl⟩ := Event.message.inj e
  exact tells told

end Moment

/-- What an event does to the gallery and to the timer. -/
structure Moment.Leads (m : Moment) (after : Server) : Prop where
  isOpen : after.workspace.session.isOpen ↔ m.Opens ∨ ¬ m.Closes ∧ m.server.workspace.session.isOpen
  timer time : after.timer = some time ↔
    m.Arms time ∨ ((∀ other, ¬ m.Arms other) ∧ ¬ m.Settles) ∧ m.server.timer = some time

/-- An event that settles a scan leaves no timer behind. -/
lemma Moment.Leads.of_settles {m : Moment} {after : Server} (settles : m.Settles) (arms : ∀ time, ¬ m.Arms time)
    (timer : after.timer = none)
    (isOpen : after.workspace.session.isOpen ↔ m.Opens ∨ ¬ m.Closes ∧ m.server.workspace.session.isOpen) :
    m.Leads after where
  isOpen := isOpen
  timer time := by simp [timer, settles, arms]

/-- A message that settles nothing and is no notice leaves the gallery and the timer alone. -/
lemma Moment.Leads.of_quiet {after : Server} (settles : ¬ s.Settles message) (tells : ¬ s.Tells message)
    (isOpen : after.workspace.session.isOpen = s.workspace.session.isOpen) (timer : after.timer = s.timer) :
    Moment.Leads ⟨s, .message around message⟩ after where
  isOpen := by
    have opens : ¬ s.Opens message := fun opens => settles (.inl opens)
    have closes : ¬ s.Closes message := fun closes => settles (.inr (.inl closes))
    simp [opens, closes, isOpen]
  timer time := by
    simp [Moment.not_arms tells, settles, timer]

/-- A message does to the gallery and to the timer what its rule says. -/
lemma leads_receive (s : Server) (around : Surroundings) (message : Incoming) :
    Moment.Leads ⟨s, .message around message⟩ (s.receive around message).step.server := by
  have handles := s.handles_receive around message
  generalize s.receive around message = turn at handles
  cases handles with
  | started phase given fits =>
    apply Moment.Leads.of_quiet
    · exact fun settles => absurd (phase.symm.trans settles.phase) (by simp)
    · exact fun tells => absurd (phase.symm.trans tells.phase) (by simp)
    · exact (Workspace.renewed_eq _ _).1
    · rfl
  | @opened id p takes given fits =>
    have opens : s.Opens message := ⟨takes, p, fits⟩
    have settles : s.Settles message := .inl opens
    apply Moment.Leads.of_settles (Moment.settles_message.mpr settles) (Moment.not_arms settles.not_tells) rfl
    exact iff_of_true rfl (.inl (by simpa using opens))
  | closed closes =>
    have settles : s.Settles message := .inr (.inl closes)
    apply Moment.Leads.of_settles (Moment.settles_message.mpr settles) (Moment.not_arms settles.not_tells) rfl
    have opens : ¬ s.Opens message := fun opens => opens.not_closes closes
    simp [opens, closes, noticed, closeGallery, Workspace.closeGallery, Session.closed]
  | @shut id shuts given =>
    have settles : s.Settles message := .inr (.inr shuts)
    apply Moment.Leads.of_settles (Moment.settles_message.mpr settles) (Moment.not_arms settles.not_tells) rfl
    have opens : ¬ s.Opens message := fun opens => by simpa using shuts.1.eq opens.1.known
    have closes : ¬ s.Closes message := fun closes => by simpa using shuts.1.eq closes.1.known
    simp [opens, closes]
  | told tells step =>
    rw [step]
    have unsettled : ¬ s.Settles message := fun settles => settles.not_tells tells
    have opens : ¬ s.Opens message := fun opens => unsettled (.inl opens)
    have closes : ¬ s.Closes message := fun closes => unsettled (.inr (.inl closes))
    obtain ⟨isOpen, later⟩ := s.isOpen_answerOf around message
    refine ⟨by simp [opens, closes, isOpen], fun time => ?_⟩
    rw [dispatch]
    cases action : (s.answerOf around message).1 with
    | ignore => simp [unsettled, Moment.Arms, action]
    | scanNow => exact absurd action later
    | debounced => simp [Moment.Arms, action, schedule, tells, eq_comm]
  | other phase nextRequest settles tells _ server _ =>
    rw [server]
    exact .of_quiet settles tells rfl rfl

/-- When the timer runs out the gallery stays as it is, and no timer is left. -/
lemma leads_turn (s : Server) (event : Event) : Moment.Leads ⟨s, event⟩ (s.turn event).step.server := by
  cases event with
  | message around message => exact s.leads_receive around message
  | time tree now =>
    rw [turn]
    split
    · rename_i late
      apply Moment.Leads.of_settles (Moment.settles_time.mpr late) (fun time => Moment.not_arms_time) rfl
      have same : (s.workspace.session.takeDue now).2.isOpen = s.workspace.session.isOpen := by
        rw [Session.takeDue]
        split
        · rfl
        · rfl
      simp [noticed, wake, Workspace.takeDue, same]
    · rename_i early
      exact ⟨by simp [passedOver, noticed], fun time => by simp [passedOver, noticed, early]⟩

/-- A server is as its history says: the gallery is open or not, and the timer is that of the last notice that set it, if
any. -/
structure Explains (history : List Moment) (s : Server) : Prop where
  isOpen : s.workspace.session.isOpen ↔ LastOpened history
  timer time : s.timer = some time ↔ LastArmed history time

lemma explains_fresh : Explains [] fresh where
  isOpen := by simp [fresh, Workspace.empty, Session.start, LastOpened, Session.not_since_nil]
  timer time := by simp [fresh, LastArmed, Session.not_since_nil]

lemma Explains.turn (explains : Explains history s) (event : Event) :
    Explains (history ++ [⟨s, event⟩]) (s.turn event).step.server where
  isOpen := by rw [(s.leads_turn event).isOpen, explains.isOpen, LastOpened, LastOpened, Session.since_concat]
  timer time := by rw [(s.leads_turn event).timer, explains.timer, LastArmed, LastArmed, Session.since_concat]

lemma Explains.after (explains : Explains history s) (events : List Event) :
    Explains (history ++ s.moments events) (s.after events) := by
  induction events generalizing history s with
  | nil => simpa [moments, Server.after] using explains
  | cons event events ih => simpa [moments, Server.after] using ih (explains.turn event)

lemma Reachable.turn (reachable : s.Reachable) (event : Event) : (s.turn event).step.server.Reachable := by
  cases event with
  | message around message => exact reachable.receive around message
  | time tree now =>
    rw [Server.turn]
    split
    · exact reachable.wake tree now
    · exact reachable

lemma Reachable.after (reachable : s.Reachable) (events : List Event) : (s.after events).Reachable := by
  induction events generalizing s with
  | nil => exact reachable
  | cons event events ih => exact ih (reachable.turn event)

lemma moments_concat (s : Server) (events : List Event) (event : Event) :
    s.moments (events ++ [event]) = s.moments events ++ [⟨s.after events, event⟩] := by
  induction events generalizing s with
  | nil => rfl
  | cons first events ih => simp [moments, after, ih]

/-- What is sent about a scan are its figures, once. -/
lemma of_mem_published {scan? : Option Scan} {figures : List Figure} (mem : .figureSet figures ∈ s.published scan?) :
    ∃ scan, scan? = some scan ∧ figures = scan.figures ∧ s.published scan? = [.figureSet figures] := by
  rw [published, delivered] at mem ⊢
  split at mem
  · rename_i connected
    cases scan? with
    | none => simp at mem
    | some scan =>
      obtain rfl : figures = scan.figures := by simpa using mem
      exact ⟨scan, rfl, rfl, if_pos connected⟩
  · simp at mem

/-- Figures are sent when the gallery is asked for, and when the timer runs out while the gallery is open. They are those
of the scan that the workspace makes then. -/
lemma sent_turn {figures : List Figure} (mem : .figureSet figures ∈ (s.turn event).step.sent) :
    (s.turn event).step.server.workspace.session.isOpen ∧
      ((Moment.Opens ⟨s, event⟩) ∨ ∃ tree now, event = .time tree now ∧ s.isTimeUp now) ∧
      ∃ scan, (s.turn event).step.server.workspace.scan event.tree = some scan ∧ figures = scan.figures ∧
        (s.turn event).step.sent = [.figureSet figures] := by
  cases event with
  | message around message =>
    rw [turn] at mem ⊢
    have handles := s.handles_receive around message
    generalize s.receive around message = turn at handles mem ⊢
    cases handles with
    | started => simp at mem
    | opened takes given fits =>
      exact ⟨rfl, .inl (Moment.opens_message.mpr ⟨takes, _, fits⟩), of_mem_published mem⟩
    | closed => simp [noticed] at mem
    | shut => simp at mem
    | told tells step =>
      rw [step, dispatch] at mem
      have later := (s.isOpen_answerOf around message).2
      cases action : (s.answerOf around message).1 with
      | ignore => simp [action] at mem
      | scanNow => exact absurd action later
      | debounced => simp [action] at mem
    | other phase nextRequest settles tells later server sent => exact absurd mem (sent figures)
  | time tree now =>
    rw [turn] at mem ⊢
    split at mem
    · rename_i late
      rw [if_pos late]
      simp only [noticed, wake] at mem ⊢
      split at mem
      · rename_i due
        rw [if_pos due]
        have isOpen : s.workspace.session.isOpen := (Session.takeDue_iff.mp due).1
        refine ⟨?_, .inr ⟨tree, now, rfl, late⟩, of_mem_published mem⟩
        rw [Workspace.takeDue, Session.takeDue, if_pos isOpen]
        exact isOpen
      · simp at mem
    · simp [passedOver, noticed] at mem

lemma ordinals_scan {w : Workspace} {tree : FileTree} {scan : Scan} (scanned : w.scan tree = some scan) :
    scan.figures.map (·.ordinal) = List.range' 1 scan.figures.length := by
  obtain ⟨active, _, scanned⟩ := Option.bind_eq_some_iff.mp scanned
  obtain ⟨scanner, _, rfl⟩ := Option.map_eq_some_iff.mp scanned
  exact scanner.map_ordinal_scan (w.source tree) active

/-- The answer to a request for the gallery is what is sent, or nothing at all without an active document. -/
lemma openGallery_answer (reachable : s.Reachable) (opens : s.Opens message) :
    ∃ id figures, message.id = some id ∧
      (s.receive around message).answer = .response ⟨id, .ok (.array (figures.map Figure.toJson))⟩ ∧
      let active := (s.receive around message).step.server.workspace.session.active
      (active.isSome ∧ (s.receive around message).step.sent = [.figureSet figures] ∨
        active = none ∧ figures = [] ∧ (s.receive around message).step.sent = []) := by
  have coherent := (reachable.receive around message).workspace.coherent
  obtain ⟨id, p, given, _, e⟩ := opens.receive around
  rw [e] at coherent ⊢
  refine ⟨id, _, given, rfl, ?_⟩
  have connected : (s.opened (p.uri.bind Uri.toPath?) around.now).isConnected := by
    simp [opened, isConnected, opens.1.phase]
  have active := coherent.isSome_scan around.tree
  simp only [openGallery, rescan, quiet] at active ⊢
  generalize s.opened (p.uri.bind Uri.toPath?) around.now = after at active connected ⊢
  cases scanned : after.workspace.scan around.tree with
  | some scan =>
    refine .inl ⟨by rw [← active, scanned]; rfl, ?_⟩
    simp [published, delivered, connected, figuresOf]
  | none =>
    refine .inr ⟨?_, rfl, ?_⟩
    · rw [← Option.isNone_iff_eq_none, ← Option.not_isSome, ← active, scanned]
      rfl
    · simp [published, delivered]

/-- Whatever messages come and times pass, figures are sent only to a gallery that was asked for and not closed since
then, and they are those of the scan of the workspace and the files as they are then. A request for the gallery is
answered with the figures that are sent about it, or with none when no document is active. Apart from such requests,
figures are sent when a timer runs out, and that timer was set after the last time that a scan took place or was given up:
none that was set before the gallery was closed, or the server shut down, is left to send anything. -/
theorem figures_sent_only_while_open (events : List Event) (event : Event) :
    let s := fresh.after events
    let turn := s.turn event
    let last := turn.step.server
    (∀ figures, .figureSet figures ∈ turn.step.sent →
      last.workspace.session.isOpen ∧ LastOpened (fresh.moments (events ++ [event])) ∧
      (∃ scan, last.workspace.scan event.tree = some scan ∧ figures = scan.figures) ∧
      figures.map (·.ordinal) = List.range' 1 figures.length ∧ turn.step.sent = [.figureSet figures] ∧
      (Moment.Opens ⟨s, event⟩ ∨
        ∃ tree now time, event = .time tree now ∧ time ≤ now ∧ LastArmed (fresh.moments events) time)) ∧
    (∀ around message, event = .message around message → s.Opens message →
      ∃ id figures, message.id = some id ∧
        turn.answer = .response ⟨id, .ok (.array (figures.map Figure.toJson))⟩ ∧
        (last.workspace.session.active.isSome ∧ turn.step.sent = [.figureSet figures] ∨
          last.workspace.session.active = none ∧ figures = [] ∧ turn.step.sent = [])) := by
  intro s turn last
  have explains : Explains (fresh.moments events) s := explains_fresh.after events
  refine ⟨fun figures mem => ?_, fun around message e opens => ?_⟩
  · obtain ⟨isOpen, cause, scan, scanned, rfl, sent⟩ := sent_turn mem
    refine ⟨isOpen, ?_, ⟨scan, scanned, rfl⟩, ordinals_scan scanned, sent, cause.imp_right ?_⟩
    · rw [moments_concat]
      exact (explains.turn event).isOpen.mp isOpen
    · rintro ⟨tree, now, rfl, late⟩
      obtain ⟨time, timer, le⟩ := (Option.any_eq_true _ _).mp late
      exact ⟨tree, now, time, rfl, by simpa using le, (explains.timer time).mp timer⟩
  · subst e
    exact openGallery_answer (Reachable.fresh.after events) opens

/-- A document is edited while the gallery is open, and its figure is sent when the timer runs out. When the gallery is
closed before, or the server shut down, nothing is sent at that time. -/
theorem figures_sent_only_while_open_edited :
    let tree : FileTree := ⟨[(["w"], .directory), (["w", "p.png"], .file "".toUTF8),
      (["w", "a.typ"], .file "#figure(image(\"p.png\"))".toUTF8)], []⟩
    let told (now : Nat) (name : String) (params id : Option Json) : Event := .message ⟨tree, now, .null⟩ ⟨name, params, id⟩
    let uri := ("uri", Json.string "file:///w/a.typ")
    let gallery : Incoming := ⟨"typfig/openGallery", some (.object [uri]), some (.nat 2)⟩
    let start := told 0 "initialize" (some (.object [("capabilities", .object []), ("rootUri", .string "file:///w")]))
      (some (.nat 1))
    let events := [start, .message ⟨tree, 0, .null⟩ gallery,
      told 50 "textDocument/didSave" (some (.object [("textDocument", .object [uri])])) none]
    let close := told 60 "typfig/closeGallery" none none
    let shut := told 60 "shutdown" none (some (.nat 3))
    let sent (events : List Event) (event : Event) := ((fresh.after events).turn event).step.sent
    (∃ figures, sent events (.time tree 350) = [.figureSet figures] ∧ figures.map (·.ordinal) = [1] ∧
      LastOpened (fresh.moments (events ++ [.time tree 350])) ∧ ∃ time ≤ 350, LastArmed (fresh.moments events) time) ∧
    (fresh.after [start]).Opens gallery ∧
    (∃ figures, ((fresh.after [start]).turn (.message ⟨tree, 0, .null⟩ gallery)).answer =
      .response ⟨.nat 2, .ok (.array (figures.map Figure.toJson))⟩ ∧
      sent [start] (.message ⟨tree, 0, .null⟩ gallery) = [.figureSet figures]) ∧
    sent events (.time tree 349) = [] ∧ sent (events ++ [close]) (.time tree 350) = [] ∧
    sent (events ++ [shut]) (.time tree 350) = [] := by
  intro tree told uri gallery start events close shut sent
  have one : (sent events (.time tree 350)).map (fun | .figureSet figures => figures.length | _ => 0) = [1] := by
    decide +kernel
  obtain ⟨message, edited, length⟩ := List.map_eq_singleton_iff.mp one
  have opens : (fresh.after [start]).Opens gallery := ⟨⟨by decide +kernel, by decide +kernel, rfl⟩, ⟨_, rfl⟩⟩
  have answered : (sent [start] (.message ⟨tree, 0, .null⟩ gallery)).length = 1 := by decide +kernel
  refine ⟨?_, opens, ?_, by decide +kernel, by decide +kernel, by decide +kernel⟩
  · cases message with
    | figureSet figures =>
      have mem : .figureSet figures ∈ sent events (.time tree 350) := by simp [edited]
      obtain ⟨_, opened, _, ordinals, _, cause⟩ :=
        (figures_sent_only_while_open events (.time tree 350)).1 figures mem
      have numbered : figures.map (·.ordinal) = [1] := by
        rw [ordinals, show figures.length = 1 from length]
        rfl
      refine ⟨figures, edited, numbered, opened, ?_⟩
      obtain ⟨_, _, time, e, le, armed⟩ := cause.resolve_left Moment.not_opens_time
      obtain ⟨_, rfl⟩ := Event.time.inj e
      exact ⟨time, le, armed⟩
    | logMessage text => simp at length
    | showMessage text => simp at length
    | showDocument id uri line => simp at length
  · obtain ⟨id, figures, given, answer, published⟩ :=
      (figures_sent_only_while_open [start] (.message ⟨tree, 0, .null⟩ gallery)).2 _ _ rfl opens
    obtain rfl := Option.some.inj given
    obtain ⟨_, published⟩ | ⟨_, _, nothing⟩ := published
    · exact ⟨figures, answer, published⟩
    · exact absurd answered (by simp [sent, nothing])

end FigureGallery.Server
