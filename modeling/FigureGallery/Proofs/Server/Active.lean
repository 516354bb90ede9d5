import FigureGallery.Proofs.Server.Publication
import FigureGallery.Proofs.Workspace.View

/-!
# The active document

Which document is active follows from what happened so far: it is the one that was named last, by a notice that does not
close it or by a request for the gallery, unless it was closed since then when there was no file of it. Files that are no
documents are never named. This holds as long as changes can be applied, and the extension of documents stays the same.
-/

namespace FigureGallery

/-- What drops nothing keeps what there is. -/
lemma filter_not_eq_self {α : Type} {active : Option α} {drops : α → Bool} (kept : ∀ p ∈ active, drops p = false) :
    active.filter (fun p => !drops p) = active := by
  cases active with
  | none => rfl
  | some p => exact Option.filter_some_pos (by simp [kept p rfl])

lemma Session.active_withActive (s : Session) (document : Path) :
    (s.withActive document).active = ((some document).filter s.accepts).or s.active := by
  rw [withActive]
  split
  · rename_i accepts
    rw [Option.filter_some_pos accepts, Option.some_or]
  · rename_i refuses
    rw [Option.filter_some_neg (by simpa using refuses), Option.none_or]

lemma Session.active_withoutActive (s : Session) (document : Path) :
    (s.withoutActive document).active = s.active.filter fun p => !document.same p := by
  rw [withoutActive]
  cases e : s.active with
  | none => simp [e]
  | some p => cases same : document.same p <;> simp [e, same, Option.filter_some]

/-- Reading the configuration again keeps the active document when the extension stays the same. -/
lemma Workspace.Coherent.active_configure {w : Workspace} (ok : w.Coherent) {tree : FileTree} {root : Option Path}
    (keeps : (w.configure tree root).session.extension = w.session.extension) :
    (w.configure tree root).session.active = w.session.active := by
  rw [configure, active_renewed]
  cases e : w.session.active with
  | none => rfl
  | some p =>
    refine Option.filter_some_pos ?_
    change p.hasExtension (w.configure tree root).session.extension
    rw [keeps]
    exact ok.active p e

namespace Server

namespace Notice

/-- The document that a notice is about. -/
def document : Notice → Path
  | .opened document _ => document
  | .changed document _ => document
  | .saved document => document
  | .closed document => document
  | .activated document => document

/-- The document that a notice names as the one that the user is at: any but a closed one. -/
def named? : Notice → Option Path
  | .closed _ => none
  | notice => some notice.document

/-- Whether a notice tells that a document is closed of which there is no file. -/
def drops (tree : FileTree) (p : Path) : Notice → Bool
  | .closed document => document.same p && !tree.isFile document
  | _ => false

lemma named?_cases (notice : Notice) : notice.named? = none ∨ notice.named? = some notice.document := by
  cases notice with
  | closed document => exact .inl rfl
  | opened | changed | saved | activated => exact .inr rfl

lemma same_of_drops {tree : FileTree} {p : Path} {notice : Notice} (dropped : notice.drops tree p) :
    notice.document.same p := by
  cases notice with
  | closed document => exact (Bool.and_eq_true_iff.mp dropped).1
  | opened | changed | saved | activated => cases dropped

/-- The changes of a notice can be applied, if it has any. -/
def Applies (w : Workspace) : Notice → Prop
  | .changed document changes => (w.applyChanges document changes).2 = none
  | _ => True

instance (w : Workspace) (notice : Notice) : Decidable (notice.Applies w) :=
  match notice with
  | .changed document changes => inferInstanceAs (Decidable ((w.applyChanges document changes).2 = none))
  | .opened _ _ | .saved _ | .closed _ | .activated _ => .isTrue trivial

/-- A document that is saved becomes active, also when it makes the configuration be read again. -/
lemma active_saved {w : Workspace} (ok : w.Coherent) {around : Surroundings} {document : Path}
    (keeps : ((saved document).answer w around).2.session.extension = w.session.extension) :
    ((saved document).answer w around).2.session.active = (w.session.withActive document).active := by
  have edited (w : Workspace) := Session.active_handle_textChanged (w.session.withActive document) document around.now
  rw [answer] at keeps ⊢
  split
  · rename_i config
    rw [if_pos config] at keeps
    have extension : (w.configure around.tree w.root).session.extension = w.session.extension := by
      rw [← keeps]
      exact ((Session.follows_handle _ _ _).trans (Session.follows_withActive _ document)).extension.symm
    have accepts : (w.configure around.tree w.root).session.accepts = w.session.accepts := by
      funext p
      rw [Session.accepts, Session.accepts, extension]
    refine (edited _).trans ?_
    rw [Session.active_withActive, Session.active_withActive, ok.active_configure extension, accepts]
  · exact edited w

/-- The active document after a notice is the one that it names, if that is a document, or else the one from before if the
notice does not drop it. -/
lemma active_answer {w : Workspace} (ok : w.Coherent) {around : Surroundings} {notice : Notice}
    (applies : notice.Applies w) (keeps : (notice.answer w around).2.session.extension = w.session.extension) :
    (notice.answer w around).2.session.active =
      (notice.named?.filter w.session.accepts).or (w.session.active.filter fun p => !notice.drops around.tree p) := by
  have kept : w.session.active.filter (fun _ => !false) = w.session.active := filter_not_eq_self fun _ _ => rfl
  have named {document : Path} : (w.session.withActive document).active =
      ((some document).filter w.session.accepts).or (w.session.active.filter fun _ => !false) := by
    rw [kept, Session.active_withActive]
  cases notice with
  | opened document text => exact (Session.active_handle_activeChanged w.session document around.now).trans named
  | changed document changes =>
    have same := w.session_applyChanges document changes
    refine Eq.trans ?_ named
    rw [answer]
    split
    · rename_i after e
      rw [e] at same
      rw [Workspace.recordEdit, Workspace.handle, Session.active_handle_textChanged, same]
      rfl
    · rename_i e
      rw [Applies, e] at applies
      cases applies
  | saved document => exact (active_saved ok keeps).trans named
  | closed document =>
    refine (Session.active_handle_textChanged _ document around.now).trans ?_
    cases isFile : around.tree.isFile document with
    | true => simpa [named?, drops, isFile] using kept.symm
    | false => simp [named?, drops, isFile, Session.active_withoutActive]
  | activated document => exact (Session.active_handle_activeChanged w.session document around.now).trans named

end Notice

variable {s : Server} {around : Surroundings} {message : Incoming} {history : List Moment} {event : Event} {p : Path}

instance (s : Server) (method : Method) (message : Incoming) : Decidable (s.Takes method message) :=
  decidable_of_iff (s.phase = .initialized ∧ Method.ofName? message.method = some method ∧
      message.id.isSome = method.isRequest)
    ⟨fun ⟨phase, known, id⟩ => ⟨phase, known, id⟩, fun ⟨phase, known, id⟩ => ⟨phase, known, id⟩⟩

instance (s : Server) (message : Incoming) : Decidable (s.Tells message) :=
  decidable_of_iff (s.phase = .initialized ∧ message.method ∈ Notice.methods ∧ message.id = none)
    ⟨fun ⟨phase, method, id⟩ => ⟨phase, method, id⟩, fun ⟨phase, method, id⟩ => ⟨phase, method, id⟩⟩

/-- The notice that a server takes from a message. -/
def told? (s : Server) (message : Incoming) : Option Notice :=
  if s.Tells message then Notice.ofMessage? message else none

/-- The file that the gallery is asked for with. -/
def asked? (s : Server) (message : Incoming) : Option Path :=
  if s.Takes .openGallery message then
    (paramsOf Schema.openGallery OpenGallery.ofJson? message.params).toOption.bind fun p => p.uri.bind Uri.toPath?
  else none

/-- The file that a message names: that of a notice that does not close it, or of a request for the gallery. -/
def named? (s : Server) (message : Incoming) : Option Path :=
  ((s.told? message).bind Notice.named?).or (s.asked? message)

lemma told?_of_not_tells (tells : ¬ s.Tells message) : s.told? message = none :=
  if_neg tells

lemma asked?_of_not_opens (opens : ¬ s.Opens message) : s.asked? message = none := by
  rw [asked?]
  split
  · rename_i takes
    cases fits : paramsOf Schema.openGallery OpenGallery.ofJson? message.params with
    | error fault => rfl
    | ok p => exact absurd ⟨takes, p, fits⟩ opens
  · rfl

/-- A notice is no request for the gallery. -/
lemma named?_of_told {notice : Notice} (told : s.told? message = some notice) : s.named? message = notice.named? := by
  have opens : ¬ s.Opens message := by
    intro opens
    rw [told?_of_not_tells (Settles.not_tells (.inl opens))] at told
    cases told
  rw [named?, told, asked?_of_not_opens opens, Option.or_none]
  rfl

namespace Moment

/-- The document that an event names. Files that are no documents do not count. -/
def named? (m : Moment) : Option Path :=
  match m.event with
  | .message _ message => (m.server.named? message).filter m.server.workspace.session.accepts
  | .time _ _ => none

/-- The notice that an event is. -/
def told? (m : Moment) : Option Notice :=
  match m.event with
  | .message _ message => m.server.told? message
  | .time _ _ => none

/-- Whether an event closes a document of which there is no file. -/
def drops (m : Moment) (p : Path) : Bool :=
  m.told?.any (·.drops m.event.tree p)

/-- The active document after an event is the one that it names, or else the one from before if the event does not drop
it. -/
def LeadsActive (m : Moment) (after : Server) : Prop :=
  after.workspace.session.active = m.named?.or (m.server.workspace.session.active.filter fun p => !m.drops p)

/-- The changes that an event tells of can be applied, and an initialized server keeps the extension of documents. -/
structure IsOrderly (m : Moment) : Prop where
  applies : ∀ notice ∈ m.told?, notice.Applies m.server.workspace
  keeps : m.server.phase = .initialized →
    (m.server.turn m.event).step.server.workspace.session.extension = m.server.workspace.session.extension

instance (m : Moment) : Decidable m.IsOrderly :=
  decidable_of_iff ((∀ notice ∈ m.told?, notice.Applies m.server.workspace) ∧ (m.server.phase = .initialized →
    (m.server.turn m.event).step.server.workspace.session.extension = m.server.workspace.session.extension))
    ⟨fun ⟨applies, keeps⟩ => ⟨applies, keeps⟩, fun ⟨applies, keeps⟩ => ⟨applies, keeps⟩⟩

lemma leadsActive_of_quiet {m : Moment} {after : Server} (named : m.named? = none) (kept : ∀ p, m.drops p = false)
    (active : after.workspace.session.active = m.server.workspace.session.active) : m.LeadsActive after := by
  rw [LeadsActive, active, named, Option.none_or, filter_not_eq_self fun p _ => kept p]

end Moment

/-- A message that is no notice and no request for the gallery leaves the active document as it is. -/
lemma leadsActive_of_other {after : Server} (tells : ¬ s.Tells message) (opens : ¬ s.Opens message)
    (active : after.workspace.session.active = s.workspace.session.active) :
    Moment.LeadsActive ⟨s, .message around message⟩ after := by
  refine Moment.leadsActive_of_quiet ?_ (fun p => ?_) active
  · rw [Moment.named?]
    simp [named?, told?_of_not_tells tells, asked?_of_not_opens opens]
  · simp [Moment.drops, Moment.told?, told?_of_not_tells tells]

/-- A request for the gallery makes the document active that it names, if it names one. -/
lemma leadsActive_opened {p : OpenGallery} (takes : s.Takes .openGallery message)
    (fits : paramsOf Schema.openGallery OpenGallery.ofJson? message.params = .ok p) :
    Moment.LeadsActive ⟨s, .message around message⟩ (s.openGallery around (p.uri.bind Uri.toPath?)).2.server := by
  have tells : ¬ s.Tells message := Settles.not_tells (.inl ⟨takes, p, fits⟩)
  have asked : s.named? message = p.uri.bind Uri.toPath? := by
    rw [named?, told?_of_not_tells tells, asked?, if_pos takes, fits]
    rfl
  have kept (q : Path) : Moment.drops ⟨s, .message around message⟩ q = false := by
    simp [Moment.drops, Moment.told?, told?_of_not_tells tells]
  rw [Moment.LeadsActive, filter_not_eq_self fun q _ => kept q, Moment.named?]
  dsimp only
  rw [asked]
  cases p.uri.bind Uri.toPath? with
  | none => rfl
  | some document => exact s.workspace.session.active_withActive document

/-- A notice leads to the active document that the session answers it with. -/
lemma leadsActive_told (ok : s.workspace.Coherent) (tells : s.Tells message)
    (orderly : Moment.IsOrderly ⟨s, .message around message⟩) {after : Server}
    (e : after.workspace = (s.answerOf around message).2)
    (keeps : after.workspace.session.extension = s.workspace.session.extension) :
    Moment.LeadsActive ⟨s, .message around message⟩ after := by
  have opens : ¬ s.Opens message := fun opens => Settles.not_tells (.inl opens) tells
  have told : s.told? message = Notice.ofMessage? message := if_pos tells
  have applies := orderly.applies
  rw [Moment.told?] at applies
  simp only [told] at applies
  rw [Moment.LeadsActive, Moment.named?]
  simp only [Moment.drops, Moment.told?, Event.tree, named?, told, asked?_of_not_opens opens, Option.or_none]
  rw [answerOf] at e
  cases read : Notice.ofMessage? message with
  | none =>
    rw [read, Option.elim_none] at e
    rw [e]
    exact (filter_not_eq_self fun _ _ => rfl).symm
  | some notice =>
    rw [read, Option.elim_some] at e
    rw [e] at keeps ⊢
    exact Notice.active_answer ok (applies notice read) keeps

/-- A message leads to an active document as its rule says. -/
lemma leadsActive_receive (ok : s.workspace.Coherent)
    (idle : s.phase = .uninitialized → s.workspace.session.active = none)
    (orderly : Moment.IsOrderly ⟨s, .message around message⟩) :
    Moment.LeadsActive ⟨s, .message around message⟩ (s.receive around message).step.server := by
  have keeps := orderly.keeps
  rw [turn] at keeps
  have handles := s.handles_receive around message
  generalize s.receive around message = turn at handles keeps ⊢
  cases handles with
  | started phase given fits =>
    refine leadsActive_of_other (fun tells => ?_) (fun opens => ?_) ?_
    · exact absurd (phase.symm.trans tells.phase) (by simp)
    · exact absurd phase opens.1.not_uninitialized
    · rw [Workspace.configure, Workspace.active_renewed, idle phase]
      rfl
  | opened takes given fits => exact leadsActive_opened takes fits
  | closed closes =>
    have settles : s.Settles message := .inr (.inl closes)
    exact leadsActive_of_other settles.not_tells (fun opens => opens.not_closes closes) rfl
  | shut shuts given =>
    have settles : s.Settles message := .inr (.inr shuts)
    exact leadsActive_of_other settles.not_tells (fun opens => by simpa using shuts.1.eq opens.1.known) rfl
  | told tells step =>
    have after : turn.step.server.workspace = (s.answerOf around message).2 := by rw [step, workspace_dispatch]
    exact leadsActive_told ok tells orderly after (keeps tells.phase)
  | other phase nextRequest settles tells later server sent =>
    exact leadsActive_of_other tells (fun opens => settles (.inl opens)) (by rw [server])

/-- The active document stays the same when a timer runs out. -/
lemma leadsActive_turn (ok : s.workspace.Coherent)
    (idle : s.phase = .uninitialized → s.workspace.session.active = none) (orderly : Moment.IsOrderly ⟨s, event⟩) :
    Moment.LeadsActive ⟨s, event⟩ (s.turn event).step.server := by
  cases event with
  | message around message => exact leadsActive_receive ok idle orderly
  | time tree now =>
    refine Moment.leadsActive_of_quiet rfl (fun _ => rfl) ?_
    rw [turn]
    split
    · change (s.workspace.session.takeDue now).2.active = _
      rw [Session.takeDue]
      split <;> rfl
    · rfl

/-- Nothing is named before the server is started. -/
lemma Moment.named?_of_uninitialized {m : Moment} (phase : m.server.phase = .uninitialized) : m.named? = none := by
  obtain ⟨s, event⟩ := m
  cases event with
  | message around message =>
    have tells : ¬ s.Tells message := fun tells => absurd (phase.symm.trans tells.phase) (by simp)
    have opens : ¬ s.Opens message := fun opens => opens.1.not_uninitialized phase
    simp [named?, Server.named?, told?_of_not_tells tells, asked?_of_not_opens opens]
  | time tree now => rfl

/-- No event takes a server back to before its start. -/
lemma uninitialized_of_turn (phase : (s.turn event).step.server.phase = .uninitialized) : s.phase = .uninitialized := by
  cases event with
  | message around message =>
    rw [turn] at phase
    have handles := s.handles_receive around message
    generalize s.receive around message = turn at handles phase
    cases handles with
    | started => cases phase
    | opened => exact phase
    | closed => exact phase
    | shut => cases phase
    | told tells step =>
      rw [step, dispatch] at phase
      split at phase <;> exact phase
    | other _ _ _ _ later server =>
      rw [server] at phase
      exact later phase
  | time tree now =>
    rw [turn] at phase
    split at phase <;> exact phase

lemma moments_append (s : Server) (events later : List Event) :
    s.moments (events ++ later) = s.moments events ++ (s.after events).moments later := by
  induction events generalizing s with
  | nil => rfl
  | cons event events ih => rw [List.cons_append, moments, ih, moments, List.cons_append, after]

lemma after_append (s : Server) (events later : List Event) :
    s.after (events ++ later) = (s.after events).after later := by
  induction events generalizing s with
  | nil => rfl
  | cons event events ih => rw [List.cons_append, after, ih, after]

/-- The active document that a history leads to: each event names one, or drops the one from before, or leaves it. -/
def activeAfter (active : Option Path) (history : List Moment) : Option Path :=
  history.foldl (fun active m => m.named?.or (active.filter fun p => !m.drops p)) active

lemma activeAfter_append {active : Option Path} {later : List Moment} :
    activeAfter active (history ++ later) = activeAfter (activeAfter active history) later :=
  List.foldl_append

/-- As long as nothing is named, a document stays active until it is dropped. -/
lemma activeAfter_of_unnamed {active : Option Path} (unnamed : ∀ m ∈ history, m.named? = none) :
    activeAfter active history = active.filter fun p => !history.any fun m => m.drops p := by
  induction history generalizing active with
  | nil => exact (filter_not_eq_self fun _ _ => rfl).symm
  | cons m history ih =>
    obtain ⟨first, rest⟩ := List.forall_mem_cons.mp unnamed
    rw [activeAfter, List.foldl_cons, first, Option.none_or, ← activeAfter, ih rest, Option.filter_filter]
    congr 1
    funext p
    rw [List.any_cons, Bool.not_or, Bool.and_comm]

/-- A server is as its history says. -/
structure Remembers (history : List Moment) (s : Server) : Prop where
  reachable : s.Reachable
  idle : s.phase = .uninitialized → s.workspace.session.active = none
  active : s.workspace.session.active = activeAfter none history

lemma remembers_fresh : Remembers [] fresh where
  reachable := .fresh
  idle _ := rfl
  active := rfl

lemma Remembers.turn (remembers : Remembers history s) (orderly : Moment.IsOrderly ⟨s, event⟩) :
    Remembers (history ++ [⟨s, event⟩]) (s.turn event).step.server := by
  have leads := leadsActive_turn remembers.reachable.workspace.coherent remembers.idle orderly
  refine ⟨remembers.reachable.turn event, fun phase => ?_, ?_⟩
  · have before := uninitialized_of_turn phase
    rw [leads, Moment.named?_of_uninitialized before, remembers.idle before]
    rfl
  · rw [leads, remembers.active, activeAfter_append]
    rfl

lemma Remembers.after (remembers : Remembers history s) {events : List Event}
    (orderly : ∀ m ∈ s.moments events, m.IsOrderly) : Remembers (history ++ s.moments events) (s.after events) := by
  induction events generalizing history s with
  | nil => simpa [moments, Server.after] using remembers
  | cons event events ih =>
    obtain ⟨first, rest⟩ := List.forall_mem_cons.mp orderly
    simpa [moments, Server.after] using ih (remembers.turn first) rest

/-- Whatever messages come and times pass, the active document is the last one that was named, unless it was closed since
then when there was no file of it: then no document is active, as when none was ever named. A notice about a file that is
no document never changes the active document. Changes have to be such that they can be applied, and configurations that
are read again have to keep the extension of documents. -/
theorem active_eq_last_named (events : List Event) (orderly : ∀ m ∈ fresh.moments events, m.IsOrderly) :
    let s := fresh.after events
    let active := s.workspace.session.active
    ((∀ m ∈ fresh.moments events, m.named? = none) → active = none) ∧
      (∀ before m later p, fresh.moments events = before ++ m :: later → m.named? = some p →
        (∀ k ∈ later, k.named? = none) →
          active = if later.any fun k => k.drops p then none else some p) ∧
      ∀ around message notice, s.told? message = some notice → ¬ s.workspace.session.accepts notice.document →
        Moment.IsOrderly ⟨s, .message around message⟩ →
          (s.receive around message).step.server.workspace.session.active = active := by
  intro s active
  have remembers : Remembers (fresh.moments events) s := remembers_fresh.after orderly
  have coherent := remembers.reachable.workspace.coherent
  refine ⟨fun unnamed => ?_, fun before m later p split named last => ?_, ?_⟩
  · exact remembers.active.trans (activeAfter_of_unnamed unnamed)
  · have now : activeAfter (activeAfter none before) [m] = some p := by
      change m.named?.or _ = _
      rw [named, Option.some_or]
    rw [show active = _ from remembers.active, split, activeAfter_append, ← List.singleton_append, activeAfter_append, now,
      activeAfter_of_unnamed last, Option.filter_some]
    cases later.any fun k => k.drops p <;> rfl
  · intro around message notice told other next
    rw [leadsActive_receive coherent remembers.idle next]
    have unnamed : Moment.named? ⟨s, .message around message⟩ = none := by
      rw [Moment.named?]
      dsimp only
      rw [named?_of_told told]
      cases notice.named?_cases with
      | inl closing => rw [closing, Option.filter_none]
      | inr naming => rw [naming, Option.filter_some_neg (by simpa using other)]
    -- A file that is closed has the extension of the active document if it is written with the same steps.
    have kept : ∀ p ∈ active, Moment.drops ⟨s, .message around message⟩ p = false := by
      intro p mem
      rw [Moment.drops, Moment.told?]
      dsimp only [Event.tree]
      rw [told, Option.any_some]
      cases dropped : notice.drops around.tree p with
      | false => rfl
      | true =>
        have same : notice.document.same p := notice.same_of_drops dropped
        refine absurd ?_ other
        rw [Session.accepts, Path.hasExtension_congr (Path.same_iff.mp same)]
        exact coherent.active p mem
    rw [unnamed, Option.none_or, filter_not_eq_self kept]

/-- The gallery is asked for with a document, another one is edited that is no file yet, and the configuration is saved.
The second document stays active, also when a text file is saved, until it is closed. -/
theorem active_eq_last_named_unsaved :
    let tree : FileTree := ⟨[(["w"], .directory), (["w", "typfig.toml"], .file "extension = \".typ\"".toUTF8)], []⟩
    let told (method : String) (params : List (String × Json)) (id : Option Json) : Event :=
      .message ⟨tree, 0, .null⟩ ⟨method, some (.object params), id⟩
    let uri (name : String) := ("uri", Json.string ("file:///w/" ++ name))
    let named (name : String) := ("textDocument", Json.object [uri name, ("version", .nat 1)])
    let before := [told "initialize" [("capabilities", .object []), ("rootUri", .string "file:///w")] (some (.nat 1)),
      told "typfig/openGallery" [uri "a.typ"] (some (.nat 2))]
    let changes := ("contentChanges", Json.array [.object [("text", .string "x")]])
    let edit := told "textDocument/didChange" [named "b.typ", changes] none
    let save := told "textDocument/didSave" [named "typfig.toml"] none
    let close := told "textDocument/didClose" [named "b.typ"] none
    let notes : Incoming := ⟨"textDocument/didSave", some (.object [named "notes.txt"]), none⟩
    (∀ m ∈ fresh.moments (before ++ [edit, save, close]), m.IsOrderly) ∧
      (fresh.after (before ++ [edit, save])).workspace.session.active = some ⟨"/w/b.typ"⟩ ∧
      ((fresh.after (before ++ [edit, save])).receive ⟨tree, 0, .null⟩ notes).step.server.workspace.session.active =
        some ⟨"/w/b.typ"⟩ ∧
      (fresh.after (before ++ [edit, save, close])).workspace.session.active = none := by
  intro tree told uri named before changes edit save close notes
  let s₀ := fresh.after before
  let s₁ := (s₀.turn edit).step.server
  let s₂ := (s₁.turn save).step.server
  obtain ⟨orderly, named, unnamed, kept, dropped, told, other, next⟩ :
      (∀ m ∈ fresh.moments before ++ [⟨s₀, edit⟩, ⟨s₁, save⟩, ⟨s₂, close⟩], m.IsOrderly) ∧
        Moment.named? ⟨s₀, edit⟩ = some ⟨"/w/b.typ"⟩ ∧ (∀ m ∈ [⟨s₁, save⟩, ⟨s₂, close⟩], Moment.named? m = none) ∧
        Moment.drops ⟨s₁, save⟩ ⟨"/w/b.typ"⟩ = false ∧ Moment.drops ⟨s₂, close⟩ ⟨"/w/b.typ"⟩ ∧
        s₂.told? notes = some (.saved ⟨"/w/notes.txt"⟩) ∧ ¬ s₂.workspace.session.accepts ⟨"/w/notes.txt"⟩ ∧
        Moment.IsOrderly ⟨s₂, .message ⟨tree, 0, .null⟩ notes⟩ := by
    decide +kernel
  clear_value notes close save edit before
  have front : fresh.moments (before ++ [edit, save]) = fresh.moments before ++ ⟨s₀, edit⟩ :: [⟨s₁, save⟩] := by
    rw [moments_append, moments, moments, moments]
  have whole : fresh.moments (before ++ [edit, save, close]) =
      fresh.moments before ++ ⟨s₀, edit⟩ :: [⟨s₁, save⟩, ⟨s₂, close⟩] := by
    rw [moments_append, moments, moments, moments, moments]
  have here : fresh.after (before ++ [edit, save]) = s₂ := by
    rw [after_append, after, after, after]
  clear_value s₂ s₁ s₀
  have orderly' : ∀ m ∈ fresh.moments (before ++ [edit, save]), m.IsOrderly := by
    rw [front]
    exact fun m mem => orderly m (List.mem_append.mpr
      ((List.mem_append.mp mem).imp_right (List.mem_append_left [Moment.mk s₂ close])))
  rw [← whole] at orderly
  rw [← here] at told other next
  obtain ⟨_, last, unchanged⟩ := active_eq_last_named (before ++ [edit, save]) orderly'
  obtain ⟨_, final, _⟩ := active_eq_last_named (before ++ [edit, save, close]) orderly
  have active := last _ _ _ _ front named fun m mem => unnamed m (List.mem_append_left [Moment.mk s₂ close] mem)
  have none := final _ _ _ _ whole named unnamed
  simp only [List.any_cons, kept, dropped] at active none
  exact ⟨orderly, active, (unchanged _ _ _ told other next).trans active, none⟩

end Server

end FigureGallery
