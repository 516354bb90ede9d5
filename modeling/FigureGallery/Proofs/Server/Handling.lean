import FigureGallery.Proofs.Server.Notice

/-!
# How messages are handled

What the server does with a message, said once for all methods and phases. Few messages matter for the gallery: the one
that starts the server, requests for the gallery, the ones that close it or shut the server down, and notices about
documents. Each has a rule of `Handles`; every other message, refused ones among them, leaves the workspace and the timer
alone and publishes nothing.
-/

namespace FigureGallery.Server

/-- A message of a method that an initialized server takes: it has an identifier exactly if the method is a request. -/
structure Takes (s : Server) (method : Method) (message : Incoming) : Prop where
  phase : s.phase = .initialized
  known : Method.ofName? message.method = some method
  id : message.id.isSome = method.isRequest

/-- A request for the gallery whose parameters fit. -/
def Opens (s : Server) (message : Incoming) : Prop :=
  s.Takes .openGallery message ∧ ∃ p, paramsOf Schema.openGallery OpenGallery.ofJson? message.params = .ok p

/-- A message that closes the gallery. -/
def Closes (s : Server) (message : Incoming) : Prop :=
  s.Takes .closeGallery message ∧ noParams message.params = .ok ()

/-- A request that shuts the server down. -/
def Shuts (s : Server) (message : Incoming) : Prop :=
  s.Takes .shutdown message ∧ noParams message.params = .ok ()

/-- A message that settles the scan that is waited for: it takes place at once, or it is given up. -/
def Settles (s : Server) (message : Incoming) : Prop :=
  s.Opens message ∨ s.Closes message ∨ s.Shuts message

/-- A notification about a document. -/
structure Tells (s : Server) (message : Incoming) : Prop where
  phase : s.phase = .initialized
  method : message.method ∈ Notice.methods
  id : message.id = none

/-- What comes of a message. -/
inductive Handles (s : Server) (around : Surroundings) (message : Incoming) : Turn → Prop where
  | started {id params} :
    s.phase = .uninitialized →
    message.id = some id →
    paramsOf Schema.start Start.ofJson? message.params = .ok params →
    Handles s around message ⟨.response ⟨id, .ok capabilities⟩,
      ⟨{ s with phase := .initialized, workspace := s.workspace.configure around.tree (rootOf params) }, []⟩⟩
  | opened {id p} :
    s.Takes .openGallery message →
    message.id = some id →
    paramsOf Schema.openGallery OpenGallery.ofJson? message.params = .ok p →
    Handles s around message ⟨.response ⟨id, .ok (.array
      ((s.openGallery around (p.uri.bind Uri.toPath?)).1.map Figure.toJson))⟩,
      (s.openGallery around (p.uri.bind Uri.toPath?)).2⟩
  | closed :
    s.Closes message →
    Handles s around message (noticed ⟨s.closeGallery, []⟩)
  | shut {id} :
    s.Shuts message →
    message.id = some id →
    Handles s around message ⟨.response ⟨id, .ok .null⟩, ⟨{ s with phase := .shutDown, timer := none }, []⟩⟩
  | told {turn} :
    s.Tells message →
    turn.step = s.dispatch around (s.answerOf around message) →
    Handles s around message turn
  | other {turn} (phase : Phase) (nextRequest : Nat) :
    ¬ s.Settles message →
    ¬ s.Tells message →
    (phase = .uninitialized → s.phase = .uninitialized) →
    turn.step.server = { s with phase, nextRequest } →
    (∀ figures, .figureSet figures ∉ turn.step.sent) →
    Handles s around message turn

variable {s : Server} {around : Surroundings} {message : Incoming} {method : Method}

lemma Takes.eq {other : Method} (takes : s.Takes other message)
    (known : Method.ofName? message.method = some method) : method = other :=
  Option.some.inj (known.symm.trans takes.known)

lemma Takes.not_uninitialized (takes : s.Takes method message) : s.phase ≠ .uninitialized := by
  simp [takes.phase]

lemma Settles.takes (settles : s.Settles message) :
    ∃ method ∈ [Method.openGallery, .closeGallery, .shutdown], s.Takes method message := by
  rcases settles with opens | closes | shuts
  · exact ⟨.openGallery, by simp, opens.1⟩
  · exact ⟨.closeGallery, by simp, closes.1⟩
  · exact ⟨.shutdown, by simp, shuts.1⟩

lemma Settles.phase (settles : s.Settles message) : s.phase = .initialized := by
  obtain ⟨_, _, takes⟩ := settles.takes
  exact takes.phase

lemma not_settles (known : Method.ofName? message.method = some method) (refuses : ¬ s.Takes method message) :
    ¬ s.Settles message := by
  intro settles
  obtain ⟨_, _, takes⟩ := settles.takes
  obtain rfl := takes.eq known
  exact refuses takes

lemma not_settles_of_method (known : Method.ofName? message.method = some method) (opens : method ≠ .openGallery)
    (closes : method ≠ .closeGallery) (shuts : method ≠ .shutdown) : ¬ s.Settles message := by
  intro settles
  obtain ⟨_, mem, takes⟩ := settles.takes
  obtain rfl := takes.eq known
  simp [opens, closes, shuts] at mem

/-- A method that the server offers goes by the name that it is offered under. -/
lemma Method.mem_offered {name : String} (known : ofName? name = some method)
    (offers : ∀ name, method ≠ .unsupportedRequest name) (notices : method ≠ .unsupportedNotification) :
    (name, method) ∈ offered := by
  rw [ofName?] at known
  split at known
  · rename_i found
    obtain rfl := Option.some.inj known
    obtain ⟨before, after, e, _⟩ := List.lookup_eq_some_iff.mp found
    simp [e]
  · split at known
    · exact absurd (Option.some.inj known).symm (offers _)
    · split at known
      · exact absurd (Option.some.inj known).symm notices
      · simp at known

/-- The methods that tell of documents are those that are read as notices. -/
lemma Method.mem_methods {name : String} (known : ofName? name = some method)
    (notice : method ∈ [.didOpen, .didChange, .didSave, .didClose, .activeDocumentChanged]) :
    name ∈ Notice.methods := by
  have offered : (name, method) ∈ Method.offered := by
    apply mem_offered known
    · rintro _ rfl
      simp at notice
    · rintro rfl
      simp at notice
  have named : ∀ entry ∈ Method.offered,
      entry.2 ∈ [Method.didOpen, .didChange, .didSave, .didClose, .activeDocumentChanged] →
        entry.1 ∈ Notice.methods := by
    decide
  exact named _ offered notice

/-- A message that changes at most the phase. -/
lemma Handles.quiet {turn : Turn} (phase : Phase) (settles : ¬ s.Settles message) (tells : ¬ s.Tells message)
    (later : phase = .uninitialized → s.phase = .uninitialized) (h : turn.step = ⟨{ s with phase }, []⟩) :
    s.Handles around message turn := by
  apply Handles.other phase s.nextRequest settles tells later
  · rw [h]
  · simp [h]

lemma Handles.unchanged {turn : Turn} (settles : ¬ s.Settles message) (tells : ¬ s.Tells message)
    (h : turn.step = ⟨s, []⟩) : s.Handles around message turn :=
  .quiet s.phase settles tells id h

lemma take_of_kind {id params : Option Json} (kind : id.isSome = method.isRequest) :
    s.take around method id params = s.perform around method id params := by
  rw [take, kind]
  cases method.isRequest with
  | true => rfl
  | false => rfl

/-- A message of the wrong kind is refused or passed over. -/
lemma step_take_of_kind {id params : Option Json} (kind : id.isSome ≠ method.isRequest) :
    (s.take around method id params).step = ⟨s, []⟩ := by
  rw [take]
  cases request : method.isRequest with
  | true =>
    cases given : id.isSome with
    | true => exact absurd (given.trans request.symm) kind
    | false => rfl
  | false =>
    cases given : id.isSome with
    | true => rfl
    | false => exact absurd (given.trans request.symm) kind

/-- Whether the target is shown or not, no figures are sent. -/
lemma navigate_cases (s : Server) (around : Surroundings) (path : Path) (line : Nat) :
    (∃ nextRequest, (s.navigate around path line).2.server = { s with nextRequest }) ∧
      ∀ figures, .figureSet figures ∉ (s.navigate around path line).2.sent := by
  rw [navigate]
  split
  · rw [showTarget]
    split
    · exact ⟨⟨_, rfl⟩, by simp⟩
    · exact ⟨⟨_, rfl⟩, by simp⟩
  · exact ⟨⟨s.nextRequest, rfl⟩, by simp⟩

/-- A message that an initialized server takes, and that does not tell of a document. -/
lemma handles_perform (takes : s.Takes method message) (start : method ≠ .start) (shuts : method ≠ .shutdown)
    (tells : ¬ s.Tells message) :
    s.Handles around message (s.perform around method message.id message.params) := by
  -- A notification about a document would tell of it.
  have notice (kind : method.isRequest = false)
      (mem : method ∈ [.didOpen, .didChange, .didSave, .didClose, .activeDocumentChanged]) :
      s.Handles around message (s.perform around method message.id message.params) :=
    absurd ⟨takes.phase, Method.mem_methods takes.known mem, by simpa [kind] using takes.id⟩ tells
  have plain (opens : method ≠ .openGallery) (closes : method ≠ .closeGallery) : ¬ s.Settles message :=
    not_settles_of_method takes.known opens closes shuts
  cases method with
  | start => exact absurd rfl start
  | shutdown => exact absurd rfl shuts
  | didOpen => exact notice rfl (by simp)
  | didChange => exact notice rfl (by simp)
  | didSave => exact notice rfl (by simp)
  | didClose => exact notice rfl (by simp)
  | activeDocumentChanged => exact notice rfl (by simp)
  | started =>
    rw [perform]
    split
    · apply Handles.other s.phase s.nextRequest (plain (by simp) (by simp)) tells id rfl
      simp [noticed]
    · exact .unchanged (plain (by simp) (by simp)) tells rfl
  | openGallery =>
    obtain ⟨id, given⟩ := Option.isSome_iff_exists.mp takes.id
    rw [perform, given]
    split
    · rename_i fault e
      apply Handles.unchanged _ tells rfl
      rintro (⟨_, p, fits⟩ | closes | shuts)
      · simp [e] at fits
      · simpa using closes.1.eq takes.known
      · simpa using shuts.1.eq takes.known
    · rename_i p e
      exact .opened takes given e
  | closeGallery =>
    rw [perform]
    split
    · rename_i e
      exact .closed ⟨takes, e⟩
    · rename_i fault e
      apply Handles.unchanged _ tells rfl
      rintro (opens | ⟨_, fits⟩ | shuts)
      · simpa using opens.1.eq takes.known
      · simp [e] at fits
      · simpa using shuts.1.eq takes.known
  | navigate =>
    rw [perform]
    split
    · exact .unchanged (plain (by simp) (by simp)) tells rfl
    · rename_i p _
      obtain ⟨⟨nextRequest, server⟩, sent⟩ := s.navigate_cases around p.path p.line
      exact .other s.phase nextRequest (plain (by simp) (by simp)) tells id server sent
  | unsupportedRequest name =>
    rw [perform]
    split
    · exact .unchanged (plain (by simp) (by simp)) tells rfl
    · exact .unchanged (plain (by simp) (by simp)) tells rfl
  | exit => exact .unchanged (plain (by simp) (by simp)) tells rfl
  | cancel => exact .unchanged (plain (by simp) (by simp)) tells rfl
  | unsupportedNotification => exact .unchanged (plain (by simp) (by simp)) tells rfl

/-- The first request of a client. -/
lemma handles_start (phase : s.phase = .uninitialized) (tells : ¬ s.Tells message) :
    s.Handles around message (s.take around .start message.id message.params) := by
  have settles : ¬ s.Settles message := fun settles => by simp [settles.phase] at phase
  by_cases kind : message.id.isSome
  · obtain ⟨id, given⟩ := Option.isSome_iff_exists.mp kind
    rw [take_of_kind kind, perform, start]
    split
    · exact .unchanged settles tells rfl
    · rename_i params e
      rw [given]
      exact .started phase given e
  · exact .unchanged settles tells (step_take_of_kind (by simpa [Method.isRequest] using kind))

/-- A request to shut down changes the phase before its parameters are read. -/
lemma handles_shutdown (phase : s.phase = .initialized) (known : Method.ofName? message.method = some .shutdown)
    (tells : ¬ s.Tells message) :
    s.Handles around message ({ s with phase := .shutDown }.take around .shutdown message.id message.params) := by
  by_cases kind : message.id.isSome
  · have takes : s.Takes .shutdown message := ⟨phase, known, kind⟩
    obtain ⟨id, given⟩ := Option.isSome_iff_exists.mp kind
    rw [take_of_kind kind, perform]
    split
    · rename_i e
      rw [given]
      exact .shut ⟨takes, e⟩ given
    · rename_i fault e
      apply Handles.quiet .shutDown _ tells (by simp) rfl
      rintro (opens | closes | ⟨_, fits⟩)
      · simpa using opens.1.eq known
      · simpa using closes.1.eq known
      · simp [e] at fits
  · apply Handles.quiet .shutDown (not_settles known fun takes => kind takes.id) tells (by simp)
    exact step_take_of_kind (by simpa [Method.isRequest] using kind)

/-- A message of a known method that does not tell of a document. -/
lemma handles_enter (known : Method.ofName? message.method = some method) (tells : ¬ s.Tells message) :
    s.Handles around message (s.enter around method message.id message.params) := by
  have refused (phase : s.phase ≠ .initialized) (refusal : Refusal) :
      s.Handles around message (s.refused message.id refusal) :=
    .unchanged (not_settles known fun takes => phase takes.phase) tells rfl
  unfold enter
  split
  · exact .quiet .exited (not_settles_of_method known (by simp) (by simp) (by simp)) tells (by simp) rfl
  · apply Handles.unchanged (not_settles_of_method known (by simp) (by simp) (by simp)) tells
    by_cases kind : message.id.isSome = Method.cancel.isRequest
    · rw [take_of_kind kind]
      rfl
    · exact step_take_of_kind kind
  · split
    · exact handles_start ‹_› tells
    · exact .unchanged (not_settles_of_method known (by simp) (by simp) (by simp)) tells rfl
  · split
    · exact handles_shutdown ‹_› known tells
    · exact refused ‹_› _
  · split
    · rename_i start shuts phase
      by_cases kind : message.id.isSome = method.isRequest
      · rw [take_of_kind kind]
        exact handles_perform ⟨phase, known, kind⟩ start shuts tells
      · exact .unchanged (not_settles known fun takes => kind takes.id) tells (step_take_of_kind kind)
    · exact refused ‹_› _

/-- Every message has a rule. -/
theorem handles_receive (s : Server) (around : Surroundings) (message : Incoming) :
    s.Handles around message (s.receive around message) := by
  by_cases tells : s.Tells message
  · exact .told tells (step_receive tells.phase around tells.method tells.id)
  · unfold receive
    split
    · rename_i phase
      apply Handles.unchanged _ tells rfl
      exact fun settles => absurd (phase.symm.trans settles.phase) (by simp)
    · split
      · exact handles_enter ‹_› tells
      · rename_i unknown
        have settles : ¬ s.Settles message := by
          intro settles
          obtain ⟨_, _, takes⟩ := settles.takes
          exact absurd (unknown.symm.trans takes.known) (by simp)
        split
        · exact .unchanged settles tells rfl
        · exact .unchanged settles tells rfl

/-- What settles a scan is no notice. -/
lemma Settles.not_tells (settles : s.Settles message) : ¬ s.Tells message := by
  intro tells
  have others : ∀ name ∈ Notice.methods, ∀ method ∈ [Method.openGallery, .closeGallery, .shutdown],
      Method.ofName? name ≠ some method := by
    decide +kernel
  obtain ⟨method, mem, takes⟩ := settles.takes
  exact others _ tells.method method mem takes.known

lemma Opens.not_closes (opens : s.Opens message) : ¬ s.Closes message := fun closes => by
  simpa using closes.1.eq opens.1.known

/-- A request for the gallery is answered. -/
lemma Opens.receive (opens : s.Opens message) (around : Surroundings) :
    ∃ id p, message.id = some id ∧ paramsOf Schema.openGallery OpenGallery.ofJson? message.params = .ok p ∧
      s.receive around message = ⟨.response ⟨id, .ok (.array
        ((s.openGallery around (p.uri.bind Uri.toPath?)).1.map Figure.toJson))⟩,
        (s.openGallery around (p.uri.bind Uri.toPath?)).2⟩ := by
  have settles : s.Settles message := .inl opens
  have handles := s.handles_receive around message
  generalize s.receive around message = turn at handles
  cases handles with
  | started phase => exact absurd phase opens.1.not_uninitialized
  | opened takes given fits => exact ⟨_, _, given, fits, rfl⟩
  | closed closes => exact absurd closes opens.not_closes
  | shut shuts => simpa using shuts.1.eq opens.1.known
  | told tells => exact absurd tells settles.not_tells
  | other _ _ quiet => exact absurd settles quiet

end FigureGallery.Server
