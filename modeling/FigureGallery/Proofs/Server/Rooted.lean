import FigureGallery.Proofs.Server.Publication
import FigureGallery.Proofs.Uri.File
import FigureGallery.Proofs.Workspace.Ignored

/-!
# Servers of a project

A server that was started for a project keeps its root. As long as the files stay as they are, it keeps its scanner as
well: reading the configuration again gives the same one. So a request for the gallery is answered with the figures that
this scanner finds for the document that is asked for.
-/

namespace FigureGallery

/-- A project whose configuration is not refused has the scanner that it asks for. -/
lemma Workspace.scannerAt_of_load {tree : FileTree} {root : Path} {scanner : Scanner}
    (loads : Scanner.load tree root = .ok scanner) : scannerAt tree root = some scanner := by
  unfold scannerAt
  split
  · rename_i e
    exact congrArg some (Except.ok.inj (e.symm.trans loads))
  · rename_i e
    exact absurd (e.symm.trans loads) (by simp)

namespace Server

/-- A request that starts a server for the project with a root. -/
structure Incoming.StartsAt (message : Incoming) (root : Path) : Prop where
  method : message.method = "initialize"
  id : message.id.isSome
  params : ∃ params, paramsOf Schema.start Start.ofJson? message.params = .ok params ∧ rootOf params = some root

/-- A request for the gallery with a document. -/
structure Incoming.AsksFor (message : Incoming) (document : Path) : Prop where
  method : message.method = "typfig/openGallery"
  id : message.id.isSome
  params : ∃ p, paramsOf Schema.openGallery OpenGallery.ofJson? message.params = .ok p ∧
    p.uri.bind Uri.toPath? = some document

/-- A server that was started for the project with a root, while the files are as they are. -/
structure Serves (tree : FileTree) (root : Path) (s : Server) : Prop where
  started : s.phase ≠ .uninitialized
  scanner : s.workspace.scanner = Workspace.scannerAt tree root
  root : s.workspace.root = some root

variable {s : Server} {around : Surroundings} {message : Incoming} {tree : FileTree} {root document : Path}

/-- A client may write the URI of the document that it asks for. -/
lemma Incoming.asksFor_ofPath (absolute : document.isAbsolute) (normal : document.normalize = document) (id : Json) :
    Incoming.AsksFor ⟨"typfig/openGallery", some (.object [("uri", .string (Uri.ofPath document).text)]), some id⟩
      document where
  method := rfl
  id := rfl
  params := by
    have parsed : Uri.parse? (Uri.ofPath document).text = some (Uri.ofPath document) := Uri.parse?_ofPath absolute
    have nonempty : document.text ≠ "" := fun empty => by simp [Path.isAbsolute, empty] at absolute
    generalize e : (Uri.ofPath document).text = written at parsed
    have fits : Json.Schema.uriMismatch? (.string written) = none := by
      obtain ⟨uri, read⟩ : ∃ uri, Uri.parse written = .ok uri := by
        rw [Uri.parse?] at parsed
        cases read : Uri.parse written with
        | ok uri => exact ⟨uri, rfl⟩
        | error fault => simp [read, Except.toOption] at parsed
      simp [Json.Schema.uriMismatch?, read]
    have schema : Schema.openGallery.mismatch? false (.object [("uri", .string written)]) = none := by
      simp [Schema.openGallery, Schema.plain, Schema.defaulted, Json.Schema.mismatch?, Json.Schema.fieldMismatches,
        Json.Schema.firstByName, Json.Schema.missing?, Json.Schema.groupsMismatch?, fits]
    have value : OpenGallery.ofJson? (.object [("uri", .string written)]) = some ⟨some (Uri.ofPath document)⟩ := by
      simp [OpenGallery.ofJson?, Json.record?, Json.keysDistinct, optional?, uri?, Json.nullable?, Json.string?, parsed]
    refine ⟨⟨some (Uri.ofPath document)⟩, ?_, ?_⟩
    · rw [paramsOf, readAs, schema, value]
      rfl
    · rw [Option.bind_some, Uri.toPath?_ofPath nonempty, normal]

/-- A notice keeps the root, and the scanner unless it has the configuration read again. -/
lemma Notice.project_answer (w : Workspace) (around : Surroundings) (notice : Notice) :
    (notice.answer w around).2.root = w.root ∧
      ((notice.answer w around).2.scanner = w.scanner ∨
        (notice.answer w around).2.scanner = w.root.bind (Workspace.scannerAt around.tree)) := by
  cases notice with
  | opened document text => exact ⟨rfl, .inl rfl⟩
  | changed document changes =>
    obtain ⟨buffers, same, _⟩ := w.applyChanges_eq document changes
    rw [answer]
    split
    · rename_i e
      rw [e] at same
      subst same
      exact ⟨rfl, .inl rfl⟩
    · rename_i e
      rw [e] at same
      subst same
      exact ⟨rfl, .inl rfl⟩
  | saved document =>
    rw [answer]
    split
    · exact ⟨rfl, .inr rfl⟩
    · exact ⟨rfl, .inl rfl⟩
  | closed document => exact ⟨rfl, .inl rfl⟩
  | activated document => exact ⟨rfl, .inl rfl⟩

lemma project_answerOf (s : Server) (around : Surroundings) (message : Incoming) :
    (s.answerOf around message).2.root = s.workspace.root ∧
      ((s.answerOf around message).2.scanner = s.workspace.scanner ∨
        (s.answerOf around message).2.scanner = s.workspace.root.bind (Workspace.scannerAt around.tree)) := by
  rw [answerOf]
  cases Notice.ofMessage? message with
  | none => exact ⟨rfl, .inl rfl⟩
  | some notice => exact notice.project_answer s.workspace around

lemma serves_of_startsAt (starts : message.StartsAt root) :
    (fresh.receive around message).step.server.Serves around.tree root := by
  obtain ⟨name, params, id⟩ := message
  obtain ⟨rfl, given, p, fits, named⟩ := starts
  have known : Method.ofName? "initialize" = some .start := rfl
  have performed : fresh.receive around ⟨"initialize", params, id⟩ = fresh.start around id params := by
    rw [receive, if_neg (by simp [fresh])]
    simp only [known]
    rw [enter, if_pos (show fresh.phase = .uninitialized from rfl)]
    exact take_of_kind given
  rw [performed, start]
  simp only at fits
  rw [fits]
  exact ⟨by simp, congrArg (Option.bind · (Workspace.scannerAt around.tree)) named, named⟩

/-- No event points a server elsewhere. -/
lemma Serves.turn (serves : s.Serves tree root) {event : Event} (same : event.tree = tree) :
    (s.turn event).step.server.Serves tree root := by
  cases event with
  | message around message =>
    obtain rfl : around.tree = tree := same
    rw [Server.turn]
    have handles := s.handles_receive around message
    generalize s.receive around message = turn at handles
    cases handles with
    | started phase => exact absurd phase serves.started
    | opened takes given fits => exact ⟨serves.started, serves.scanner, serves.root⟩
    | closed closes => exact ⟨serves.started, serves.scanner, serves.root⟩
    | shut shuts given => exact ⟨by simp, serves.scanner, serves.root⟩
    | told tells step =>
      obtain ⟨rooted, scanner⟩ := s.project_answerOf around message
      have phase : (s.dispatch around (s.answerOf around message)).server.phase = s.phase := by
        rw [dispatch]
        split <;> rfl
      rw [step]
      refine ⟨phase ▸ serves.started, ?_, by rw [workspace_dispatch, rooted, serves.root]⟩
      rw [workspace_dispatch]
      rcases scanner with e | e
      · rw [e, serves.scanner]
      · rw [e, serves.root]
        rfl
    | other phase nextRequest settles tells later server sent =>
      rw [server]
      exact ⟨mt later serves.started, serves.scanner, serves.root⟩
  | time tree now =>
    rw [Server.turn]
    split
    · exact ⟨serves.started, serves.scanner, serves.root⟩
    · exact serves

lemma Serves.after (serves : s.Serves tree root) {events : List Event} (same : ∀ event ∈ events, event.tree = tree) :
    (s.after events).Serves tree root := by
  induction events generalizing s with
  | nil => exact serves
  | cons event events ih =>
    obtain ⟨first, rest⟩ := List.forall_mem_cons.mp same
    exact ih (serves.turn first) rest

/-- Without open documents, a request for the gallery is answered with the figures that the scanner of the project finds
for the document, and these are sent once. -/
lemma Serves.gallery {scanner : Scanner} (serves : s.Serves around.tree root) (reachable : s.Reachable)
    (phase : s.phase = .initialized) (closed : s.workspace.buffers = .empty)
    (loads : Scanner.load around.tree root = .ok scanner) (markup : scanner.isMarkup document)
    (asks : message.AsksFor document) :
    ∃ id, message.id = some id ∧
      (s.receive around message).answer =
        .response ⟨id, .ok (.array ((scanner.scan (.ofTree around.tree) document).figures.map Figure.toJson))⟩ ∧
      (s.receive around message).step.sent = [.figureSet (scanner.scan (.ofTree around.tree) document).figures] := by
  obtain ⟨method, given, p, fits, named⟩ := asks
  have takes : s.Takes .openGallery message := ⟨phase, by rw [method]; decide +kernel, given⟩
  obtain ⟨id, q, e, again, turn⟩ := Opens.receive (s := s) ⟨takes, p, fits⟩ around
  obtain rfl : p = q := Except.ok.inj (fits.symm.trans again)
  have made : s.workspace.scanner = some scanner := serves.scanner.trans (Workspace.scannerAt_of_load loads)
  have accepts : s.workspace.session.accepts document := by
    rw [Session.accepts, reachable.workspace.coherent.extension, made]
    simpa [Workspace.sessionFor, Session.start, Path.hasExtension, Path.bareExtension_bareExtension, Scanner.isMarkup]
      using markup
  have scan : (s.opened (some document) around.now).workspace.scan around.tree =
      some (scanner.scan (.ofTree around.tree) document) := by
    rw [opened, Workspace.scan]
    simp [Session.withActive, accepts, Workspace.openGallery, Workspace.handle, Session.handle, Session.opened,
      Workspace.scannerFor, made, Workspace.source, closed, Source.ofTree]
  refine ⟨id, e, ?_, ?_⟩
  · rw [turn, named, openGallery, scan]
    rfl
  · rw [turn, named, openGallery, rescan, scan]
    simp [published, delivered, opened, isConnected, phase]

end Server

end FigureGallery
