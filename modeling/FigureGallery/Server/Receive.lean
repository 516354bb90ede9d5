import FigureGallery.Server.Basic
import FigureGallery.Server.Method
import FigureGallery.Server.Params

/-!
# What the server does with a message

Whether a message is taken depends on the phase of the server first, then on whether it is a request or a notification,
and then on its parameters. Messages with an identifier that are not taken are refused; those without one are passed
over.
-/

namespace FigureGallery.Server

/-- How a message is answered. -/
inductive Answer where
  /-- There is no answer. -/
  | silent
  | response (response : Response)
  /-- The server has exited and takes no messages. -/
  | closed
  /-- The message broke the server off while it applied changes. -/
  | broken (error : ChangeError)

/-- The answer to a message and the step that it made the server take. -/
structure Turn where
  answer : Answer
  step : Step

/-- The version of the server. -/
def version : String := "0.1.0"

/-- What the server is capable of: documents are kept in step by their changes. -/
def capabilities : Json :=
  .object [
    ("capabilities", .object [
      ("textDocumentSync", .object [("openClose", .bool true), ("change", .nat 2), ("save", .bool true)])]),
    ("serverInfo", .object [("name", .string "typfig-lsp"), ("version", .string version)])]

/-- The answer to a request; notifications are not answered. -/
def answerTo (id : Option Json) (outcome : Except Refusal Json) : Answer :=
  match id with
  | some id => .response ⟨id, outcome⟩
  | none => .silent

/-- A message that changes nothing. -/
def refused (s : Server) (id : Option Json) (refusal : Refusal) : Turn :=
  ⟨answerTo id (.error refusal), ⟨s, []⟩⟩

/-- A step of a message that has no answer. -/
def noticed (step : Step) : Turn :=
  ⟨.silent, step⟩

/-- A message that is passed over. -/
def passedOver (s : Server) : Turn :=
  noticed ⟨s, []⟩

/-- The root of the project that a client tells. -/
def rootOf (params : Start) : Option Path :=
  (params.folders.head?.bind Uri.toPath?).or (params.root.bind Uri.toPath?)

/-- The parameters of a message, or what is wrong with them. -/
def paramsOf {α : Type} (schema : Json.Schema) (read? : Json → Option α) (params : Option Json) :
    Except ParamsFault α :=
  match params with
  | none => .error .missing
  | some j => (readAs schema read? j).mapError .mismatch

/-- The parameters of a message that has none, for which `null` may stand. -/
def noParams (params : Option Json) : Except ParamsFault Unit :=
  match params with
  | none => .ok ()
  | some .null => .ok ()
  | some j => .error (.unexpected j.compact)

/-- A notification about a document: it is passed over when its parameters do not fit or name no path. -/
def aboutDocument {α : Type} (s : Server) (params : Except ParamsFault α) (uri : α → Uri) (act : α → Path → Turn) :
    Turn :=
  match params with
  | .ok a => match (uri a).toPath? with
    | some document => act a document
    | none => s.passedOver
  | .error _ => s.passedOver

/-- Starts the server for a client. -/
def start (s : Server) (around : Surroundings) (id params : Option Json) : Turn :=
  match paramsOf Schema.start Start.ofJson? params with
  | .error fault => s.refused id (.invalidParams fault)
  | .ok params =>
    let workspace := s.workspace.configure around.tree (rootOf params)
    ⟨answerTo id (.ok capabilities), ⟨{ s with phase := .initialized, workspace }, []⟩⟩

/-- Takes a message that fits the phase and the kind of its method. -/
def perform (s : Server) (around : Surroundings) (method : Method) (id params : Option Json) : Turn :=
  match method with
  | .start => s.start around id params
  | .started =>
    match paramsOf Schema.started some params with
    | .ok _ => noticed ⟨s, [.logMessage "typfig language server initialized"]⟩
    | .error _ => s.passedOver
  | .shutdown =>
    match noParams params with
    | .ok _ => ⟨answerTo id (.ok .null), ⟨s.quiet, []⟩⟩
    | .error fault => s.refused id (.invalidParams fault)
  | .exit => s.passedOver
  | .didOpen => s.aboutDocument (paramsOf Schema.didOpen DidOpen.ofJson? params) (·.uri) fun p document =>
      noticed (s.didOpen around document p.text)
  | .didChange => s.aboutDocument (paramsOf Schema.didChange DidChange.ofJson? params) (·.uri) fun p document =>
      match s.didChange around document p.changes with
      | (.ok step, _) => noticed step
      | (.error e, s) => ⟨.broken e, ⟨s, []⟩⟩
  | .didSave => s.aboutDocument (paramsOf Schema.didSave didSave? params) (·.uri) fun _ document =>
      noticed (s.didSave around document)
  | .didClose => s.aboutDocument (paramsOf Schema.didClose didClose? params) (·.uri) fun _ document =>
      noticed (s.didClose around document)
  | .activeDocumentChanged =>
    s.aboutDocument (paramsOf Schema.activeDocument ActiveDocument.ofJson? params) (·.uri) fun _ document =>
      noticed (s.activeDocumentChanged around document)
  | .openGallery =>
    match paramsOf Schema.openGallery OpenGallery.ofJson? params with
    | .error fault => s.refused id (.invalidParams fault)
    | .ok p =>
      let (figures, step) := s.openGallery around (p.uri.bind Uri.toPath?)
      ⟨answerTo id (.ok (.array (figures.map Figure.toJson))), step⟩
  | .closeGallery =>
    match noParams params with
    | .ok _ => noticed ⟨s.closeGallery, []⟩
    | .error _ => s.passedOver
  | .navigate =>
    match paramsOf Schema.navigate Navigate.ofJson? params with
    | .error fault => s.refused id (.invalidParams fault)
    | .ok p =>
      let (shown, step) := s.navigate around p.path p.line
      ⟨answerTo id (.ok (.bool shown)), step⟩
  | .cancel => s.passedOver
  | .unsupportedRequest name =>
    match paramsOf ((Schema.requests.lookup name).getD .anything) some params with
    | .ok _ => s.refused id .unsupportedMethod
    | .error fault => s.refused id (.invalidParams fault)
  | .unsupportedNotification => s.passedOver

/-- Takes a message whose kind has to fit its method. A request without an identifier is passed over, and a notification
with one is refused. -/
def take (s : Server) (around : Surroundings) (method : Method) (id params : Option Json) : Turn :=
  match method.isRequest, id.isSome with
  | true, false => s.passedOver
  | false, true => s.refused id .invalidRequest
  | _, _ => s.perform around method id params

/-- The refusal of a method that does not fit the phase. -/
def phaseRefusal (s : Server) : Refusal :=
  if s.phase = .uninitialized then .notInitialized else .invalidRequest

/-- Takes a message of a known method when the phase allows it. -/
def enter (s : Server) (around : Surroundings) (method : Method) (id params : Option Json) : Turn :=
  match method with
  | .exit => noticed ⟨{ s with phase := .exited }, []⟩
  | .cancel => s.take around .cancel id params
  | .start =>
    if s.phase = .uninitialized then s.take around .start id params else s.refused id .invalidRequest
  | .shutdown =>
    if s.phase = .initialized then { s with phase := .shutDown }.take around .shutdown id params
    else s.refused id s.phaseRefusal
  | method => if s.phase = .initialized then s.take around method id params else s.refused id s.phaseRefusal

/-- Takes a message. -/
def receive (s : Server) (around : Surroundings) (message : Incoming) : Turn :=
  if s.phase = .exited then ⟨.closed, ⟨s, []⟩⟩
  else match Method.ofName? message.method with
    | some method => s.enter around method message.id message.params
    | none =>
      if isOptionalName message.method then s.passedOver
      else s.refused message.id (.unknownMethod message.method)

end FigureGallery.Server
