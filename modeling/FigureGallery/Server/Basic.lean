import FigureGallery.Number.Width
import FigureGallery.Server.Protocol
import FigureGallery.Workspace

/-!
# The language server

The server keeps the workspace of one client and shows the figures of its active document while the gallery is open. A
scan that is not due yet is kept as a timer. The file tree, the time and the client's answers are given from outside, so
that every step is a function.
-/

namespace FigureGallery

/-- The phases of a server. -/
inductive Server.Phase where
  | uninitialized
  | initialized
  | shutDown
  | exited
deriving DecidableEq

/-- A language server. -/
structure Server where
  phase : Server.Phase
  workspace : Workspace
  /-- The time at which the pending scan wakes up. -/
  timer : Option Nat
  /-- The number of the next request to the client. -/
  nextRequest : Nat

namespace Server

/-- What a step of the server meets. -/
structure Surroundings where
  tree : FileTree
  /-- The time in milliseconds. -/
  now : Nat
  /-- The result that the client answers requests with. -/
  reply : Json

/-- A server after a step, and what it sent to the client. -/
structure Step where
  server : Server
  sent : List Outgoing

/-- A server that no client has initialized. -/
def fresh : Server where
  phase := .uninitialized
  workspace := .empty
  timer := none
  nextRequest := 0

/-- Whether the client is told anything. -/
def isConnected (s : Server) : Bool :=
  s.phase == .initialized || s.phase == .shutDown

/-- The messages that reach the client. -/
def delivered (s : Server) (messages : List Outgoing) : List Outgoing :=
  if s.isConnected then messages else []

/-- A server without a pending scan. -/
def quiet (s : Server) : Server :=
  { s with timer := none }

/-- What is sent about a scan. -/
def published (s : Server) (scan? : Option Scan) : List Outgoing :=
  s.delivered (scan?.toList.map fun scan => .figureSet scan.figures)

/-- The figures of a scan; none when there is no scan. -/
def figuresOf (scan? : Option Scan) : List Figure :=
  (scan?.map Scan.figures).getD []

/-- Scans at once; a pending scan is dropped. -/
def rescan (s : Server) (tree : FileTree) : Step :=
  ⟨s.quiet, s.published (s.workspace.scan tree)⟩

/-- Sets the timer, in place of any that was set. -/
def schedule (s : Server) (now : Nat) : Server :=
  { s with timer := some (now + s.workspace.session.debouncer.delay) }

/-- Does what the session asks for. -/
def dispatch (s : Server) (around : Surroundings) (asked : Action × Workspace) : Step :=
  let s := { s with workspace := asked.2 }
  match asked.1 with
  | .ignore => ⟨s, []⟩
  | .scanNow => s.rescan around.tree
  | .debounced => ⟨s.schedule around.now, []⟩

/-- Lets the timer run out at a time. The scan takes place only when the session still waits for it. -/
def wake (s : Server) (tree : FileTree) (now : Nat) : Step :=
  let (due, workspace) := s.workspace.takeDue now
  let s := { s.quiet with workspace }
  ⟨s, if due then s.published (workspace.scan tree) else []⟩

/-- Waits for the pending scan; none when there is no pending scan. -/
def settle (s : Server) (tree : FileTree) : Option Step :=
  s.timer.map fun time => s.wake tree time

/-- Opens the gallery, with a document that becomes active if it is one. -/
def opened (s : Server) (document? : Option Path) (now : Nat) : Server :=
  let session := document?.elim s.workspace.session s.workspace.session.withActive
  { s with workspace := ({ s.workspace with session }.openGallery now).2 }

/-- Opens the gallery and scans at once; the figures are the answer. -/
def openGallery (s : Server) (around : Surroundings) (document? : Option Path) : List Figure × Step :=
  let s := s.opened document? around.now
  (figuresOf (s.workspace.scan around.tree), s.rescan around.tree)

/-- Closes the gallery; a pending scan is dropped. -/
def closeGallery (s : Server) : Server :=
  { s.quiet with workspace := s.workspace.closeGallery }

/-- Whether the client's answer says that it showed the document. -/
def hasShown (reply : Json) : Bool :=
  match reply.record? ["success"] with
  | some [some (.bool success)] => success
  | _ => false

/-- A path as a URI names it: without relative parts. -/
def namedPath (tree : FileTree) (p : Path) : Path :=
  if p.isAbsolute then p
  else match tree.locate p with
    | .ok location => FileTree.pathOf location
    | .error _ => p

/-- Asks the client to show a place. Failures are shown to the user and answered with `false`. -/
def showTarget (s : Server) (around : Surroundings) (target : NavigationTarget) : Bool × Step :=
  let request := Outgoing.showDocument s.nextRequest (.ofPath (namedPath around.tree target.path))
    (target.zeroBasedLine % Width.capacity 32)
  let s := { s with nextRequest := s.nextRequest + 1 }
  if hasShown around.reply then (true, ⟨s, [request]⟩)
  else (false, ⟨s, [request, .showMessage ("Cannot open file: " ++ target.path.text)]⟩)

/-- Shows a line of a document, counted from one. -/
def navigate (s : Server) (around : Surroundings) (path : Path) (line : Nat) : Bool × Step :=
  match NavigationTarget.make around.tree path line with
  | .ok target => s.showTarget around target
  | .error failure => (false, ⟨s, [.showMessage failure.message]⟩)

/-- Takes notice of an opened document. -/
def didOpen (s : Server) (around : Surroundings) (document : Path) (text : String) : Step :=
  s.dispatch around (s.workspace.openDocument document text around.now)

/-- Takes notice of changes, unless they cannot be applied. -/
def didChange (s : Server) (around : Surroundings) (document : Path) (changes : List Change) :
    Except ChangeError Step × Server :=
  let (workspace, error?) := s.workspace.applyChanges document changes
  match error? with
  | some e => (.error e, { s with workspace })
  | none =>
    let step := s.dispatch around (workspace.recordEdit document around.now)
    (.ok step, step.server)

/-- Takes notice of a saved document. A configuration is read again. -/
def didSave (s : Server) (around : Surroundings) (document : Path) : Step :=
  let workspace :=
    if Config.isConfigFile document then s.workspace.configure around.tree s.workspace.root else s.workspace
  s.dispatch around (workspace.recordEdit document around.now)

/-- Takes notice of a closed document. -/
def didClose (s : Server) (around : Surroundings) (document : Path) : Step :=
  s.dispatch around (s.workspace.closeDocument around.tree document around.now)

/-- Takes notice of another active document. -/
def activeDocumentChanged (s : Server) (around : Surroundings) (document : Path) : Step :=
  s.dispatch around (s.workspace.handle (.activeChanged document) around.now)

end Server

end FigureGallery
