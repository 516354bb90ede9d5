import FigureGallery.Scanner
import FigureGallery.Session
import FigureGallery.Text.Position

/-!
# The workspace of an editor

What the editor has told about a project: its root, the texts of its open documents, and the gallery session. The
settings of the project are read when the root becomes known and again whenever its configuration is saved.
-/

namespace FigureGallery

/-- A change of a document: a range gets another text, or the whole document does when there is no range. -/
structure Change where
  range : Option Text.Range
  text : String
deriving DecidableEq

/-- Why changes cannot be applied. -/
inductive ChangeError where
  /-- A range ends before it starts. -/
  | reversedRange (range : Text.Range)
deriving DecidableEq

namespace Change

/-- The text after a change. A range with an end that is no place of the text changes nothing. -/
def apply (text : String) (change : Change) : Except ChangeError String :=
  match change.range with
  | none => .ok change.text
  | some range =>
    match range.start.offset? text.toList, range.stop.offset? text.toList with
    | some start, some stop =>
      if start ≤ stop then .ok (String.ofList (Text.splice start stop change.text.toList text.toList))
      else .error (.reversedRange range)
    | _, _ => .ok text

/-- The text after a list of changes, each of which applies to the text that the one before it left. The first change
that cannot be applied ends the list. -/
def applyAll (text : String) : List Change → String × Option ChangeError
  | [] => (text, none)
  | change :: changes => match change.apply text with
    | .ok text => applyAll text changes
    | .error e => (text, some e)

end Change

/-- The state of a workspace. -/
structure Workspace where
  /-- The root of the project. -/
  root : Option Path
  /-- The settled options of the project; none without a root. -/
  scanner : Option Scanner
  /-- The texts of the open documents. -/
  buffers : Buffers
  session : Session

namespace Workspace

/-- A workspace without a project. -/
def empty : Workspace where
  root := none
  scanner := none
  buffers := .empty
  session := .start Config.default.extension Config.default.debounceMs

/-- The scanner of a project. A project whose configuration is refused is scanned with default options. -/
def scannerAt (tree : FileTree) (root : Path) : Option Scanner :=
  match Scanner.load tree root with
  | .ok scanner => some scanner
  | .error _ => (Scanner.make tree root .default).toOption

/-- A session with the options of a scanner; without one, with default options. -/
def sessionFor : Option Scanner → Session
  | some scanner => .start scanner.options.extension scanner.options.debounceMs
  | none => .start Config.default.extension Config.default.debounceMs

/-- The session of a new configuration: the gallery stays open, and the active document stays active if it still is a
document. -/
def renewed (session : Session) (scanner : Option Scanner) : Session :=
  let fresh := { sessionFor scanner with isOpen := session.isOpen }
  session.active.elim fresh fresh.withActive

/-- Points the workspace at a root, and reads the configuration there. -/
def configure (w : Workspace) (tree : FileTree) (root : Option Path) : Workspace :=
  let scanner := root.bind (scannerAt tree)
  { w with root, scanner, session := renewed w.session scanner }

/-- Lets the session answer a trigger. -/
def handle (w : Workspace) (trigger : Trigger) (now : Nat) : Action × Workspace :=
  ((w.session.handle trigger now).1, { w with session := (w.session.handle trigger now).2 })

/-- Opens a document, which becomes active. -/
def openDocument (w : Workspace) (document : Path) (text : String) (now : Nat) : Action × Workspace :=
  { w with buffers := w.buffers.set document text }.handle (.activeChanged document) now

/-- Changes the text of an open document. The text of the last change becomes the whole text of a document that is not
open. -/
def applyChanges (w : Workspace) (document : Path) (changes : List Change) : Workspace × Option ChangeError :=
  match w.buffers.get? document with
  | some text =>
    let (text, error?) := Change.applyAll text changes
    ({ w with buffers := w.buffers.set document text }, error?)
  | none => match changes.getLast? with
    | some change => ({ w with buffers := w.buffers.set document change.text }, none)
    | none => (w, none)

/-- Takes notice of an edit; the edited document becomes active. -/
def recordEdit (w : Workspace) (document : Path) (now : Nat) : Action × Workspace :=
  { w with session := w.session.withActive document }.handle (.textChanged document) now

/-- Closes a document. One that is no file either cannot stay active. -/
def closeDocument (w : Workspace) (tree : FileTree) (document : Path) (now : Nat) : Action × Workspace :=
  { w with
    buffers := w.buffers.erase document
    session := if tree.isFile document then w.session else w.session.withoutActive document }.handle
      (.textChanged document) now

/-- Opens the gallery. -/
def openGallery (w : Workspace) (now : Nat) : Action × Workspace :=
  w.handle .openRequested now

/-- Closes the gallery. -/
def closeGallery (w : Workspace) : Workspace :=
  { w with session := w.session.closed }

/-- Whether a scan is due, and the workspace after that. -/
def takeDue (w : Workspace) (now : Nat) : Bool × Workspace :=
  ((w.session.takeDue now).1, { w with session := (w.session.takeDue now).2 })

/-- Where the workspace reads documents from. -/
def source (w : Workspace) (tree : FileTree) : Source :=
  ⟨tree, w.buffers⟩

/-- The scanner for an active document: that of the project, or else one for the directory of the document. -/
def scannerFor (w : Workspace) (tree : FileTree) (active : Path) : Option Scanner :=
  match w.scanner with
  | some scanner => some scanner
  | none => active.parent?.bind fun directory => (Scanner.make tree directory .default).toOption

/-- A scan for the active document; none when no document is active. -/
def scan (w : Workspace) (tree : FileTree) : Option Scan :=
  w.session.active.bind fun active =>
    (w.scannerFor tree active).map fun scanner => scanner.scan (w.source tree) active

end Workspace

end FigureGallery
