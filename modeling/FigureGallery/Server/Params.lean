import FigureGallery.Json.Record
import FigureGallery.Server.Schema.Client
import FigureGallery.Workspace

/-!
# Parameters of the server's methods

What the methods of the language server are told, and how it is read from JSON. A value that does not fit is refused as
a whole.
-/

namespace FigureGallery.Server

/-- The URI that a value stands for. -/
def uri? (j : Json) : Option Uri :=
  j.string?.bind Uri.parse?

/-- The number of 32 bits without a sign that a value stands for. -/
def word? (j : Json) : Option Nat :=
  j.nat?.filter (· < Width.capacity 32)

/-- The number of 32 bits with a sign that a value stands for. -/
def version? : Json → Option Int
  | .integer n => if Width.fitsSigned 32 n then some n else none
  | _ => none

/-- A field that may be missing or `null`. -/
def optional? {α : Type} (read? : Json → Option α) : Option Json → Option (Option α)
  | some j => j.nullable? read?
  | none => some none

/-- Asks for the gallery, perhaps with the document that becomes active. -/
structure OpenGallery where
  uri : Option Uri

/-- Tells that another document became active. -/
structure ActiveDocument where
  uri : Uri

/-- Asks for a line of a document, counted from one. -/
structure Navigate where
  path : Path
  line : Nat

/-- Tells that a document was opened. -/
structure DidOpen where
  uri : Uri
  text : String

/-- Tells that a document was changed. -/
structure DidChange where
  uri : Uri
  changes : List Change

/-- Tells that a document was saved, or closed. -/
structure Identified where
  uri : Uri

/-- Tells where the project is. -/
structure Start where
  /-- The folders of the workspace. -/
  folders : List Uri
  /-- The root of the workspace, which counts when there is no folder. -/
  root : Option Uri

/-- The parameters that ask for the gallery. -/
def OpenGallery.ofJson? (j : Json) : Option OpenGallery := do
  match ← j.record? ["uri"] with
  | [uri] => some ⟨← optional? uri? uri⟩
  | _ => none

/-- The parameters that tell of another active document. -/
def ActiveDocument.ofJson? (j : Json) : Option ActiveDocument := do
  match ← j.record? ["uri"] with
  | [some uri] => some ⟨← uri? uri⟩
  | _ => none

/-- The parameters that ask for a line of a document. -/
def Navigate.ofJson? (j : Json) : Option Navigate := do
  match ← j.record? ["path", "line"] with
  | [some path, some line] => some ⟨⟨← path.string?⟩, ← line.nat?⟩
  | _ => none

/-- The URI of a document that is identified by it alone. -/
def identifier? (j : Json) : Option Uri := do
  match ← j.record? ["uri"] with
  | [some uri] => uri? uri
  | _ => none

/-- The parameters that tell of an opened document. -/
def DidOpen.ofJson? (j : Json) : Option DidOpen := do
  match ← j.record? ["textDocument"] with
  | [some document] => match ← document.record? ["uri", "languageId", "version", "text"] with
    | [some uri, some language, some version, some text] =>
      let _ ← language.string?
      let _ ← version? version
      some ⟨← uri? uri, ← text.string?⟩
    | _ => none
  | _ => none

/-- The position that a value stands for. -/
def position? (j : Json) : Option Text.Position := do
  match ← j.record? ["line", "character"] with
  | [some line, some column] => some ⟨← word? line, ← word? column⟩
  | _ => none

/-- The range that a value stands for. -/
def range? (j : Json) : Option Text.Range := do
  match ← j.record? ["start", "end"] with
  | [some start, some stop] => some ⟨← position? start, ← position? stop⟩
  | _ => none

/-- The change that a value stands for. -/
def change? (j : Json) : Option Change := do
  match ← j.record? ["range", "rangeLength", "text"] with
  | [range, length, some text] =>
    let _ ← optional? word? length
    some ⟨← optional? range? range, ← text.string?⟩
  | _ => none

/-- The parameters that tell of a changed document. -/
def DidChange.ofJson? (j : Json) : Option DidChange := do
  match ← j.record? ["textDocument", "contentChanges"] with
  | [some document, some changes] => match ← document.record? ["uri", "version"] with
    | [some uri, some version] =>
      let _ ← version? version
      some ⟨← uri? uri, ← changes.list? change?⟩
    | _ => none
  | _ => none

/-- The parameters that tell of a saved document. -/
def didSave? (j : Json) : Option Identified := do
  match ← j.record? ["textDocument", "text"] with
  | [some document, text] =>
    let _ ← optional? Json.string? text
    some ⟨← identifier? document⟩
  | _ => none

/-- The parameters that tell of a closed document. -/
def didClose? (j : Json) : Option Identified := do
  match ← j.record? ["textDocument"] with
  | [some document] => some ⟨← identifier? document⟩
  | _ => none

/-- The URI of a folder of the workspace. -/
def folder? (j : Json) : Option Uri := do
  match ← j.record? ["uri", "name"] with
  | [some uri, some name] =>
    let _ ← name.string?
    uri? uri
  | _ => none

/-- The parameters that tell where the project is. What the client is capable of makes no difference. -/
def Start.ofJson? (j : Json) : Option Start := do
  match j with
  | .object _ => match ← j.record? ["capabilities", "workspaceFolders", "rootUri"] with
    | [some _, folders, root] =>
      some ⟨(← optional? (Json.list? folder?) folders).getD [], ← optional? uri? root⟩
    | _ => none
  | _ => none

namespace Schema

/-- What the request for the gallery tells. -/
def openGallery : Json.Schema :=
  plain "OpenGalleryParams" [defaulted "uri" .uri]

/-- What is told of another active document. -/
def activeDocument : Json.Schema :=
  plain "ActiveDocumentParams" [required "uri" .uri]

/-- What the request for a line of a document tells. -/
def navigate : Json.Schema :=
  plain "NavigateParams" [required "path" (.text "path string"), required "line" (.integer .size)]

/-- What the client tells when it has taken the answer to its first request. -/
def started : Json.Schema :=
  plain "InitializedParams" []

/-- What is told of an opened document. -/
def didOpen : Json.Schema :=
  plain "DidOpenTextDocumentParams" [required "textDocument" documentItem]

/-- What is told of a changed document. -/
def didChange : Json.Schema :=
  plain "DidChangeTextDocumentParams" [
    required "textDocument" versionedIdentifier, required "contentChanges" (.list contentChange)]

/-- What is told of a saved document. -/
def didSave : Json.Schema :=
  plain "DidSaveTextDocumentParams" [required "textDocument" documentIdentifier, optional "text" text]

/-- What is told of a closed document. -/
def didClose : Json.Schema :=
  plain "DidCloseTextDocumentParams" [required "textDocument" documentIdentifier]

end Schema

/-- Reads parameters that follow a schema. -/
def readAs {α : Type} (schema : Json.Schema) (read? : Json → Option α) (j : Json) : Except Json.Mismatch α :=
  match schema.mismatch? false j, read? j with
  | some mismatch, _ => .error mismatch
  | none, some a => .ok a
  | none, none => .error (.wrongType j.described "parameters")

end FigureGallery.Server
