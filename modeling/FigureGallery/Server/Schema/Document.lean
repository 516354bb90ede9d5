import FigureGallery.Json.Schema

/-!
# Schemas of documents and their parts

Positions, ranges, edits, commands and diagnostics, and what several methods of the language server are told: which
document, where in it, and how progress is reported.
-/

namespace FigureGallery.Server.Schema

/-- A field with its name, whether it has to be given, and what it has to be. -/
abbrev Field := String × Json.Presence × Json.Schema

/-- A field that has to be given. -/
def required (name : String) (schema : Json.Schema) : Field :=
  (name, .required, schema)

/-- A field that may be left out or `null`. -/
def optional (name : String) (schema : Json.Schema) : Field :=
  (name, .optional, .nullable schema)

/-- A field that may be left out, or `null`, also in an array. -/
def defaulted (name : String) (schema : Json.Schema) : Field :=
  (name, .defaulted, .nullable schema)

/-- A record whose fields are all its own. -/
def plain (name : String) (fields : List Field) : Json.Schema :=
  .record name fields []

/-- A text. -/
def text : Json.Schema := .text "a string"

/-- A number of 32 bits without a sign. -/
def word : Json.Schema := .integer .word

/-- A number of 32 bits with a sign. -/
def signedWord : Json.Schema := .integer .signedWord

/-- A position in a document: a line and a character in it. -/
def position : Json.Schema :=
  plain "Position" [required "line" word, required "character" word]

/-- The part of a document between two positions. -/
def range : Json.Schema :=
  plain "Range" [required "start" position, required "end" position]

/-- A part of a document that is named by its URI. -/
def location : Json.Schema :=
  plain "Location" [required "uri" .uri, required "range" range]

/-- Which document is meant. -/
def documentIdentifier : Json.Schema :=
  plain "TextDocumentIdentifier" [required "uri" .uri]

/-- Which version of a document is meant. -/
def versionedIdentifier : Json.Schema :=
  plain "VersionedTextDocumentIdentifier" [required "uri" .uri, required "version" signedWord]

/-- A document with its text. -/
def documentItem : Json.Schema :=
  plain "TextDocumentItem" [
    required "uri" .uri, required "languageId" text, required "version" signedWord, required "text" text]

/-- A change of a document: a text in place of a range, or of everything. -/
def contentChange : Json.Schema :=
  plain "TextDocumentContentChangeEvent" [optional "range" range, optional "rangeLength" word, required "text" text]

/-- A place in a document. -/
def documentPosition : Json.Schema :=
  plain "TextDocumentPositionParams" [required "textDocument" documentIdentifier, required "position" position]

/-- What progress is reported under. -/
def token : Json.Schema :=
  .oneOf "NumberOrString" [signedWord, text]

/-- Where the progress of a request is reported, if anywhere. -/
def workDone : Json.Schema :=
  plain "WorkDoneProgressParams" [optional "workDoneToken" token]

/-- Where parts of a result are sent ahead, if anywhere. -/
def partialResult : Json.Schema :=
  plain "PartialResultParams" [optional "partialResultToken" token]

/-- A folder of the workspace. -/
def folder : Json.Schema :=
  plain "WorkspaceFolder" [required "uri" .uri, required "name" text]

/-- A text in place of a range. -/
def textEdit : Json.Schema :=
  plain "TextEdit" [required "range" range, required "newText" text]

/-- A command with what it is called and given. -/
def command : Json.Schema :=
  plain "Command" [required "title" text, required "command" text, optional "arguments" (.list .anything)]

/-- The languages of shown texts. -/
def markupKind : Json.Schema :=
  .choice ["plaintext", "markdown"]

/-- A text in one of the languages of shown texts. -/
def markupContent : Json.Schema :=
  plain "MarkupContent" [required "kind" markupKind, required "value" text]

/-- A text, or a text in a markup language. -/
def textOrMarkup (name : String) : Json.Schema :=
  .oneOf name [text, markupContent]

/-- A place that a diagnostic points to. -/
def relatedInformation : Json.Schema :=
  plain "DiagnosticRelatedInformation" [required "location" location, required "message" text]

/-- A remark about a part of a document. -/
def diagnostic : Json.Schema :=
  plain "Diagnostic" [
    required "range" range,
    optional "severity" signedWord,
    optional "code" token,
    optional "codeDescription" (plain "CodeDescription" [required "href" .uri]),
    optional "source" text,
    required "message" text,
    optional "relatedInformation" (.list relatedInformation),
    optional "tags" (.list signedWord),
    optional "data" .anything]

/-- An edit that needs consent. -/
def annotatedEdit : Json.Schema :=
  .record "AnnotatedTextEdit" [required "annotationId" text] [textEdit]

/-- Edits of one document. -/
def documentEdit : Json.Schema :=
  plain "TextDocumentEdit" [
    required "textDocument" (plain "OptionalVersionedTextDocumentIdentifier" [
      required "uri" .uri, optional "version" signedWord]),
    required "edits" (.list (.oneOf "OneOf" [textEdit, annotatedEdit]))]

/-- What happens to a file when it is there already. -/
def overwriting (name : String) : Json.Schema :=
  plain name [optional "overwrite" .boolean, optional "ignoreIfExists" .boolean]

/-- A file that is created, renamed or deleted. -/
def fileOperation : Json.Schema :=
  .oneOf "ResourceOp" [
    plain "CreateFile" [
      required "kind" (.choice ["create"]), required "uri" .uri,
      optional "options" (overwriting "CreateFileOptions"), optional "annotationId" text],
    plain "RenameFile" [
      required "kind" (.choice ["rename"]), required "oldUri" .uri, required "newUri" .uri,
      optional "options" (overwriting "RenameFileOptions"), optional "annotationId" text],
    plain "DeleteFile" [
      required "kind" (.choice ["delete"]), required "uri" .uri,
      optional "options" (plain "DeleteFileOptions" [
        optional "recursive" .boolean, optional "ignoreIfNotExists" .boolean, optional "annotationId" text])]]

/-- Edits of documents and files. -/
def workspaceEdit : Json.Schema :=
  plain "WorkspaceEdit" [
    defaulted "changes" (.map .uri (.list textEdit)),
    optional "documentChanges" (.oneOf "DocumentChanges" [
      .list documentEdit, .list (.oneOf "DocumentChangeOperation" [fileOperation, documentEdit])]),
    optional "changeAnnotations" (.map text (plain "ChangeAnnotation" [
      required "label" text, optional "needsConfirmation" .boolean, optional "description" text]))]

end FigureGallery.Server.Schema
