import FigureGallery.Server.Schema.Document

/-!
# Schemas of requests

What the requests of the protocol are told that the server knows without offering them. Their parameters are checked
before they are refused.
-/

namespace FigureGallery.Server.Schema

/-- A record about a place in a document. -/
def atPosition (name : String) (fields : List Field) (groups : List Json.Schema) : Json.Schema :=
  .record name fields (documentPosition :: groups)

/-- A record about a document. -/
def aboutDocument (name : String) (fields : List Field) (groups : List Json.Schema) : Json.Schema :=
  .record name (required "textDocument" documentIdentifier :: fields) groups

/-- Where something is declared, defined or implemented. -/
def definitions : Json.Schema :=
  atPosition "GotoDefinitionParams" [] [workDone, partialResult]

/-- An item of a hierarchy of calls or types. -/
def hierarchyItem (name : String) (tags : Json.Schema) : Json.Schema :=
  plain name [
    required "name" text, required "kind" signedWord, optional "tags" tags, optional "detail" text,
    required "uri" .uri, required "range" range, required "selectionRange" range, optional "data" .anything]

/-- A record about an item of a hierarchy. -/
def aboutItem (name : String) (item : Json.Schema) : Json.Schema :=
  .record name [required "item" item] [workDone, partialResult]

/-- A function in a hierarchy of calls. -/
def callItem : Json.Schema :=
  hierarchyItem "CallHierarchyItem" (.list signedWord)

/-- A type in a hierarchy of types. -/
def typeItem : Json.Schema :=
  hierarchyItem "TypeHierarchyItem" signedWord

/-- A part of the label of a hint. -/
def labelPart : Json.Schema :=
  plain "InlayHintLabelPart" [
    required "value" text, optional "tooltip" (textOrMarkup "InlayHintLabelPartTooltip"),
    optional "location" location, optional "command" command]

/-- A hint that is shown within a line. -/
def inlayHint : Json.Schema :=
  plain "InlayHint" [
    required "position" position, required "label" (.oneOf "InlayHintLabel" [text, .list labelPart]),
    optional "kind" signedWord, optional "textEdits" (.list textEdit),
    optional "tooltip" (textOrMarkup "InlayHintTooltip"), optional "paddingLeft" .boolean,
    optional "paddingRight" .boolean, optional "data" .anything]

/-- A way to complete a word. -/
def completionItem : Json.Schema :=
  plain "CompletionItem" [
    required "label" text,
    optional "labelDetails" (plain "CompletionItemLabelDetails" [optional "detail" text, optional "description" text]),
    optional "kind" signedWord, optional "detail" text, optional "documentation" (textOrMarkup "Documentation"),
    optional "deprecated" .boolean, optional "preselect" .boolean, optional "sortText" text,
    optional "filterText" text, optional "insertText" text, optional "insertTextFormat" signedWord,
    optional "insertTextMode" signedWord,
    optional "textEdit" (.oneOf "CompletionTextEdit" [textEdit, plain "InsertReplaceEdit" [
      required "newText" text, required "insert" range, required "replace" range]]),
    optional "additionalTextEdits" (.list textEdit), optional "command" command,
    optional "commitCharacters" (.list text), optional "data" .anything, optional "tags" (.list signedWord)]

/-- The signatures that are shown. -/
def signatureHelp : Json.Schema :=
  let parameter := plain "ParameterInformation" [
    required "label" (.oneOf "ParameterLabel" [text, .pair word]),
    optional "documentation" (textOrMarkup "Documentation")]
  plain "SignatureHelp" [
    required "signatures" (.list (plain "SignatureInformation" [
      required "label" text, optional "documentation" (textOrMarkup "Documentation"),
      optional "parameters" (.list parameter), optional "activeParameter" word])),
    optional "activeSignature" word, optional "activeParameter" word]

/-- An action on code. -/
def codeAction : Json.Schema :=
  plain "CodeAction" [
    required "title" text, optional "kind" text, optional "diagnostics" (.list diagnostic),
    optional "edit" workspaceEdit, optional "command" command, optional "isPreferred" .boolean,
    optional "disabled" (plain "CodeActionDisabled" [required "reason" text]), optional "data" .anything]

/-- Which actions on code there are for a range. -/
def codeActions : Json.Schema :=
  aboutDocument "CodeActionParams" [
    required "range" range,
    required "context" (plain "CodeActionContext" [
      required "diagnostics" (.list diagnostic), optional "only" (.list text), optional "triggerKind" signedWord])]
    [workDone, partialResult]

/-- A colour. -/
def color : Json.Schema :=
  plain "Color" [required "red" .number, required "green" .number, required "blue" .number, required "alpha" .number]

/-- How a document is to be formatted. -/
def formattingOptions : Json.Schema :=
  .record "FormattingOptions" [
    required "tabSize" word, required "insertSpaces" .boolean, optional "trimTrailingWhitespace" .boolean,
    optional "insertFinalNewline" .boolean, optional "trimFinalNewlines" .boolean]
    [.map text (.oneOf "FormattingProperty" [.boolean, signedWord, text])]

/-- A name that is declared in the workspace. -/
def workspaceSymbol : Json.Schema :=
  plain "WorkspaceSymbol" [
    required "name" text, required "kind" signedWord, optional "tags" (.list signedWord),
    optional "containerName" text,
    required "location" (.oneOf "OneOf" [location, plain "WorkspaceLocation" [required "uri" .uri]]),
    optional "data" .anything]

/-- A record about files. -/
def aboutFiles (name file : String) (fields : List String) : Json.Schema :=
  plain name [required "files" (.list (plain file (fields.map fun field => required field text)))]

/-- The requests of the protocol that the server does not offer, and what they are told. -/
def requests : List (String × Json.Schema) := [
  ("textDocument/willSaveWaitUntil",
    aboutDocument "WillSaveTextDocumentParams" [required "reason" signedWord] []),
  ("textDocument/declaration", definitions),
  ("textDocument/definition", definitions),
  ("textDocument/typeDefinition", definitions),
  ("textDocument/implementation", definitions),
  ("textDocument/references", atPosition "ReferenceParams" [
    required "context" (plain "ReferenceContext" [required "includeDeclaration" .boolean])] [workDone, partialResult]),
  ("textDocument/prepareCallHierarchy", atPosition "CallHierarchyPrepareParams" [] [workDone]),
  ("callHierarchy/incomingCalls", aboutItem "CallHierarchyIncomingCallsParams" callItem),
  ("callHierarchy/outgoingCalls", aboutItem "CallHierarchyOutgoingCallsParams" callItem),
  ("textDocument/prepareTypeHierarchy", atPosition "TypeHierarchyPrepareParams" [] [workDone]),
  ("typeHierarchy/supertypes", aboutItem "TypeHierarchySupertypesParams" typeItem),
  ("typeHierarchy/subtypes", aboutItem "TypeHierarchySubtypesParams" typeItem),
  ("textDocument/documentHighlight", atPosition "DocumentHighlightParams" [] [workDone, partialResult]),
  ("textDocument/documentLink", aboutDocument "DocumentLinkParams" [] [workDone, partialResult]),
  ("documentLink/resolve", plain "DocumentLink" [
    required "range" range, optional "target" .uri, optional "tooltip" text, optional "data" .anything]),
  ("textDocument/hover", atPosition "HoverParams" [] [workDone]),
  ("textDocument/codeLens", aboutDocument "CodeLensParams" [] [workDone, partialResult]),
  ("codeLens/resolve", plain "CodeLens" [
    required "range" range, optional "command" command, optional "data" .anything]),
  ("textDocument/foldingRange", aboutDocument "FoldingRangeParams" [] [workDone, partialResult]),
  ("textDocument/selectionRange", aboutDocument "SelectionRangeParams" [required "positions" (.list position)]
    [workDone, partialResult]),
  ("textDocument/documentSymbol", aboutDocument "DocumentSymbolParams" [] [workDone, partialResult]),
  ("textDocument/semanticTokens/full", aboutDocument "SemanticTokensParams" [] [workDone, partialResult]),
  ("textDocument/semanticTokens/full/delta", aboutDocument "SemanticTokensDeltaParams" [
    required "previousResultId" text] [workDone, partialResult]),
  ("textDocument/semanticTokens/range", aboutDocument "SemanticTokensRangeParams" [required "range" range]
    [workDone, partialResult]),
  ("textDocument/inlineValue", aboutDocument "InlineValueParams" [
    required "range" range,
    required "context" (plain "InlineValueContext" [required "frameId" signedWord, required "stoppedLocation" range])]
    [workDone]),
  ("textDocument/inlayHint", aboutDocument "InlayHintParams" [required "range" range] [workDone]),
  ("inlayHint/resolve", inlayHint),
  ("textDocument/moniker", atPosition "MonikerParams" [] [workDone, partialResult]),
  ("textDocument/completion", atPosition "CompletionParams" [
    optional "context" (plain "CompletionContext" [
      required "triggerKind" signedWord, optional "triggerCharacter" text])] [workDone, partialResult]),
  ("completionItem/resolve", completionItem),
  ("textDocument/diagnostic", aboutDocument "DocumentDiagnosticParams" [
    optional "identifier" text, optional "previousResultId" text] [workDone, partialResult]),
  ("workspace/diagnostic", .record "WorkspaceDiagnosticParams" [
    optional "identifier" text,
    required "previousResultIds" (.list (plain "PreviousResultId" [required "uri" .uri, required "value" text]))]
    [workDone, partialResult]),
  ("textDocument/signatureHelp", atPosition "SignatureHelpParams" [
    optional "context" (plain "SignatureHelpContext" [
      required "triggerKind" signedWord, optional "triggerCharacter" text, required "isRetrigger" .boolean,
      optional "activeSignatureHelp" signatureHelp])] [workDone]),
  ("textDocument/codeAction", codeActions),
  ("codeAction/resolve", codeAction),
  ("textDocument/documentColor", aboutDocument "DocumentColorParams" [] [workDone, partialResult]),
  ("textDocument/colorPresentation", aboutDocument "ColorPresentationParams" [
    required "color" color, required "range" range] [workDone, partialResult]),
  ("textDocument/formatting", aboutDocument "DocumentFormattingParams" [
    required "options" formattingOptions] [workDone]),
  ("textDocument/rangeFormatting", aboutDocument "DocumentRangeFormattingParams" [
    required "range" range, required "options" formattingOptions] [workDone]),
  ("textDocument/onTypeFormatting", atPosition "DocumentOnTypeFormattingParams" [
    required "ch" text, required "options" formattingOptions] []),
  ("textDocument/rename", atPosition "RenameParams" [required "newName" text] [workDone]),
  ("textDocument/prepareRename", documentPosition),
  ("textDocument/linkedEditingRange", atPosition "LinkedEditingRangeParams" [] [workDone]),
  ("workspace/symbol", .record "WorkspaceSymbolParams" [required "query" text] [partialResult, workDone]),
  ("workspaceSymbol/resolve", workspaceSymbol),
  ("workspace/willCreateFiles", aboutFiles "CreateFilesParams" "FileCreate" ["uri"]),
  ("workspace/willRenameFiles", aboutFiles "RenameFilesParams" "FileRename" ["oldUri", "newUri"]),
  ("workspace/willDeleteFiles", aboutFiles "DeleteFilesParams" "FileDelete" ["uri"]),
  ("workspace/executeCommand", .record "ExecuteCommandParams" [
    required "command" text, ("arguments", .defaulted, .list .anything)] [workDone])]

end FigureGallery.Server.Schema
