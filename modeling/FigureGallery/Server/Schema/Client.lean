import FigureGallery.Server.Schema.Document

/-!
# Schemas of the client

What a client says about itself when it starts the server: its capabilities, which the server does not use but which
have to be well-formed.
-/

namespace FigureGallery.Server.Schema

/-- A capability that is there or not. -/
def flag (name : String) : Field :=
  optional name .boolean

/-- Whether a method may be registered later. -/
def dynamic : Field :=
  flag "dynamicRegistration"

/-- A method that has no more capabilities than that. -/
def registrable : Json.Schema :=
  plain "DynamicRegistrationClientCapabilities" [dynamic]

/-- Whether results can be asked for again. -/
def refreshable (name : String) : Json.Schema :=
  plain name [flag "refreshSupport"]

/-- Which values are understood. -/
def valueSet (name : String) (values : Json.Schema) : Json.Schema :=
  plain name [optional "valueSet" (.list values)]

/-- Tags that are supported; some clients only say whether there are any. -/
def tagSupport : Field :=
  ("tagSupport", .defaulted, .flagOr (plain "TagSupport" [required "valueSet" (.list signedWord)]))

/-- Which properties may be filled in later. -/
def resolvable (name : String) : Json.Schema :=
  plain name [required "properties" (.list text)]

/-- What the client can do with its workspace. -/
def workspaceCapabilities : Json.Schema :=
  plain "WorkspaceClientCapabilities" [
    flag "applyEdit",
    optional "workspaceEdit" (plain "WorkspaceEditClientCapabilities" [
      flag "documentChanges",
      optional "resourceOperations" (.list (.choice ["create", "rename", "delete"])),
      optional "failureHandling" (.choice ["abort", "transactional", "textOnlyTransactional", "undo"]),
      flag "normalizesLineEndings",
      optional "changeAnnotationSupport"
        (plain "ChangeAnnotationWorkspaceEditClientCapabilities" [flag "groupsOnLabel"])]),
    optional "didChangeConfiguration" registrable,
    optional "didChangeWatchedFiles" (plain "DidChangeWatchedFilesClientCapabilities" [
      dynamic, flag "relativePatternSupport"]),
    optional "symbol" (plain "WorkspaceSymbolClientCapabilities" [
      dynamic, optional "symbolKind" (valueSet "SymbolKindCapability" signedWord), tagSupport,
      optional "resolveSupport" (resolvable "WorkspaceSymbolResolveSupportCapability")]),
    optional "executeCommand" registrable,
    flag "workspaceFolders",
    flag "configuration",
    optional "semanticTokens" (refreshable "SemanticTokensWorkspaceClientCapabilities"),
    optional "codeLens" (refreshable "CodeLensWorkspaceClientCapabilities"),
    optional "fileOperations" (plain "WorkspaceFileOperationsClientCapabilities" [
      dynamic, flag "didCreate", flag "willCreate", flag "didRename", flag "willRename", flag "didDelete",
      flag "willDelete"]),
    optional "inlineValue" (refreshable "InlineValueWorkspaceClientCapabilities"),
    optional "inlayHint" (refreshable "InlayHintWorkspaceClientCapabilities"),
    optional "diagnostic" (refreshable "DiagnosticWorkspaceClientCapabilities")]

/-- How the client completes words. -/
def completionCapabilities : Json.Schema :=
  plain "CompletionClientCapabilities" [
    dynamic,
    optional "completionItem" (plain "CompletionItemCapability" [
      flag "snippetSupport", flag "commitCharactersSupport", optional "documentationFormat" (.list markupKind),
      flag "deprecatedSupport", flag "preselectSupport", tagSupport, flag "insertReplaceSupport",
      optional "resolveSupport" (resolvable "CompletionItemCapabilityResolveSupport"),
      optional "insertTextModeSupport"
        (plain "InsertTextModeSupport" [required "valueSet" (.list signedWord)]),
      flag "labelDetailsSupport"]),
    optional "completionItemKind" (valueSet "CompletionItemKindCapability" signedWord),
    flag "contextSupport",
    optional "insertTextMode" signedWord,
    optional "completionList" (plain "CompletionListCapability" [optional "itemDefaults" (.list text)])]

/-- How the client shows signatures. -/
def signatureCapabilities : Json.Schema :=
  plain "SignatureHelpClientCapabilities" [
    dynamic,
    optional "signatureInformation" (plain "SignatureInformationSettings" [
      optional "documentationFormat" (.list markupKind),
      optional "parameterInformation" (plain "ParameterInformationSettings" [flag "labelOffsetSupport"]),
      flag "activeParameterSupport"]),
    flag "contextSupport"]

/-- Which actions on code the client knows. -/
def codeActionCapabilities : Json.Schema :=
  plain "CodeActionClientCapabilities" [
    dynamic,
    optional "codeActionLiteralSupport" (plain "CodeActionLiteralSupport" [
      required "codeActionKind" (plain "CodeActionKindLiteralSupport" [required "valueSet" (.list text)])]),
    flag "isPreferredSupport", flag "disabledSupport", flag "dataSupport",
    optional "resolveSupport" (resolvable "CodeActionCapabilityResolveSupport"),
    flag "honorsChangeAnnotations"]

/-- Which meanings of words the client shows. -/
def semanticTokensCapabilities : Json.Schema :=
  plain "SemanticTokensClientCapabilities" [
    dynamic,
    required "requests" (plain "SemanticTokensClientCapabilitiesRequests" [
      flag "range",
      optional "full" (.oneOf "SemanticTokensFullOptions" [.boolean, plain "Delta" [flag "delta"]])]),
    required "tokenTypes" (.list text),
    required "tokenModifiers" (.list text),
    required "formats" (.list (.choice ["relative"])),
    flag "overlappingTokenSupport", flag "multilineTokenSupport", flag "serverCancelSupport",
    flag "augmentsSyntaxTokens"]

/-- What the client can do with documents. -/
def documentCapabilities : Json.Schema :=
  let linkable := plain "GotoCapability" [dynamic, flag "linkSupport"]
  plain "TextDocumentClientCapabilities" [
    optional "synchronization" (plain "TextDocumentSyncClientCapabilities" [
      dynamic, flag "willSave", flag "willSaveWaitUntil", flag "didSave"]),
    optional "completion" completionCapabilities,
    optional "hover" (plain "HoverClientCapabilities" [dynamic, optional "contentFormat" (.list markupKind)]),
    optional "signatureHelp" signatureCapabilities,
    optional "references" registrable,
    optional "documentHighlight" registrable,
    optional "documentSymbol" (plain "DocumentSymbolClientCapabilities" [
      dynamic, optional "symbolKind" (valueSet "SymbolKindCapability" signedWord),
      flag "hierarchicalDocumentSymbolSupport", tagSupport]),
    optional "formatting" registrable,
    optional "rangeFormatting" registrable,
    optional "onTypeFormatting" registrable,
    optional "declaration" linkable,
    optional "definition" linkable,
    optional "typeDefinition" linkable,
    optional "implementation" linkable,
    optional "codeAction" codeActionCapabilities,
    optional "codeLens" registrable,
    optional "documentLink" (plain "DocumentLinkClientCapabilities" [dynamic, flag "tooltipSupport"]),
    optional "colorProvider" registrable,
    optional "rename" (plain "RenameClientCapabilities" [
      dynamic, flag "prepareSupport", optional "prepareSupportDefaultBehavior" signedWord,
      flag "honorsChangeAnnotations"]),
    optional "publishDiagnostics" (plain "PublishDiagnosticsClientCapabilities" [
      flag "relatedInformation", tagSupport, flag "versionSupport", flag "codeDescriptionSupport",
      flag "dataSupport"]),
    optional "foldingRange" (plain "FoldingRangeClientCapabilities" [
      dynamic, optional "rangeLimit" word, flag "lineFoldingOnly",
      optional "foldingRangeKind" (valueSet "FoldingRangeKindCapability" (.choice ["comment", "imports", "region"])),
      optional "foldingRange" (plain "FoldingRangeCapability" [flag "collapsedText"])]),
    optional "selectionRange" (plain "SelectionRangeClientCapabilities" [dynamic]),
    optional "linkedEditingRange" registrable,
    optional "callHierarchy" registrable,
    optional "semanticTokens" semanticTokensCapabilities,
    optional "moniker" registrable,
    optional "typeHierarchy" registrable,
    optional "inlineValue" registrable,
    optional "inlayHint" (plain "InlayHintClientCapabilities" [
      dynamic, optional "resolveSupport" (resolvable "InlayHintResolveClientCapabilities")]),
    optional "diagnostic" (plain "DiagnosticClientCapabilities" [dynamic, flag "relatedDocumentSupport"]),
    optional "inlineCompletion" (plain "InlineCompletionClientCapabilities" [dynamic])]

/-- What the client can do with notebooks. -/
def notebookCapabilities : Json.Schema :=
  plain "NotebookDocumentClientCapabilities" [
    required "synchronization" (plain "NotebookDocumentSyncClientCapabilities" [
      dynamic, flag "executionSummaryReport"])]

/-- What the client can show in its window. -/
def windowCapabilities : Json.Schema :=
  plain "WindowClientCapabilities" [
    flag "workDoneProgress",
    optional "showMessage" (plain "ShowMessageRequestClientCapabilities" [
      optional "messageActionItem" (plain "MessageActionItemCapabilities" [flag "additionalPropertiesSupport"])]),
    optional "showDocument" (plain "ShowDocumentClientCapabilities" [required "support" .boolean])]

/-- What the client can do in general. -/
def generalCapabilities : Json.Schema :=
  plain "GeneralClientCapabilities" [
    optional "regularExpressions" (plain "RegularExpressionsClientCapabilities" [
      required "engine" text, optional "version" text]),
    optional "markdown" (plain "MarkdownClientCapabilities" [
      required "parser" text, optional "version" text, optional "allowedTags" (.list text)]),
    optional "staleRequestSupport" (plain "StaleRequestSupportClientCapabilities" [
      required "cancel" .boolean, required "retryOnContentModified" (.list text)]),
    optional "positionEncodings" (.list text)]

/-- What the client can do. -/
def clientCapabilities : Json.Schema :=
  plain "ClientCapabilities" [
    optional "workspace" workspaceCapabilities,
    optional "textDocument" documentCapabilities,
    optional "notebookDocument" notebookCapabilities,
    optional "window" windowCapabilities,
    optional "general" generalCapabilities,
    optional "offsetEncoding" (.list text),
    optional "experimental" .anything]

/-- What the server is started with. -/
def start : Json.Schema :=
  .record "InitializeParams" [
    optional "processId" word,
    optional "rootPath" text,
    defaulted "rootUri" .uri,
    optional "initializationOptions" .anything,
    required "capabilities" clientCapabilities,
    defaulted "trace" (.choice ["off", "messages", "verbose"]),
    optional "workspaceFolders" (.list folder),
    optional "clientInfo" (plain "ClientInfo" [required "name" text, optional "version" text]),
    optional "locale" text] [workDone]

end FigureGallery.Server.Schema
