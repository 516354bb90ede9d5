import FigureGallery.Server.Schema.Request

/-!
# Methods of the language server

The names of the methods, and which of them are requests. Methods that the server knows but does not offer are refused
in another way than names that it does not know.
-/

namespace FigureGallery.Server

/-- A method that the server knows. -/
inductive Method where
  /-- The first request of a client. -/
  | start
  /-- The client has taken the answer to its first request. -/
  | started
  | shutdown
  | exit
  | didOpen
  | didChange
  | didSave
  | didClose
  | openGallery
  | closeGallery
  | activeDocumentChanged
  | navigate
  /-- A request need not be answered any more. All requests are answered at once, so none is ever given up. -/
  | cancel
  /-- A request that the server does not offer. -/
  | unsupportedRequest (name : String)
  /-- A notification that the server takes no notice of. -/
  | unsupportedNotification
deriving DecidableEq

namespace Method

/-- The methods that the server offers. -/
def offered : List (String × Method) := [
  ("initialize", .start),
  ("initialized", .started),
  ("shutdown", .shutdown),
  ("exit", .exit),
  ("textDocument/didOpen", .didOpen),
  ("textDocument/didChange", .didChange),
  ("textDocument/didSave", .didSave),
  ("textDocument/didClose", .didClose),
  ("typfig/openGallery", .openGallery),
  ("typfig/closeGallery", .closeGallery),
  ("typfig/activeDocumentChanged", .activeDocumentChanged),
  ("typfig/navigate", .navigate),
  ("$/cancelRequest", .cancel)]

/-- The notifications of the protocol that the server takes no notice of. -/
def unsupportedNotifications : List String := [
  "textDocument/willSave", "notebookDocument/didOpen", "notebookDocument/didChange", "notebookDocument/didSave",
  "notebookDocument/didClose", "workspace/didChangeConfiguration", "workspace/didChangeWorkspaceFolders",
  "workspace/didCreateFiles", "workspace/didRenameFiles", "workspace/didDeleteFiles",
  "workspace/didChangeWatchedFiles"]

/-- The method with a name. -/
def ofName? (name : String) : Option Method :=
  match offered.lookup name with
  | some method => some method
  | none =>
    if (Schema.requests.lookup name).isSome then some (.unsupportedRequest name)
    else if unsupportedNotifications.contains name then some .unsupportedNotification
    else none

/-- Whether a method is a request, which is answered. -/
def isRequest : Method → Bool
  | .start | .shutdown | .openGallery | .navigate | .unsupportedRequest _ => true
  | _ => false

end Method

/-- Whether a message may be passed over by servers that do not know it. -/
def isOptionalName (name : String) : Bool :=
  ['$', '/'].isPrefixOf name.toList

end FigureGallery.Server
