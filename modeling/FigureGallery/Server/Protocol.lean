import FigureGallery.Json.Record
import FigureGallery.Json.Schema
import FigureGallery.Message

/-!
# Messages of the language server

What passes between the server and its client, and its form in JSON: requests with an identifier, which are answered,
notifications without one, and the errors that a request may be answered with.
-/

namespace FigureGallery.Server

/-- A message with the version of the protocol. -/
def framed (fields : List (String × Json)) : Json :=
  .object (("jsonrpc", .string "2.0") :: fields)

/-- A message from the client: a request when it has an identifier, else a notification. -/
structure Incoming where
  method : String
  params : Option Json
  id : Option Json

/-- Whether a value may identify a request. -/
def isIdentifier : Json → Bool
  | .null => true
  | .string _ => true
  | .integer n => Width.fitsSigned 64 n
  | _ => false

/-- The message that a value stands for. Only the canonical form of the value counts. A message without a method has one
with an empty name. -/
def Incoming.ofJson? (j : Json) : Option Incoming := do
  match ← j.canonical.record? ["jsonrpc", "method", "params", "id"] with
  | [some (.string "2.0"), method, params, id] =>
    let method ← method.elim (some "") Json.string?
    if id.all isIdentifier then some ⟨method, params, id⟩ else none
  | _ => none

/-- What is wrong with the parameters of a request. -/
inductive ParamsFault where
  | missing
  /-- There are parameters, with this written form, where there should be none. -/
  | unexpected (written : String)
  | mismatch (mismatch : Json.Mismatch)
deriving DecidableEq

/-- The text of what is wrong with parameters. -/
def ParamsFault.message : ParamsFault → String
  | .missing => "Missing params field"
  | .unexpected written => "Unexpected params: " ++ written
  | .mismatch m => m.message

/-- Why a request is not answered with a result. -/
inductive Refusal where
  /-- There is no method of this name. -/
  | unknownMethod (name : String)
  /-- The method is known, but this server does not offer it. -/
  | unsupportedMethod
  /-- The parameters do not fit the method. -/
  | invalidParams (fault : ParamsFault)
  /-- The server has not been initialized. -/
  | notInitialized
  /-- The request does not fit the phase that the server is in. -/
  | invalidRequest
deriving DecidableEq

namespace Refusal

/-- The code of a refusal. -/
def code : Refusal → Int
  | .unknownMethod _ => -32601
  | .unsupportedMethod => -32601
  | .invalidParams _ => -32602
  | .notInitialized => -32002
  | .invalidRequest => -32600

/-- The text of a refusal. -/
def message : Refusal → String
  | .unknownMethod _ => "Method not found"
  | .unsupportedMethod => "Method not found"
  | .invalidParams fault => fault.message
  | .notInitialized => "Server not initialized"
  | .invalidRequest => "Invalid request"

/-- A refusal in JSON; one of an unknown method repeats its name. -/
def toJson (r : Refusal) : Json :=
  .object ([("code", .integer r.code), ("message", .string r.message)] ++ match r with
    | .unknownMethod name => [("data", .string name)]
    | _ => [])

end Refusal

/-- A response to a request. -/
structure Response where
  id : Json
  outcome : Except Refusal Json

/-- A response in JSON. -/
def Response.toJson (r : Response) : Json :=
  match r.outcome with
  | .ok result => framed [("result", result), ("id", r.id)]
  | .error refusal => framed [("error", refusal.toJson), ("id", r.id)]

/-- A message to the client. -/
inductive Outgoing where
  /-- A line for the log. -/
  | logMessage (text : String)
  /-- An error for the user. -/
  | showMessage (text : String)
  /-- These figures replace whatever the gallery showed before. -/
  | figureSet (figures : List Figure)
  /-- Asks to show a document with the cursor at the start of a line, counted from zero. -/
  | showDocument (id : Nat) (uri : Uri) (line : Nat)
deriving DecidableEq

/-- A notification in JSON. -/
def notification (method : String) (params : Json) : Json :=
  framed [("method", .string method), ("params", params)]

/-- The start of a line in JSON. -/
def lineStart (line : Nat) : Json :=
  .object [("line", .nat line), ("character", .nat 0)]

/-- A message to the client in JSON. -/
def Outgoing.toJson : Outgoing → Json
  | .logMessage text => notification "window/logMessage" (.object [("type", .nat 3), ("message", .string text)])
  | .showMessage text => notification "window/showMessage" (.object [("type", .nat 1), ("message", .string text)])
  | .figureSet figures => notification "typfig/figureSetUpdated" (Message.figureSetUpdated figures).toJson
  | .showDocument id uri line => framed [
      ("method", .string "window/showDocument"),
      ("params", .object [
        ("uri", .string uri.text),
        ("external", .bool false),
        ("takeFocus", .bool true),
        ("selection", .object [("start", lineStart line), ("end", lineStart line)])]),
      ("id", .nat id)]

end FigureGallery.Server
