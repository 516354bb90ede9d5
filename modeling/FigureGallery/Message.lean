import FigureGallery.Figure.Basic
import FigureGallery.Json.Parser
import FigureGallery.Json.Printer
import FigureGallery.Json.Record
import FigureGallery.Navigation

/-!
# Messages

What passes between the scanner and whatever shows the gallery, and its form in JSON. Reading a message back from its
form gives the same message.
-/

namespace FigureGallery

namespace Figure

/-- The names of the fields of a figure. -/
def fieldNames : List String :=
  ["imagePath", "resolvedImage", "caption", "line", "sourceFile", "sourcePath", "label", "ordinal"]

/-- A figure in JSON. -/
def toJson (f : Figure) : Json :=
  .object [
    ("imagePath", .string f.imagePath),
    ("resolvedImage", .string f.resolvedImage.text),
    ("caption", .string f.caption),
    ("line", .nat f.line),
    ("sourceFile", .string f.sourceFile),
    ("sourcePath", .string f.sourcePath.text),
    ("label", .string f.label),
    ("ordinal", .nat f.ordinal)]

/-- The figure that a value stands for. -/
def ofJson? (j : Json) : Option Figure := do
  match ← j.record? fieldNames with
  | [some imagePath, some resolvedImage, some caption, some line, some sourceFile, some sourcePath, some label,
      some ordinal] =>
    some {
      imagePath := ← imagePath.string?
      resolvedImage := ⟨← resolvedImage.string?⟩
      caption := ← caption.string?
      line := ← line.nat?
      sourceFile := ← sourceFile.string?
      sourcePath := ⟨← sourcePath.string?⟩
      label := ← label.string?
      ordinal := ← ordinal.nat? }
  | _ => none

end Figure

/-- A message of the gallery. -/
inductive Message where
  /-- These figures replace whatever was shown before. -/
  | figureSetUpdated (figures : List Figure)
  /-- The reader wants to see a line of a document, counted from one. -/
  | navigateRequested (path : Path) (line : Nat)
deriving DecidableEq

namespace Message

/-- A message in JSON. -/
def toJson : Message → Json
  | .figureSetUpdated figures =>
    .object [("type", .string "FigureSetUpdated"), ("figures", .array (figures.map Figure.toJson))]
  | .navigateRequested path line =>
    .object [("type", .string "NavigateRequested"), ("path", .string path.text), ("line", .nat line)]

/-- The message that a value stands for. -/
def ofJson? (j : Json) : Option Message := do
  match ← j.variant? "type" 0 with
  | ("FigureSetUpdated", content) => match ← content.record? ["figures"] with
    | [some figures] => some (.figureSetUpdated (← figures.list? Figure.ofJson?))
    | _ => none
  | ("NavigateRequested", content) => match ← content.record? ["path", "line"] with
    | [some path, some line] => some (.navigateRequested ⟨← path.string?⟩ (← line.nat?))
    | _ => none
  | _ => none

/-- A message as one line of text. -/
def toText (m : Message) : String :=
  m.toJson.compact

/-- The message that a text stands for. -/
def ofText? (text : String) : Option Message :=
  (Json.parse text.toList).bind ofJson?

/-- The place that a message asks to be shown. -/
def target (tree : FileTree) : Message → Except Failure NavigationTarget
  | .navigateRequested path line => NavigationTarget.make tree path line
  | .figureSetUpdated _ => .error (.navigation ⟨""⟩ 0)

end Message

namespace Markup.Comment

/-- The name of a kind of comment. -/
def name : Comment → String
  | .line => "line"
  | .block => "block"

/-- The kind of comment with a name. -/
def ofName? : String → Option Comment
  | "line" => some .line
  | "block" => some .block
  | _ => none

end Markup.Comment

namespace DiagnosticKind

/-- The reason of a diagnostic in JSON. -/
def toJson : DiagnosticKind → Json
  | .commentedOut comment => .object [("kind", .string "commentedOut"), ("comment", .string comment.name)]
  | .unbalancedBlock => .object [("kind", .string "unbalancedBlock")]
  | .missingImage => .object [("kind", .string "missingImage")]
  | .imageNotFound path => .object [("kind", .string "imageNotFound"), ("path", .string path.text)]
  | .unreadableDocument reason => .object [("kind", .string "unreadableDocument"), ("reason", .string reason)]

/-- The only field of a reason that has one. -/
def field? (name : String) (content : Json) : Option Json := do
  match ← content.record? [name] with
  | [field] => field
  | _ => none

/-- The reason that a value stands for, which has `outer` levels of nesting around it. -/
def ofJson? (outer : Nat) (j : Json) : Option DiagnosticKind := do
  match ← j.variant? "kind" outer with
  | ("commentedOut", content) =>
    some (.commentedOut (← Markup.Comment.ofName? (← (← field? "comment" content).choice?)))
  | ("unbalancedBlock", content) => (content.record? []).map fun _ => .unbalancedBlock
  | ("missingImage", content) => (content.record? []).map fun _ => .missingImage
  | ("imageNotFound", content) => some (.imageNotFound ⟨← (← field? "path" content).string?⟩)
  | ("unreadableDocument", content) => some (.unreadableDocument (← (← field? "reason" content).string?))
  | _ => none

end DiagnosticKind

namespace Diagnostic

/-- A diagnostic in JSON. -/
def toJson (d : Diagnostic) : Json :=
  .object [("file", .string d.file.text), ("kind", d.kind.toJson), ("line", .nat d.line)]

/-- The diagnostic that a value stands for. -/
def ofJson? (j : Json) : Option Diagnostic := do
  match ← j.record? ["file", "kind", "line"] with
  | [some file, some kind, some line] =>
    some ⟨⟨← file.string?⟩, ← DiagnosticKind.ofJson? 1 kind, ← line.nat?⟩
  | _ => none

end Diagnostic

end FigureGallery
