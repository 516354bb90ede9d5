import FigureGallery.CommandLine.Arguments
import FigureGallery.CommandLine.Style
import FigureGallery.Html.Page
import FigureGallery.Message
import FigureGallery.Report
import FigureGallery.Scanner
import FigureGallery.Text.Blank

/-!
# Running commands

What each command prints and writes, as a function of the file tree and the variables. Starting an editor and serving
one are left to the caller, who is told what to start and what follows from its end.
-/

namespace FigureGallery.CommandLine

/-- What a command meets. -/
structure Environment where
  tree : FileTree
  vars : Variables

/-- What a command leaves behind. -/
structure Output where
  /-- The exit code. -/
  code : Nat
  out : String
  err : String
  /-- The file that is written, with its text. -/
  written : Option (Path × String)

/-- How a program that was started came out. -/
inductive Ending where
  /-- It ended with an exit code. -/
  | exited (code : Nat)
  /-- It could not be started. -/
  | notStarted (reason : String)

/-- What a command comes to. -/
inductive Outcome where
  | done (output : Output)
  /-- A program is to be started; its ending decides about the rest. -/
  | launch (program : String) (arguments : List String) (after : Ending → Output)
  /-- The language server is to be run. -/
  | serve

/-- What went wrong with a command. -/
inductive CommandError where
  | failure (failure : Failure)
  /-- The document is found neither from the working directory nor from the root of the project. -/
  | missingDocument (document : Path)
  /-- A file could not be written. -/
  | unwritable (error : FileError)
deriving DecidableEq

/-- The text of a command error. -/
def CommandError.message : CommandError → String
  | .failure f => f.message
  | .missingDocument document => "document \x60" ++ document.text ++ "\x60 does not exist"
  | .unwritable e => e.message

/-- Printed text. -/
def printed (out : String) : Output :=
  ⟨0, out, "", none⟩

/-- A warning that ends the program. -/
def warned (colored : Bool) (text : String) : Output :=
  ⟨1, "", styled colored .yellow "warning:" ++ " " ++ text ++ "\n", none⟩

/-- An error that ends the program. -/
def failed (colored : Bool) (error : CommandError) : Output :=
  ⟨2, "", styled colored .red "error:" ++ " " ++ error.message ++ "\n", none⟩

/-- The root of the project: the one that was given, or else the working directory. -/
def rootOf (env : Environment) (path : Option Path) : Path :=
  path.getD env.tree.workingPath

/-- The document that is meant: as it is given if that is a file, or else as seen from the root of the project. -/
def resolveDocument (tree : FileTree) (root document : Path) : Except CommandError Path :=
  let candidates := if document.isAbsolute then [document] else [document, root.join document]
  match candidates.find? tree.isFile with
  | some found => .ok found
  | none => .error (.missingDocument document)

/-- The scanner of the project and the document that is meant. -/
def prepare (env : Environment) (path : Option Path) (document : Path) : Except CommandError (Scanner × Path) :=
  match Scanner.load env.tree (rootOf env path) with
  | .error f => .error (.failure f)
  | .ok scanner => (resolveDocument env.tree (rootOf env path) document).map fun found => (scanner, found)

/-- Writes a file, and says so. -/
def written (tree : FileTree) (p : Path) (text out : String) : Except CommandError Output :=
  match tree.write p text.toUTF8 with
  | .ok _ => .ok ⟨0, out, "", some (p, text)⟩
  | .error e => .error (.unwritable e)

/-- A configuration in which every setting is commented out. -/
def sampleConfig : String :=
  "# typfig configuration

# Extension of Typst documents. Include paths without it get it appended.
# extension = \"typ\"

# Characters after a figure's closing \x60)\x60 searched for its \x60<label>\x60.
# label_lookahead = 200

# Delay before re-scanning after an edit, in milliseconds.
# debounce_ms = 300

# File names tried first when looking for the root document.
# [root]
# prefer = [\"main.typ\"]

# Gitignore-style patterns never used as root documents or watched.
# [exclude]
# patterns = [\"templates/\"]
"

/-- Creates a configuration, unless there is one. -/
def runInit (env : Environment) (path : Option Path) : Except CommandError Output :=
  let root := rootOf env path
  match Config.path? env.tree root with
  | some existing => .ok (printed ("Config file already exists: " ++ existing.text ++ "\n"))
  | none =>
    let target := root.join ⟨"typfig.toml"⟩
    written env.tree target sampleConfig ("Created " ++ target.text ++ "\n\nNext steps:\n" ++
      "  1. Uncomment the settings you want to change\n" ++
      "  2. Run \x60typfig scan <document>\x60 to list your figures\n")

/-- The lines about a figure. -/
def figureLines (colored : Bool) (root : Path) (f : Figure) : String :=
  "  " ++ styled colored .bold ("Figure " ++ toString f.ordinal) ++
    (if f.hasLabel then " " ++ styled colored .green f.label else "") ++ ": " ++ f.caption ++ "\n    " ++
    f.sourcePath.relativeTo root ++ ":" ++ toString f.line ++ " " ++ f.imagePath ++ "\n"

/-- The lines about the figures of a scan, and their number. -/
def figureList (colored : Bool) (root : Path) (scan : Scan) : String :=
  if scan.figures.isEmpty then "No figures found.\n"
  else "\n" ++ String.join (scan.figures.map (figureLines colored root)) ++ "\n" ++
    toString scan.figures.length ++ " figure(s) in " ++ toString scan.documents.length ++ " document(s)\n"

/-- A scan as text. -/
def scanText (colored verbose : Bool) (root : Path) (scan : Scan) : String :=
  styled colored .bold "Root:" ++ " " ++ scan.root.document.relativeTo root ++
    (if scan.root.isFallback then " (no root document found)" else "") ++ "\n" ++
    (if verbose then String.join (scan.documents.map fun d => "  visited " ++ d.relativeTo root ++ "\n") else "") ++
    figureList colored root scan

/-- A warning about what a scan left out. -/
def reportText (colored : Bool) (r : Report) : String :=
  styled colored .yellow r.code ++ "\n  " ++ r.text ++ "\n  help: " ++ r.help ++ "\n"

/-- Lists the figures of a project; with more words, what was left out too. -/
def runScan (env : Environment) (arguments : Arguments) (colored : Bool) (document : Path) (format : Format) :
    Except CommandError Output :=
  (prepare env arguments.path document).map fun (scanner, document) =>
    let scan := scanner.scan (.ofTree env.tree) document
    let root := scanner.projectRoot
    let out := match format with
      | .json => (Message.figureSetUpdated scan.figures).toText ++ "\n"
      | .text => scanText colored arguments.verbose root scan
    let reports := scan.diagnostics.map fun d => reportText colored (.ofDiagnostic d root)
    ⟨0, out, if arguments.verbose then String.join reports else "", none⟩

/-- Writes the gallery page to a file, or prints it. -/
def runGallery (env : Environment) (path : Option Path) (document : Path) (output : Option Path) :
    Except CommandError Output :=
  (prepare env path document).bind fun (scanner, document) =>
    let figures := (scanner.scan (.ofTree env.tree) document).figures
    match output with
    | none => .ok (printed (Html.page figures))
    | some p => written env.tree p (Html.page figures)
        ("Wrote gallery with " ++ toString figures.length ++ " figure(s) to " ++ p.text ++ "\n")

/-- The name of the way a root document was found. -/
def kindName : Root.Kind → String
  | .ancestor => "ancestor"
  | .activeDocument => "activeDocument"

/-- A root document in JSON. -/
def resolutionJson (r : Root.Resolution) : Json :=
  .object [("document", .string r.document.text), ("kind", .string (kindName r.kind))]

/-- Prints the root document. -/
def runRoot (env : Environment) (path : Option Path) (document : Path) (format : Format) :
    Except CommandError Output :=
  (prepare env path document).map fun (scanner, document) =>
    let resolution := scanner.resolveRoot (.ofTree env.tree) document
    match format with
    | .json => printed ((resolutionJson resolution).compact ++ "\n")
    | .text => printed (resolution.document.relativeTo scanner.projectRoot ++
        (if resolution.isFallback then " (no root document found, using the document itself)" else "") ++ "\n")

/-- The words of a text between blanks. -/
def words (text : List Char) : List String :=
  let (word, words) := text.foldr (fun c (word, words) =>
    if Text.isBlank c then ([], if word.isEmpty then words else String.ofList word :: words)
    else (c :: word, words)) (([] : List Char), ([] : List String))
  if word.isEmpty then words else String.ofList word :: words

/-- The editor of the user as a program with its first arguments; the first variable that is not empty counts. -/
def editorOf (vars : Variables) : List String :=
  match (["VISUAL", "EDITOR"].filterMap fun name => vars.lookup name).find? (· != "") with
  | some editor => words editor.toList
  | none => []

/-- What follows from the ending of an editor. -/
def afterEditor (colored : Bool) (target : NavigationTarget) (program : String) : Ending → Output
  | .exited 0 => printed ""
  | .exited code => warned colored ("Cannot open file: " ++ target.path.text ++ " (" ++ program ++
      " exited with exit status: " ++ toString code ++ ")")
  | .notStarted reason => warned colored ("Cannot open file: " ++ target.path.text ++ " (" ++ program ++ ": " ++
      reason ++ ")")

/-- Shows a line of a document in the editor of the user; without an editor, prints the place. -/
def runEdit (env : Environment) (colored : Bool) (file : Path) (line : Nat) : Outcome :=
  match NavigationTarget.make env.tree file line with
  | .error f => .done (warned colored f.message)
  | .ok target => match editorOf env.vars with
    | [] => .done (printed (target.path.text ++ ":" ++ toString target.line ++ "\n"))
    | program :: arguments =>
      .launch program (arguments ++ ["+" ++ toString target.line, target.path.text])
        (afterEditor colored target program)

/-- The output of a command that may have gone wrong. -/
def finished (colored : Bool) : Except CommandError Output → Outcome
  | .ok output => .done output
  | .error e => .done (failed colored e)

/-- Runs a command. -/
def execute (env : Environment) (arguments : Arguments) : Outcome :=
  let colored := isColored arguments.isPlain env.vars
  match arguments.command with
  | none => .done ⟨1, "", "No subcommand specified. Run \x60typfig --help\x60 for usage.\n", none⟩
  | some .init => finished colored (runInit env arguments.path)
  | some (.scan document format) => finished colored (runScan env arguments colored document format)
  | some (.gallery document output) => finished colored (runGallery env arguments.path document output)
  | some (.root document format) => finished colored (runRoot env arguments.path document format)
  | some (.edit file line) => runEdit env colored file line
  | some .serve => .serve

/-- How the program is used. -/
def usage : String :=
  "Usage: typfig [OPTIONS] [COMMAND]

Commands:
  init                       Create a sample configuration in the project root
  scan <DOCUMENT>            List every figure reachable from a document
  gallery <DOCUMENT>         Render the figures as a static HTML gallery
  root <DOCUMENT>            Print the root document resolved for a document
  open <FILE> <LINE>         Open a document at a line
  lsp                        Start the language server

Options:
  -p, --path <PATH>          Path to the project root directory
  -v, --verbose              Enable verbose output
      --no-color             Disable colored output
      --format <FORMAT>      Output format of scan and root: text or json
  -o, --output <OUTPUT>      File that gallery writes to
  -h, --help                 Print help
  -V, --version              Print version
"

/-- The name and version of the program. -/
def versionLine : String := "typfig_cli 0.1.0\n"

/-- Runs the program with arguments. -/
def run (env : Environment) (args : List String) : Outcome :=
  match parse args with
  | .ok arguments => execute env arguments
  | .error .help => .done (printed usage)
  | .error .version => .done (printed versionLine)
  | .error .usage => .done ⟨2, "", "error: invalid arguments\n\n" ++ usage, none⟩

end FigureGallery.CommandLine
