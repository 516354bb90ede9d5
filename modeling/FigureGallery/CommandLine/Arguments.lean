import FigureGallery.CommandLine.Options
import FigureGallery.Number.Width
import FigureGallery.Path.Basic

/-!
# Arguments

The commands of the program and how they are written. Some options may stand before the command or after it; when they
stand in both places, what stands after the command counts.
-/

namespace FigureGallery.CommandLine

/-- How a result is printed. -/
inductive Format where
  | text
  | json
deriving DecidableEq

/-- A command of the program. -/
inductive Command where
  /-- Creates a configuration. -/
  | init
  /-- Lists the figures of a project. -/
  | scan (document : Path) (format : Format)
  /-- Writes the gallery page. -/
  | gallery (document : Path) (output : Option Path)
  /-- Prints the root document. -/
  | root (document : Path) (format : Format)
  /-- Shows a line of a document in an editor. -/
  | edit (file : Path) (line : Nat)
  /-- Serves an editor. -/
  | serve
deriving DecidableEq

/-- What the program is asked to do. -/
structure Arguments where
  command : Option Command
  /-- The root of the project. -/
  path : Option Path
  verbose : Bool
  /-- Whether output is never coloured. -/
  isPlain : Bool
deriving DecidableEq

/-- Whether a text is a path. -/
def isPathText (text : String) : Bool :=
  text != ""

/-- The format with a name. -/
def Format.ofName? : String → Option Format
  | "text" => some .text
  | "json" => some .json
  | _ => none

/-- The number of 64 bits that a text stands for; a plus sign may stand before it. -/
def count? (text : String) : Option Nat :=
  let digits := match text.toList with
    | '+' :: cs => cs
    | cs => cs
  if digits.isEmpty || !digits.all Char.isDigit then none
  else
    let n := digits.foldl (fun n c => 10 * n + (c.toNat - '0'.toNat)) 0
    if n < Width.capacity 64 then some n else none

/-- The options that may stand before the command or after it. -/
def sharedFlags : List Flag := [
  ⟨"path", some 'p', some isPathText⟩,
  ⟨"verbose", some 'v', none⟩,
  ⟨"no-color", none, none⟩]

/-- The option that chooses a format. -/
def formatFlag : Flag :=
  ⟨"format", none, some fun name => (Format.ofName? name).isSome⟩

/-- The names of the commands. -/
def commandNames : List String :=
  ["init", "scan", "gallery", "root", "open", "lsp", "help"]

/-- What may be written before the command. -/
def topGrammar : Grammar where
  flags := sharedFlags
  tellsVersion := true
  operands := []
  commands := commandNames

/-- What may be written after a command. -/
def commandGrammar (flags : List Flag) (operands : List (String → Bool)) : Grammar where
  flags := flags ++ sharedFlags
  tellsVersion := false
  operands
  commands := []

/-- What may be written after the command with a name. -/
def grammarOf (name : String) : Grammar :=
  match name with
  | "scan" => commandGrammar [formatFlag] [isPathText]
  | "gallery" => commandGrammar [⟨"output", some 'o', some isPathText⟩] [isPathText]
  | "root" => commandGrammar [formatFlag] [isPathText]
  | "open" => commandGrammar [] [isPathText, fun text => (count? text).isSome]
  | _ => commandGrammar [] []

/-- The format that was chosen. -/
def formatOf (g : Given) : Format :=
  ((g.value? "format").bind Format.ofName?).getD .text

/-- The command with a name and what was given after it. -/
def commandOf (name : String) (g : Given) : Except Stop Command :=
  match name, g.operands with
  | "init", [] => .ok .init
  | "scan", [document] => .ok (.scan ⟨document⟩ (formatOf g))
  | "gallery", [document] => .ok (.gallery ⟨document⟩ ((g.value? "output").map Path.mk))
  | "root", [document] => .ok (.root ⟨document⟩ (formatOf g))
  | "open", [file, line] => match count? line with
    | some line => .ok (.edit ⟨file⟩ line)
    | none => .error .usage
  | "lsp", [] => .ok .serve
  | _, _ => .error .usage

/-- The arguments with a command, given what stood before it and after it. -/
def assemble (command : Option Command) (before after : Given) : Arguments where
  command
  path := ((after.value? "path").or (before.value? "path")).map Path.mk
  verbose := after.has "verbose" || before.has "verbose"
  isPlain := after.has "no-color" || before.has "no-color"

/-- What comes of asking for help in a command of its own, with nothing or the name of a command after it. -/
def helpStop : List String → Stop
  | [] => .help
  | [name] => if commandNames.contains name then .help else .usage
  | _ => .usage

/-- Reads the arguments of the program. -/
def parse (args : List String) : Except Stop Arguments :=
  match readLevel topGrammar .nothing none args with
  | .error stop => .error stop
  | .ok (before, none) => .ok (assemble none before .nothing)
  | .ok (_, some ("help", args)) => .error (helpStop args)
  | .ok (before, some (name, args)) => match readLevel (grammarOf name) .nothing none args with
    | .error stop => .error stop
    | .ok (after, _) => (commandOf name after).map fun command => assemble (some command) before after

end FigureGallery.CommandLine
