import FigureGallery.Error
import FigureGallery.Toml.Document

/-!
# Configuration

The settings of a project, and the file that they are read from. Every setting may be left out; settings with unknown
names are passed over.
-/

namespace FigureGallery

/-- The settings of a project. -/
structure Config where
  /-- The extension of documents, as it is written. -/
  extension : String
  /-- How many characters after a figure its label is looked for in. -/
  labelLookahead : Nat
  /-- How long after the last change a scan waits, in milliseconds. -/
  debounceMs : Nat
  /-- The names that come first in the search for a root document. -/
  preferredRoots : List String
  /-- The patterns of excluded paths. -/
  excludePatterns : List String
  /-- Whether the ignore file of the project is not used. -/
  disableGitignore : Bool
deriving DecidableEq

namespace Config

open Toml

/-- The settings of a project that has no configuration. -/
def default : Config where
  extension := "typ"
  labelLookahead := 200
  debounceMs := 300
  preferredRoots := []
  excludePatterns := []
  disableGitignore := false

/-- The files that settings are looked for in, the first one first. -/
def candidates : List String :=
  ["typfig.toml", ".typfig.toml", ".config/typfig.toml"]

/-- The configuration file of a project. -/
def path? (tree : FileTree) (root : Path) : Option Path :=
  (candidates.map fun candidate => root.join ⟨candidate⟩).find? tree.isFile

/-- Whether a path is written as that of a configuration file. -/
def isConfigFile (p : Path) : Bool :=
  p.fileName?.any fun name => name == "typfig.toml" || name == ".typfig.toml"

/-- A text setting. -/
def text? : Value → Option String
  | .string text => some text
  | _ => none

/-- A setting that is a number of 64 bits without a sign. -/
def count? : Value → Option Nat
  | .integer (some n) => if Width.fitsUnsigned 64 n then some n.toNat else none
  | _ => none

/-- A setting that is on or off. -/
def flag? : Value → Option Bool
  | .boolean b => some b
  | _ => none

/-- A setting that is a list of texts. -/
def texts? : Value → Option (List String)
  | .array items => items.mapM text?
  | _ => none

/-- Whether the values of a table besides those of the known keys can be passed over. -/
def othersFit (known : List String) (entries : List (String × Value)) : Bool :=
  entries.all fun entry => known.contains entry.1 || entry.2.fits

/-- The setting of a key, or a default when the key is missing. -/
def setting {α : Type} (read? : Value → Option α) (default : α) (entries : List (String × Value)) (key : String) :
    Option α :=
  match entries.lookup key with
  | some value => read? value
  | none => some default

/-- A section with one list of texts: a table with its key, or an array whose first item is the list. A time counts
as a table without the key. -/
def section? (key : String) : Value → Option (List String)
  | .table entries => if othersFit [key] entries then setting texts? [] entries key else none
  | .array [] => some []
  | .array (first :: _) => texts? first
  | .time => some []
  | _ => none

/-- The names of the settings. -/
def names : List String :=
  ["extension", "label_lookahead", "debounce_ms", "root", "exclude", "disable_gitignore"]

/-- The settings in a table. -/
def ofEntries? (entries : List (String × Value)) : Option Config :=
  if othersFit names entries then do
    let extension ← setting text? default.extension entries "extension"
    let labelLookahead ← setting count? default.labelLookahead entries "label_lookahead"
    let debounceMs ← setting count? default.debounceMs entries "debounce_ms"
    let preferredRoots ← setting (section? "prefer") default.preferredRoots entries "root"
    let excludePatterns ← setting (section? "patterns") default.excludePatterns entries "exclude"
    let disableGitignore ← setting flag? default.disableGitignore entries "disable_gitignore"
    some { extension, labelLookahead, debounceMs, preferredRoots, excludePatterns, disableGitignore }
  else none

/-- The settings in the text of a configuration file. -/
def ofText (text : String) : Except ConfigError Config :=
  match (Toml.parse text.toList).bind ofEntries? with
  | none => .error .malformed
  | some config => if Path.bareExtension config.extension = "" then .error .emptyExtension else .ok config

/-- The settings of a project; none when it has no configuration file. -/
def load (tree : FileTree) (root : Path) : Except Failure (Option Config) :=
  match path? tree root with
  | none => .ok none
  | some p => match tree.readText p with
    | .error e => .error (.file e)
    | .ok text => match ofText text with
      | .error e => .error (.config e)
      | .ok config => .ok (some config)

end Config

end FigureGallery
