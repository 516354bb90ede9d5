import FigureGallery.FileTree

/-!
# Failures

What can go wrong for the user of the gallery, with the text, the code and the advice that each failure is reported
with. Constructs that a scan leaves out are diagnostics and no failures.
-/

namespace FigureGallery

/-- Why an exclusion pattern is malformed. -/
inductive PatternError where
  /-- A range of a character class ends before it starts. -/
  | invalidRange (first last : Char)
  /-- A group of alternatives is closed that was never opened. -/
  | unopenedGroup
  /-- A group of alternatives is never closed. -/
  | unclosedGroup
  /-- The pattern ends in an escaping backslash. -/
  | danglingEscape
deriving DecidableEq

/-- The text of a pattern error. -/
def PatternError.message : PatternError → String
  | .invalidRange first last => "invalid range; '" ++ first.toString ++ "' > '" ++ last.toString ++ "'"
  | .unopenedGroup => "unopened alternate group; missing '\x7b' (maybe escape '\x7d' with '[\x7d]'?)"
  | .unclosedGroup => "unclosed alternate group; missing '\x7d' (maybe escape '\x7b' with '[\x7b]'?)"
  | .danglingEscape => "dangling '\\'"

/-- Which exclusion pattern is nested too deep to be matched. -/
inductive ExpressionError where
  /-- The pattern with a number, counted from zero. -/
  | nestedAt (index : Nat)
  /-- The pattern with an expression. -/
  | nestedUnder (expression : String)
deriving DecidableEq

/-- The text of an expression error. A pattern that is shown is the only one of its kind. -/
def ExpressionError.message : ExpressionError → String
  | .nestedAt index => "error parsing pattern " ++ toString index
  | .nestedUnder expression => "error parsing glob '" ++ expression ++ "': error parsing pattern 0"

/-- Why a configuration is refused. -/
inductive ConfigError where
  /-- The file is not TOML, or a setting has a value of another type. -/
  | malformed
  /-- The extension has nothing besides dots. -/
  | emptyExtension
  /-- An exclusion pattern is malformed; `shown` is the pattern without blanks at its end. -/
  | badPattern (pattern shown : String) (reason : PatternError)
  /-- An exclusion pattern is well formed but too deep. -/
  | unusableRules (reason : ExpressionError)
deriving DecidableEq

/-- The text of a configuration error. -/
def ConfigError.message : ConfigError → String
  | .malformed => ""
  | .emptyExtension => "\x60extension\x60 must not be empty"
  | .badPattern pattern shown reason =>
    "invalid exclude pattern \x60" ++ pattern ++ "\x60: error parsing glob '" ++ shown ++ "': " ++ reason.message
  | .unusableRules reason => "failed to build exclude rules: " ++ reason.message

/-- What can go wrong. -/
inductive Failure where
  | file (error : FileError)
  | config (error : ConfigError)
  | unbalancedBlock (offset : Nat)
  | unreadableDocument (path : Path) (error : FileError)
  | navigation (path : Path) (line : Nat)
deriving DecidableEq

namespace Failure

/-- The text of a failure. -/
def message : Failure → String
  | .file e => e.message
  | .config e => "failed to parse config file: " ++ e.message
  | .unbalancedBlock offset => "unbalanced figure block starting at byte " ++ toString offset
  | .unreadableDocument path e => "failed to read document \x60" ++ path.text ++ "\x60: " ++ e.message
  | .navigation path line => "cannot open file: \x60" ++ path.text ++ "\x60 at line " ++ toString line

/-- The code of a failure. -/
def code : Failure → String
  | .file _ => "typfig::io_error"
  | .config _ => "typfig::config_parse"
  | .unbalancedBlock _ => "typfig::unbalanced_block"
  | .unreadableDocument _ _ => "typfig::unreadable_document"
  | .navigation _ _ => "typfig::navigation_failure"

/-- The advice that goes with a failure. -/
def help? : Failure → Option String
  | .file _ => none
  | .config _ => some "check that typfig.toml is valid TOML with optional [root] and [exclude] sections"
  | .unbalancedBlock _ => some "every \x60(\x60 opened by a figure needs a matching \x60)\x60"
  | .unreadableDocument _ _ => none
  | .navigation _ _ =>
    some "the figure's source document may have been moved or deleted; re-scan the project"

end Failure

end FigureGallery
