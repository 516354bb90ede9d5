import FigureGallery.Exclusion.Glob
import FigureGallery.Path.Basic
import FigureGallery.Text.Blank

/-!
# Exclusion rules

One line of an ignore file: a pattern, which may be negated, bound to the directory of the file, or meant for
directories only. A pattern with a slash inside is bound to that directory; any other is looked for at every depth.
-/

namespace FigureGallery.Exclusion

/-- A rule that a line states. -/
structure Rule where
  glob : Glob
  /-- Whether paths that match are kept. -/
  keeps : Bool
  /-- Whether only directories match. -/
  directoriesOnly : Bool

namespace Rule

/-- Whether a text ends in a given one. -/
def endsIn (ending text : List Char) : Bool :=
  ending.isSuffixOf text

/-- A line without the blanks at its end; a blank that is escaped stays, with all before it. -/
def trimLine (line : List Char) : List Char :=
  if endsIn ['\\', ' '] line then line else Text.trimEnd line

/-- What a line says before its pattern: whether it keeps, whether it is bound, and the rest of the line. -/
def readMarks : List Char → Bool × Bool × List Char
  | '\\' :: '!' :: cs => (false, false, '!' :: cs)
  | '\\' :: '#' :: cs => (false, false, '#' :: cs)
  | '!' :: '/' :: cs => (true, true, cs)
  | '!' :: cs => (true, false, cs)
  | '/' :: cs => (false, true, cs)
  | cs => (false, false, cs)

/-- A pattern without the slash that limits it to directories, and whether it had one. An escape before that slash
goes with it. -/
def readDirectoryMark (pattern : List Char) : Bool × List Char :=
  if endsIn ['/'] pattern then
    let rest := pattern.dropLast
    (true, if endsIn ['\\'] rest then rest.dropLast else rest)
  else (false, pattern)

/-- Lets a pattern without a slash match at every depth. -/
def unbind (bound : Bool) (pattern : List Char) : List Char :=
  if bound || pattern.contains '/' || pattern == ['*', '*'] then pattern
  else '*' :: '*' :: '/' :: pattern

/-- Limits a pattern that ends in `/**` to what lies below its directory. -/
def openEnd (pattern : List Char) : List Char :=
  if endsIn ['/', '*', '*'] pattern then pattern ++ ['/', '*'] else pattern

/-- The rule that a line states; blank lines and lines that start with a hash state none. -/
def ofLine? (line : List Char) : Except PatternError (Option Rule) :=
  let shown := trimLine line
  if line.head? == some '#' || shown.isEmpty then .ok none
  else
    let (keeps, bound, marked) := readMarks shown
    let (directoriesOnly, pattern) := readDirectoryMark marked
    (Glob.read (openEnd (unbind bound pattern))).map fun glob => some { glob, keeps, directoriesOnly }

/-- Whether a rule speaks of a path, seen from the directory the rule is bound to. -/
def appliesTo (rule : Rule) (path : Path) (isDirectory : Bool) : Bool :=
  (!rule.directoriesOnly || isDirectory) && rule.glob.accepts path.text.toUTF8.toList

end Rule

end FigureGallery.Exclusion
