import FigureGallery.Exclusion.Expression
import FigureGallery.Exclusion.Rule
import FigureGallery.FileTree

/-!
# Exclusion of paths

Which paths of a project are left out of the search for root documents and of the changes that matter. Two lists of
rules decide: those of the ignore file of the project, unless it is disabled, and those of the configuration. In
each list the last rule that speaks of a path decides; when none does, the directory above is asked.
-/

namespace FigureGallery.Exclusion

/-- What a list of rules says of a path. -/
inductive Verdict where
  | excluded
  | kept
  | silent
deriving DecidableEq

/-- Rules bound to a directory. -/
structure RuleList where
  /-- The directory, as it is written, without a leading `./`. -/
  root : String
  rules : List Rule

namespace RuleList

/-- A text without a start, if it has that start. -/
def dropStart (start text : List Char) : List Char :=
  (start.isPrefixOf? text).getD text

/-- Rules bound to a directory. -/
def make (root : Path) (rules : List Rule) : RuleList :=
  ⟨String.ofList (dropStart ['.', '/'] root.text.toList), rules⟩

/-- A path as seen from the directory of the rules. Only the writing of the path counts, so a path that is not
written with the directory in front stays as it is. -/
def localPath (list : RuleList) (path : Path) : Path :=
  let text := dropStart ['.', '/'] path.text.toList
  let rest :=
    if (Path.mk list.root).components == [.here] || !text.contains '/' then text
    else match list.root.toList.isPrefixOf? text with
      | some rest => dropStart ['/'] rest
      | none => text
  ⟨String.ofList rest⟩

/-- Whether the rules cannot be asked about a path: it is below their directory, but not written that way. -/
def isLost (list : RuleList) (path : Path) : Bool :=
  !list.rules.isEmpty && (list.localPath path).isAbsolute

/-- What the rules say of a path alone. -/
def verdictOf (list : RuleList) (path : Path) (isDirectory : Bool) : Verdict :=
  match list.rules.reverse.find? fun rule => rule.appliesTo path isDirectory with
  | some rule => if rule.keeps then .kept else .excluded
  | none => .silent

/-- What the rules say of a path, or else of the first directory above it that they speak of. -/
def verdict (list : RuleList) (path : Path) (isDirectory : Bool) : Verdict :=
  let own := list.localPath path
  (own.ancestors.map fun above => list.verdictOf above true).foldl
    (fun found above => if found = .silent then above else found) (list.verdictOf own isDirectory)

/-- Whether the rules exclude a path. -/
def excludes (list : RuleList) (path : Path) (isDirectory : Bool) : Bool :=
  list.verdict path isDirectory == .excluded

end RuleList

/-- The exclusions of a project. -/
structure Filter where
  root : Path
  ignored : RuleList
  configured : RuleList

namespace Filter

/-- A filter that excludes nothing. -/
def empty (root : Path) : Filter :=
  ⟨root, .make root [], .make root []⟩

/-- The lines of a file: what stands between line feeds, without the carriage return before one. -/
def linesOf : List UInt8 → List (List UInt8)
  | [] => []
  | 10 :: bs => [] :: linesOf bs
  | 13 :: 10 :: bs => [] :: linesOf bs
  | b :: bs => match linesOf bs with
    | line :: lines => (b :: line) :: lines
    | [] => [[b]]

/-- The texts of the lines of a file, up to the first that is no text; a byte order mark at the start is no part of
the first line. -/
def textLines (content : ByteArray) : List (List Char) :=
  let texts := (linesOf content.toList).map fun line => String.fromUTF8? line.toByteArray
  let lines := (texts.takeWhile Option.isSome).filterMap (·.map String.toList)
  match lines with
  | first :: others => first.dropWhile (· == '\uFEFF') :: others
  | [] => []

/-- The rules of an ignore file; lines with a malformed pattern state none. -/
def rulesOfFile (content : ByteArray) : List Rule :=
  (textLines content).filterMap fun line => match Rule.ofLine? line with
    | .ok rule => rule
    | .error _ => none

/-- Why rules cannot be used, if one of their patterns is nested too deep. -/
def refusal? (rules : List Rule) : Option ExpressionError :=
  Glob.refusal? (rules.map (·.glob))

/-- The rules of the ignore file in a directory; none if they cannot be used. -/
def ignoreRules (tree : FileTree) (root : Path) : List Rule :=
  match tree.readBytes (root.join ⟨".gitignore"⟩) with
  | .ok content =>
    let rules := rulesOfFile content
    if (refusal? rules).isSome then [] else rules
  | .error _ => []

/-- The rule that a pattern of a configuration states. -/
def configuredRule? (pattern : String) : Except ConfigError (Option Rule) :=
  match Rule.ofLine? pattern.toList with
  | .ok rule => .ok rule
  | .error e => .error (.badPattern pattern (String.ofList (Rule.trimLine pattern.toList)) e)

/-- The rules that the patterns of a configuration state; the first malformed pattern refuses them all, and so does
one that is nested too deep. -/
def configuredRules (patterns : List String) : Except ConfigError (List Rule) := do
  let rules := (← patterns.mapM configuredRule?).filterMap id
  match refusal? rules with
  | some reason => .error (.unusableRules reason)
  | none => .ok rules

/-- The filter of a project with the exclusion patterns of its configuration. -/
def make (tree : FileTree) (root : Path) (patterns : List String) (disableIgnoreFile : Bool) :
    Except ConfigError Filter :=
  (configuredRules patterns).map fun rules =>
    ⟨root, .make root (if disableIgnoreFile then [] else ignoreRules tree root), .make root rules⟩

/-- Whether a path, or a directory between the root and it, is excluded. Paths outside the root never are. -/
def excludes (filter : Filter) (tree : FileTree) (path : Path) : Bool :=
  path.isBelow filter.root &&
    (filter.ignored.excludes path (tree.isDirectory path) || filter.configured.excludes path (tree.isDirectory path))

/-- Whether a path is below the root but not written that way, so that rules cannot be asked about it. -/
def isLost (filter : Filter) (tree : FileTree) (path : Path) : Bool :=
  path.isBelow filter.root &&
    (filter.ignored.isLost path ||
      (!filter.ignored.excludes path (tree.isDirectory path) && filter.configured.isLost path))

end Filter

end FigureGallery.Exclusion
