/-!
# Colours

When output is coloured, and how. Output is not known to go to a terminal, so colours have to be asked for by a variable,
or a variable has to say that the output goes to a terminal.
-/

namespace FigureGallery.CommandLine

/-- The variables that a program runs with. -/
abbrev Variables := List (String × String)

/-- How a text is shown. -/
inductive Style where
  | bold
  | green
  | red
  | yellow
deriving DecidableEq

/-- The control sequences that turn a style on and off. -/
def Style.codes : Style → String × String
  | .bold => ("\x1b[1m", "\x1b[0m")
  | .green => ("\x1b[32m", "\x1b[39m")
  | .red => ("\x1b[31m", "\x1b[39m")
  | .yellow => ("\x1b[33m", "\x1b[39m")

/-- A text in a style, if output is coloured. -/
def styled (colored : Bool) (style : Style) (text : String) : String :=
  if colored then style.codes.1 ++ text ++ style.codes.2 else text

/-- Whether a level of colour is other than zero; what is no number of 64 bits counts as a level. -/
def isLevel (value : String) : Bool :=
  let digits := match value.toList with
    | '+' :: cs => cs
    | cs => cs
  digits.isEmpty || digits.any (· != '0')

/-- Whether the variables ask for colours wherever output goes. -/
def asksForColor (vars : Variables) : Bool :=
  match vars.lookup "FORCE_COLOR" with
  | some value => value == "true" || value == "" || (value != "false" && isLevel value)
  | none => match vars.lookup "CLICOLOR_FORCE" with
    | some value => value != "0"
    | none => false

/-- Whether a variable is set to something other than zero. -/
def isSwitchedOn (vars : Variables) (name : String) : Bool :=
  (vars.lookup name).any (· != "0")

/-- Whether a text holds a part. -/
def holds (part : List Char) : List Char → Bool
  | [] => part.isEmpty
  | c :: cs => part.isPrefixOf (c :: cs) || holds part cs

/-- Whether a kind of terminal is known to show colours. -/
def isColorTerminal (kind : String) : Bool :=
  let text := kind.toList
  ["screen", "xterm", "vt100", "vt220", "rxvt"].any (fun start => start.toList.isPrefixOf text) ||
    ["color", "ansi", "cygwin", "linux"].any (fun part => holds part.toList text) ||
    ["direct", "256"].any fun ending => ending.toList.isSuffixOf text

/-- Variables that only services which build and test programs set. -/
def buildServiceNames : List String :=
  ["CI_NAME", "GITHUB_ACTION", "GITLAB_CI", "NETLIFY", "TRAVIS", "CODEBUILD_SRC_DIR", "BUILDER_OUTPUT",
    "GITLAB_DEPLOYMENT", "NOW_GITHUB_DEPLOYMENT", "NOW_BUILDER", "BITBUCKET_DEPLOYMENT", "GERRIT_PROJECT",
    "SYSTEM_TEAMFOUNDATIONCOLLECTIONURI", "BITRISE_IO", "BUDDY_WORKSPACE_ID", "BUILDKITE", "CIRRUS_CI", "APPVEYOR",
    "CIRCLECI", "SEMAPHORE", "DRONE", "DSARI", "TDDIUM", "STRIDER", "TASKCLUSTER_ROOT_URL", "JENKINS_URL",
    "bamboo.buildKey", "GO_PIPELINE_NAME", "HUDSON_URL", "WERCKER", "NEVERCODE", "RENDER", "MAGNUM", "SAIL_CI",
    "SHIPPABLE"]

/-- Whether the program is run by a service that builds and tests programs. -/
def isBuildService (vars : Variables) : Bool :=
  (vars.lookup "CI").any (fun value => ["true", "1", "woodpecker"].contains value) ||
    (vars.lookup "NODE").any (fun program => "//heroku/node/bin/node".toList.isSuffixOf program.toList) ||
    buildServiceNames.any fun name => (vars.lookup name).isSome

/-- Whether what shows the output is known to show colours. -/
def showsColor (vars : Variables) : Bool :=
  (vars.lookup "COLORTERM").isSome || (vars.lookup "TERM").any isColorTerminal ||
    (vars.lookup "TERM_PROGRAM").any (fun program => ["iTerm.app", "Apple_Terminal"].contains program) ||
    isSwitchedOn vars "CLICOLOR" || isBuildService vars

/-- Whether output can be coloured. Where nothing asks for colours, output has to be declared to go to a terminal, and
to one that shows them. -/
def canColor (vars : Variables) : Bool :=
  asksForColor vars ||
    (vars.lookup "TERM" != some "dumb" && isSwitchedOn vars "IGNORE_IS_TERMINAL" && showsColor vars)

/-- Whether output is coloured. -/
def isColored (isPlain : Bool) (vars : Variables) : Bool :=
  !isPlain && (vars.lookup "NO_COLOR").isNone && canColor vars

end FigureGallery.CommandLine
