import FigureGallery.CommandLine.Run

/-!
# The program

Reads the part of the file system that a command may look at into a file tree, runs the command on it, and carries out
what it leaves behind.
-/

namespace FigureGallery.Program

open CommandLine

/-- How deep directories are read. -/
def maxDepth : Nat := 64

/-- The names from the top to a path. -/
def locationOf (tree : FileTree) (p : Path) : Location :=
  (tree.absolute p).components.filterMap fun
    | .name text => some text
    | _ => none

/-- Adds an entry that was not there. -/
def add (tree : FileTree) (location : Location) (node : Node) : FileTree :=
  { tree with entries := (location, node) :: tree.entries }

/-- Adds what is below a directory, down to a depth. -/
def load : (depth : Nat) → FileTree → Location → IO FileTree
  | 0, tree, _ => pure tree
  | depth + 1, tree, location => do
    let entries ← try (← IO.FS.realPath (FileTree.pathOf location).text).readDir catch _ => pure #[]
    entries.foldlM (fun tree entry => do
      let place := location ++ [entry.fileName]
      if (tree.get? place).isSome then pure tree
      else if ← entry.path.isDir then load depth (add tree place .directory) place
      else
        let content ← try IO.FS.readBinFile entry.path catch _ => pure .empty
        pure (add tree place (.file content))) tree

/-- The directories that a command looks below. -/
def directoriesOf (tree : FileTree) (arguments : Arguments) : List Path :=
  let documents := match arguments.command with
    | some (.scan document _) => [document]
    | some (.gallery document _) => [document]
    | some (.root document _) => [document]
    | some (.edit file _) => [file]
    | _ => []
  let outputs := match arguments.command with
    | some (.gallery _ (some output)) => [output]
    | _ => []
  tree.workingPath :: arguments.path.toList ++ (documents ++ outputs).map fun p => (tree.absolute p).directory

/-- The file tree that a command runs on: the directories that it looks below, and the files on the way to them. -/
def surroundings (arguments : Arguments) : IO FileTree := do
  let workingDirectory := locationOf ⟨[], []⟩ ⟨(← IO.currentDir).toString⟩
  let start : FileTree := ⟨[], workingDirectory⟩
  (directoriesOf start arguments).foldlM (fun tree directory => do
    let location := locationOf tree directory
    let isThere ← try (← IO.FS.realPath (FileTree.pathOf location).text).isDir catch _ => pure false
    if isThere then
      let tree ← load maxDepth (tree.makeDirectories location) location
      (List.range location.length).foldlM (fun tree n => load 1 tree (location.take n)) tree
    else pure tree) start

/-- The names of the variables that commands look at. -/
def variableNames : List String :=
  ["VISUAL", "EDITOR", "NO_COLOR", "FORCE_COLOR", "CLICOLOR_FORCE", "IGNORE_IS_TERMINAL", "TERM", "TERM_PROGRAM",
    "COLORTERM", "CLICOLOR", "CI", "NODE"] ++ buildServiceNames

/-- The variables that commands look at. -/
def readVariables : IO Variables :=
  variableNames.filterMapM fun name => do
    return (← IO.getEnv name).map fun value => (name, value)

/-- Prints and writes what a command leaves behind. -/
def carryOut (output : Output) : IO UInt32 := do
  match output.written with
  | some (p, text) => IO.FS.writeFile p.text text
  | none => pure ()
  (← IO.getStdout).putStr output.out
  (← IO.getStderr).putStr output.err
  return UInt32.ofNat output.code

/-- Carries out what a command comes to. Editors are not started and not served from here. -/
def conclude : Outcome → IO UInt32
  | .done output => carryOut output
  | .launch _ _ after => carryOut (after (.notStarted "editors cannot be started from here"))
  | .serve => pure 0

end FigureGallery.Program

/-- Runs the program. -/
def main (args : List String) : IO UInt32 := do
  let tree ← match FigureGallery.CommandLine.parse args with
    | .ok arguments => FigureGallery.Program.surroundings arguments
    | .error _ => pure ⟨[], []⟩
  FigureGallery.Program.conclude (FigureGallery.CommandLine.run ⟨tree, ← FigureGallery.Program.readVariables⟩ args)
