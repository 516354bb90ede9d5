/-!
# Options of a command line

Reads the arguments of one level of a command line: options, which may be written long or short, with their values
attached or in the next argument, and operands. A level may end at the name of a command, which the arguments after it
belong to. After `--` everything is an operand. Every option may be given once.
-/

namespace FigureGallery.CommandLine

/-- An option. -/
structure Flag where
  /-- The long name, without dashes. -/
  long : String
  /-- The short name, without its dash. -/
  short : Option Char
  /-- Which values the option takes; none when it takes no value. -/
  accepts : Option (String → Bool)

/-- Why arguments are not read to their end. -/
inductive Stop where
  /-- The arguments do not fit. -/
  | usage
  /-- Help is asked for. -/
  | help
  /-- The version is asked for. -/
  | version
deriving DecidableEq

/-- What may be written on a level. -/
structure Grammar where
  flags : List Flag
  /-- Whether the level can tell the version. -/
  tellsVersion : Bool
  /-- Which operands may be given, in their order. -/
  operands : List (String → Bool)
  /-- The names that end the level. -/
  commands : List String

/-- What was given on a level. -/
structure Given where
  /-- The options by their long names, with their values; the value of an option without one is empty. -/
  flags : List (String × String)
  operands : List String
deriving DecidableEq

namespace Given

/-- Nothing was given. -/
def nothing : Given := ⟨[], []⟩

/-- Whether an option was given. -/
def has (g : Given) (long : String) : Bool :=
  (g.flags.lookup long).isSome

/-- The value of an option. -/
def value? (g : Given) (long : String) : Option String :=
  g.flags.lookup long

/-- Adds an option, which may not have been given before. -/
def add (g : Given) (flag : Flag) (value : String) : Except Stop Given :=
  if g.has flag.long then .error .usage else .ok { g with flags := g.flags ++ [(flag.long, value)] }

/-- Adds an option with a value that it takes. -/
def addValue (g : Given) (flag : Flag) (value : String) : Except Stop Given :=
  if (flag.accepts.getD fun _ => false) value then g.add flag value else .error .usage

/-- Adds an operand, if the grammar has one more of them that takes it. -/
def addOperand (g : Given) (grammar : Grammar) (operand : String) : Except Stop Given :=
  match grammar.operands[g.operands.length]? with
  | some accepts => if accepts operand then .ok { g with operands := g.operands ++ [operand] } else .error .usage
  | none => .error .usage

end Given

/-- A text without the equals sign it starts with. -/
def dropEquals : List Char → List Char
  | '=' :: cs => cs
  | cs => cs

/-- Reads the short options of one argument, with the option that waits for its value in the next argument. -/
def readShort (grammar : Grammar) (g : Given) : List Char → Except Stop (Given × Option Flag)
  | [] => .ok (g, none)
  | c :: cs =>
    if c = 'h' then .error .help
    else if c = 'V' && grammar.tellsVersion then .error .version
    else match grammar.flags.find? fun flag => flag.short == some c with
      | none => .error .usage
      | some flag =>
        if flag.accepts.isSome then
          match cs with
          | [] => .ok (g, some flag)
          | cs => (g.addValue flag (String.ofList (dropEquals cs))).map fun g => (g, none)
        else match g.add flag "" with
          | .ok g => readShort grammar g cs
          | .error stop => .error stop

/-- Reads a long option, with the option if it waits for its value in the next argument. -/
def readLong (grammar : Grammar) (g : Given) (text : List Char) : Except Stop (Given × Option Flag) :=
  let name := String.ofList (text.takeWhile (· != '='))
  match text.dropWhile (· != '=') with
  | '=' :: value => match grammar.flags.find? fun flag => flag.long == name with
    | some flag => (g.addValue flag (String.ofList value)).map fun g => (g, none)
    | none => .error .usage
  | _ =>
    if name = "help" then .error .help
    else if name = "version" && grammar.tellsVersion then .error .version
    else match grammar.flags.find? fun flag => flag.long == name with
      | some flag => if flag.accepts.isSome then .ok (g, some flag) else (g.add flag "").map fun g => (g, none)
      | none => .error .usage

/-- Reads operands to the end. -/
def readOperands (grammar : Grammar) (g : Given) : List String → Except Stop Given
  | [] => .ok g
  | arg :: args => match g.addOperand grammar arg with
    | .ok g => readOperands grammar g args
    | .error stop => .error stop

/-- Reads a level: what was given on it, and the command that ended it with the arguments that follow. An option that
waits for its value takes the next argument, which may not look like an option. -/
def readLevel (grammar : Grammar) (g : Given) (waiting : Option Flag) :
    List String → Except Stop (Given × Option (String × List String))
  | [] => if waiting.isSome then .error .usage else .ok (g, none)
  | arg :: args =>
    let continueWith : Except Stop (Given × Option Flag) → Except Stop (Given × Option (String × List String))
      | .ok (g, waiting) => readLevel grammar g waiting args
      | .error stop => .error stop
    match waiting, arg.toList with
    | some _, '-' :: _ :: _ => .error .usage
    | some flag, _ => continueWith ((g.addValue flag arg).map fun g => (g, none))
    | none, ['-', '-'] => (readOperands grammar g args).map fun g => (g, none)
    | none, '-' :: '-' :: text => continueWith (readLong grammar g text)
    | none, '-' :: c :: cs => continueWith (readShort grammar g (c :: cs))
    | none, _ =>
      if grammar.commands.contains arg then .ok (g, some (arg, args))
      else continueWith ((g.addOperand grammar arg).map fun g => (g, none))

end FigureGallery.CommandLine
