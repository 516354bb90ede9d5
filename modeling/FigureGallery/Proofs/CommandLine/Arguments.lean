import FigureGallery.CommandLine.Run
import Mathlib.Tactic.Lemma

/-!
# Arguments that are paths

An argument that starts with a slash looks neither like an option nor like a command, so it is read as an operand, or as
the value that an option waits for.
-/

namespace FigureGallery.CommandLine

variable {grammar : Grammar} {g g' : Given} {flag : Flag} {arg : String} {args : List String}

lemma readLevel_operand (rooted : arg.toList.head? = some '/') (other : arg ∉ grammar.commands)
    (added : g.addOperand grammar arg = .ok g') :
    readLevel grammar g none (arg :: args) = readLevel grammar g' none args := by
  obtain ⟨cs, e⟩ := List.head?_eq_some_iff.mp rooted
  rw [readLevel.eq_def]
  simp [e, other, added, Except.map]

lemma readLevel_value (rooted : arg.toList.head? = some '/') (added : g.addValue flag arg = .ok g') :
    readLevel grammar g (some flag) (arg :: args) = readLevel grammar g' none args := by
  obtain ⟨cs, e⟩ := List.head?_eq_some_iff.mp rooted
  rw [readLevel.eq_def]
  simp [e, added, Except.map]

lemma readLevel_long {waiting : Option Flag} {c : Char} {cs : List Char} (written : arg.toList = '-' :: '-' :: c :: cs)
    (read : readLong grammar g (c :: cs) = .ok (g', waiting)) :
    readLevel grammar g none (arg :: args) = readLevel grammar g' waiting args := by
  rw [readLevel.eq_def]
  simp [written, read]

lemma isPathText_of_rooted (rooted : arg.toList.head? = some '/') : isPathText arg := by
  have nonempty : arg ≠ "" := by
    rintro rfl
    simp at rooted
  simpa [isPathText] using nonempty

/-- The arguments of a command for one document, with the root of the project. -/
def about (command : Command) (root : Path) : Arguments where
  command := some command
  path := some root
  verbose := false
  isPlain := false

variable {document root : Path} {flags : List Flag}

/-- A document and the root of the project are read wherever the command has no option of its own for the root. -/
lemma readLevel_about (absolute : document.isAbsolute) (rooted : root.isAbsolute)
    (others : ∀ flag ∈ flags, flag.long ≠ "path") :
    readLevel (commandGrammar flags [isPathText]) .nothing none (document.text :: "--path" :: root.text :: args) =
      readLevel (commandGrammar flags [isPathText]) ⟨[("path", root.text)], [document.text]⟩ none args := by
  have document' : document.text.toList.head? = some '/' := by simpa [Path.isAbsolute] using absolute
  have root' : root.text.toList.head? = some '/' := by simpa [Path.isAbsolute] using rooted
  have operand : Given.nothing.addOperand (commandGrammar flags [isPathText]) document.text =
      .ok ⟨[], [document.text]⟩ := by
    simp [Given.nothing, Given.addOperand, commandGrammar, isPathText_of_rooted document']
  have value : Given.addValue ⟨[], [document.text]⟩ ⟨"path", some 'p', some isPathText⟩ root.text =
      .ok ⟨[("path", root.text)], [document.text]⟩ := by
    simp [Given.addValue, Given.add, Given.has, isPathText_of_rooted root']
  have option : readLong (commandGrammar flags [isPathText]) ⟨[], [document.text]⟩ "path".toList =
      .ok (⟨[], [document.text]⟩, some ⟨"path", some 'p', some isPathText⟩) := by
    have found : (flags ++ sharedFlags).find? (fun flag => flag.long == "path") =
        some ⟨"path", some 'p', some isPathText⟩ := by
      rw [List.find?_append, List.find?_eq_none.mpr (by simpa using others)]
      rfl
    simp [readLong, commandGrammar, found]
  rw [readLevel_operand document' (by simp [commandGrammar]) operand, readLevel_long rfl option]
  exact readLevel_value root' value

/-- What is read after a command decides what is asked for. -/
lemma parse_command {name : String} (command : name = "scan" ∨ name = "gallery") (args : List String) :
    parse (name :: args) = (readLevel (grammarOf name) .nothing none args).bind fun (after, _) =>
      (commandOf name after).map fun command => assemble (some command) .nothing after := by
  have first : readLevel topGrammar .nothing none (name :: args) = .ok (.nothing, some (name, args)) := by
    rcases command with rfl | rfl
    · rfl
    · rfl
  have known : name ≠ "help" := by
    rcases command with rfl | rfl
    · decide
    · decide
  unfold parse
  simp only [first]
  cases readLevel (grammarOf name) .nothing none args with
  | error stop => rfl
  | ok read => rfl

lemma parse_scan (absolute : document.isAbsolute) (rooted : root.isAbsolute) :
    parse ["scan", document.text, "--path", root.text, "--format", "json"] =
      .ok (about (.scan document .json) root) := by
  rw [parse_command (.inl rfl)]
  change (readLevel (commandGrammar [formatFlag] [isPathText]) _ _ _).bind _ = _
  rw [readLevel_about absolute rooted (by simp [formatFlag])]
  rfl

lemma parse_gallery (absolute : document.isAbsolute) (rooted : root.isAbsolute) :
    parse ["gallery", document.text, "--path", root.text] = .ok (about (.gallery document none) root) := by
  rw [parse_command (.inr rfl)]
  change (readLevel (commandGrammar [⟨"output", some 'o', some isPathText⟩] [isPathText]) _ _ _).bind _ = _
  rw [readLevel_about absolute rooted (by simp)]
  rfl

end FigureGallery.CommandLine
