import FigureGallery.CommandLine.Run
import FigureGallery.Proofs.FileTree.Writing
import FigureGallery.Proofs.Toml.Comment

/-!
# Creating a configuration

The command that creates a configuration writes a file of comments, and only in a project that has no configuration. So a
project is scanned with the same settings before and after it, and once it has succeeded there is nothing left for it to do.
-/

namespace FigureGallery

open Exclusion FileTree FigureGallery.Path

variable {tree other : FileTree} {place : Location} {content : ByteArray} {root : Path}

/-- A new file that is no ignore file adds no rules. -/
lemma Exclusion.Filter.ignoreRules_of_creates (creates : tree.Creates other place content)
    (named : place.getLast? ≠ some ".gitignore") : ignoreRules other root = ignoreRules tree root := by
  have plain : Plain ".gitignore".toList := by decide
  have same : other.node? (root.join ⟨".gitignore"⟩) = tree.node? (root.join ⟨".gitignore"⟩) :=
    creates.node?_eq fun located => named (getLast?_of_locate_join plain located)
  have bytes (content : ByteArray) : other.readBytes (root.join ⟨".gitignore"⟩) = .ok content ↔
      tree.readBytes (root.join ⟨".gitignore"⟩) = .ok content := by
    rw [readBytes_eq_ok_iff, readBytes_eq_ok_iff, same]
  unfold ignoreRules
  cases old : tree.readBytes (root.join ⟨".gitignore"⟩) with
  | ok content => rw [(bytes content).mpr old]
  | error fault =>
    cases new : other.readBytes (root.join ⟨".gitignore"⟩) with
    | ok content => simp [(bytes content).mp new] at old
    | error fault' => rfl

/-- A new file that is no ignore file makes no difference to the scanner of a project with given options. -/
lemma Scanner.make_of_creates (creates : tree.Creates other place content)
    (named : place.getLast? ≠ some ".gitignore") (options : ScanOptions) :
    make other root options = make tree root options := by
  rw [make, make, Filter.make, Filter.make, creates.differsIn.absolute, Filter.ignoreRules_of_creates creates named]

namespace Config

/-- The configuration that comes first counts. -/
lemma path?_of_isFile (isFile : tree.isFile (root.join ⟨"typfig.toml"⟩)) :
    path? tree root = some (root.join ⟨"typfig.toml"⟩) := by
  rw [path?, candidates, List.map_cons, List.find?_cons_of_pos isFile]

lemma not_isFile_of_path?_eq_none (missing : path? tree root = none) : ¬ tree.isFile (root.join ⟨"typfig.toml"⟩) :=
  List.find?_eq_none.mp missing _ (List.mem_map_of_mem (by decide))

/-- A project without a configuration has the settings of a new configuration of comments. -/
lemma load_of_creates {text : String} (commentary : Toml.Commentary text.toList) (missing : path? tree root = none)
    (creates : tree.Creates other place text.toUTF8) (located : other.locate (root.join ⟨"typfig.toml"⟩) = .ok place) :
    Scanner.load other root = Scanner.load tree root := by
  have plain : Plain "typfig.toml".toList := by decide
  have named : place.getLast? ≠ some ".gitignore" := by
    rw [getLast?_of_locate_join plain located]
    decide
  have entry : other.node? (root.join ⟨"typfig.toml"⟩) = some (.file text.toUTF8) :=
    node?_eq_some_iff.mpr ⟨place, located, creates.created⟩
  have read := readText_of_node? entry
  have found := path?_of_isFile (isFile_of_readText read)
  have before : Config.load tree root = .ok none := by
    unfold load
    rw [missing]
  have after : Config.load other root = .ok (some default) := by
    unfold load
    simp only [found, read, ofText_of_commentary commentary]
  unfold Scanner.load
  rw [before, after]
  exact Scanner.make_of_creates creates named .default

end Config

namespace CommandLine

open Toml

set_option maxRecDepth 10000 in
/-- The sample is made of comments. -/
lemma commentary_sampleConfig : Commentary sampleConfig.toList := by
  -- A literal is the list of its characters, and to decode them one after another takes long.
  obtain ⟨characters, e, lines⟩ : ∃ cs, sampleConfig = String.ofList cs ∧ (cs.splitOn '\n').all isCommentLine := by
    unfold sampleConfig
    exact ⟨_, rfl, by decide +kernel⟩
  rw [e, String.toList_ofList]
  exact .of_splitOn (List.all_eq_true.mp lines)

/-- The tree that a command leaves behind. -/
def Output.leaves (output : Output) (tree : FileTree) : FileTree :=
  match output.written with
  | some (p, text) => (tree.write p text.toUTF8).toOption.getD tree
  | none => tree

/-- What the creation of a configuration comes to, and the tree that it leaves behind. -/
inductive Initializes (env : Environment) (path : Option Path) : Output → FileTree → Prop where
  /-- There is a configuration. -/
  | existing {p out} :
    Config.path? env.tree (rootOf env path) = some p →
    Initializes env path (printed out) env.tree
  /-- The configuration cannot be written. -/
  | refused {colored error} :
    Config.path? env.tree (rootOf env path) = none →
    Initializes env path (failed colored error) env.tree
  /-- The sample is written. -/
  | created {out after place} :
    Config.path? env.tree (rootOf env path) = none →
    env.tree.Creates after place sampleConfig.toUTF8 →
    after.locate ((rootOf env path).join ⟨"typfig.toml"⟩) = .ok place →
    Initializes env path ⟨0, out, "", some ((rootOf env path).join ⟨"typfig.toml"⟩, sampleConfig)⟩ after

variable {env : Environment} {path : Option Path} {arguments : Arguments} {output : Output} {after : FileTree}

/-- The command ends in one of these ways. -/
lemma exists_initializes (command : arguments.command = some .init) :
    ∃ output, execute env arguments = .done output ∧ Initializes env arguments.path output (output.leaves env.tree) := by
  have executed : execute env arguments =
      finished (isColored arguments.isPlain env.vars) (runInit env arguments.path) := by
    unfold execute
    rw [command]
  rw [executed]
  unfold runInit
  dsimp only
  cases existing : Config.path? env.tree (rootOf env arguments.path) with
  | some p => exact ⟨_, rfl, .existing existing⟩
  | none =>
    dsimp only
    unfold written
    cases write : env.tree.write ((rootOf env arguments.path).join ⟨"typfig.toml"⟩) sampleConfig.toUTF8 with
    | error fault => exact ⟨_, rfl, .refused existing⟩
    | ok after =>
      obtain ⟨place, creates, located⟩ := exists_creates_of_write (Config.not_isFile_of_path?_eq_none existing) write
      refine ⟨_, rfl, ?_⟩
      unfold Output.leaves
      dsimp only
      rw [write]
      exact .created existing creates located

namespace Initializes

/-- There is nothing to do where there is a configuration. -/
lemma of_isSome (initializes : Initializes env path output after)
    (found : (Config.path? env.tree (rootOf env path)).isSome) : output.code = 0 ∧ after = env.tree := by
  cases initializes with
  | existing _ => exact ⟨rfl, rfl⟩
  | refused missing => simp [missing] at found
  | created missing _ _ => simp [missing] at found

lemma workingDirectory_eq (initializes : Initializes env path output after) :
    after.workingDirectory = env.tree.workingDirectory := by
  cases initializes with
  | existing _ => rfl
  | refused _ => rfl
  | created _ creates _ => exact creates.workingDirectory

/-- The root of the project is the same in the tree that is left behind. -/
lemma rootOf_eq (initializes : Initializes env path output after) (vars : Variables) :
    rootOf ⟨after, vars⟩ path = rootOf env path := by
  rw [rootOf, rootOf, workingPath, workingPath, initializes.workingDirectory_eq]

/-- Every path leads to the entry that it led to before, or it led nowhere and leads to the sample. -/
lemma node?_cases (initializes : Initializes env path output after) (p : Path) :
    after.node? p = env.tree.node? p ∨ env.tree.node? p = none ∧ after.node? p = some (.file sampleConfig.toUTF8) := by
  cases initializes with
  | existing _ => exact .inl rfl
  | refused _ => exact .inl rfl
  | created _ creates _ => exact creates.node?_cases p

/-- The project is scanned with the settings that it was scanned with before, or not at all for the same reason. -/
lemma load_eq (initializes : Initializes env path output after) :
    Scanner.load after (rootOf env path) = Scanner.load env.tree (rootOf env path) := by
  cases initializes with
  | existing _ => rfl
  | refused _ => rfl
  | created missing creates located =>
    exact Config.load_of_creates commentary_sampleConfig missing creates located

/-- After success there is a configuration, and after a failure everything is as it was. -/
lemma isSome_or_eq (initializes : Initializes env path output after) :
    output.code = 0 ∧ (Config.path? after (rootOf env path)).isSome ∨ output.code ≠ 0 ∧ after = env.tree := by
  cases initializes with
  | existing found => exact .inl ⟨rfl, by rw [found]; rfl⟩
  | refused _ => exact .inr ⟨by simp [failed], rfl⟩
  | @created _ _ place _ creates located =>
    have isFile := isFile_iff.mpr ⟨place, located, _, creates.created⟩
    exact .inl ⟨rfl, by rw [Config.path?_of_isFile isFile]; rfl⟩

end Initializes

/-- The command that creates a configuration changes no entry of the tree, and adds at most the sample where there was none.
The scanner of the project, or the reason why there is none, is the same before and after it. After a failure everything is
as it was. After success there is a configuration, and the command succeeds again and changes nothing, whatever its other
arguments and the variables are. -/
theorem init_neutral (env : Environment) (arguments : Arguments) (command : arguments.command = some .init) :
    ∃ output, execute env arguments = .done output ∧
      let root := rootOf env arguments.path
      let after := output.leaves env.tree
      (∀ p content, env.tree.readBytes p = .ok content → after.readBytes p = .ok content) ∧
      (∀ p, after.node? p = env.tree.node? p ∨
        env.tree.node? p = none ∧ after.node? p = some (.file sampleConfig.toUTF8)) ∧
      Scanner.load after root = Scanner.load env.tree root ∧
      (output.code ≠ 0 → after = env.tree) ∧
      (output.code = 0 → (Config.path? after root).isSome ∧
        ∀ (vars : Variables) (again : Arguments), again.command = some .init → again.path = arguments.path →
          ∃ output', execute ⟨after, vars⟩ again = .done output' ∧ output'.code = 0 ∧ output'.leaves after = after) := by
  obtain ⟨output, executed, initializes⟩ := @exists_initializes env arguments command
  refine ⟨output, executed, fun p content read => ?_, initializes.node?_cases, initializes.load_eq, fun fails => ?_,
    fun succeeds => ?_⟩
  · rw [readBytes_eq_ok_iff] at read ⊢
    obtain same | ⟨nowhere, _⟩ := initializes.node?_cases p
    · exact same.trans read
    · simp [nowhere] at read
  · exact (initializes.isSome_or_eq.resolve_left fun h => fails h.1).2
  · have found := (initializes.isSome_or_eq.resolve_right fun h => h.1 succeeds).2
    refine ⟨found, fun vars again command' samePath => ?_⟩
    obtain ⟨output', executed', initializes'⟩ := @exists_initializes ⟨output.leaves env.tree, vars⟩ again command'
    rw [← initializes.rootOf_eq vars, ← samePath] at found
    obtain ⟨succeeds', unchanged⟩ := initializes'.of_isSome found
    exact ⟨output', executed', succeeds', unchanged⟩

/-- A project with an ignore file and a directory in the place of a configuration. -/
theorem init_neutral_new :
    let tree : FileTree := ⟨[(["w"], .directory), (["w", ".gitignore"], .file "build/".toUTF8),
      (["w", ".typfig.toml"], .directory)], ["w"]⟩
    let arguments : Arguments := ⟨some .init, none, false, false⟩
    arguments.command = some .init ∧ Config.path? tree ⟨"/w"⟩ = none ∧
      ∃ output, execute ⟨tree, []⟩ arguments = .done output ∧ output.code = 0 ∧
        let after := output.leaves tree
        after.readBytes ⟨".gitignore"⟩ = .ok "build/".toUTF8 ∧ (Config.path? after ⟨"/w"⟩).isSome ∧
        Scanner.load after ⟨"/w"⟩ = Scanner.load tree ⟨"/w"⟩ ∧
        ∃ output', execute ⟨after, []⟩ arguments = .done output' ∧ output'.leaves after = after := by
  intro tree arguments
  obtain ⟨output, executed, files, _, loads, _, succeeds⟩ := init_neutral ⟨tree, []⟩ arguments rfl
  have code : (match execute ⟨tree, []⟩ arguments with
      | .done output => output.code
      | _ => 1) = 0 := by decide +kernel
  rw [executed] at code
  have root : rootOf ⟨tree, []⟩ arguments.path = ⟨"/w"⟩ := by decide +kernel
  rw [root] at loads succeeds
  obtain ⟨found, again⟩ := succeeds code
  obtain ⟨output', executed', _, unchanged⟩ := again [] arguments rfl rfl
  have ignored : tree.readBytes ⟨".gitignore"⟩ = .ok "build/".toUTF8 :=
    readBytes_eq_ok_iff.mpr (node?_eq_some_iff.mpr ⟨["w", ".gitignore"], by decide +kernel, rfl⟩)
  exact ⟨rfl, by decide +kernel, output, executed, code, files _ _ ignored, found, loads, output', executed', unchanged⟩

end CommandLine

end FigureGallery
