import FigureGallery.Proofs.Include.Spelling
import FigureGallery.Proofs.Path.Reference
import FigureGallery.Proofs.Scanner.Agreement
import FigureGallery.Proofs.Workspace.Coherence

/-!
# Extensions of documents

A configuration may ask for every extension that has more than dots. The extension of a file name stands behind its last dot,
so an extension with a dot inside is the extension of no file, and neither is one with a slash. All parts of a scan agree on
which files are documents: with any other extension they take the files that are named with it, and with such a one they
take none of them, and an include of such a file leads to another one.
-/

namespace FigureGallery

open FigureGallery.Path

namespace Path

/-- What can stand behind the last dot of a file name. -/
def IsExtension (extension : String) : Prop :=
  '.' ∉ extension.toList ∧ '/' ∉ extension.toList

instance (extension : String) : Decidable (IsExtension extension) :=
  inferInstanceAs (Decidable (_ ∧ _))

variable {p : Path} {stem extension : String}

/-- A name with an extension behind a dot. -/
lemma toList_dotted (stem extension : String) :
    (stem ++ "." ++ extension).toList = stem.toList ++ '.' :: extension.toList := by
  simp

/-- A path that is named with an extension has it just when it can stand behind the last dot of a file name. -/
lemma hasExtension_iff_isExtension (plain : Plain stem.toList) (bare : bareExtension extension = extension)
    (named : Plain (stem ++ "." ++ extension).toList → p.fileName? = some (stem ++ "." ++ extension)) :
    p.hasExtension extension ↔ IsExtension extension := by
  constructor
  · intro has
    have free := notMem_of_hasExtension has
    rwa [bare] at free
  · rintro ⟨noDot, noSlash⟩
    refine hasExtension_iff.mpr ⟨_, named ?_, ?_⟩
    · rw [toList_dotted]
      exact Include.plain_name_extended plain noSlash
    · rw [bare, toList_dotted]
      exact extensionOf?_append plain.ne_nil noDot

/-- A path whose name does not end in a dot and an extension does not have the extension. -/
lemma not_hasExtension_of_not_suffix (bare : bareExtension extension = extension) (name : p.fileName? = some stem)
    (lacks : ¬ '.' :: extension.toList <:+ stem.toList) : ¬ p.hasExtension extension := by
  intro has
  obtain ⟨s, name', e⟩ := hasExtension_iff.mp has
  obtain rfl := Option.some.inj (name.symm.trans name')
  rw [bare] at e
  obtain ⟨start, _, _, e⟩ := extensionOf?_eq_some_iff.mp e
  exact lacks ⟨start, e.symm⟩

/-- A neat path is its file name as seen from its directory. -/
lemma IsNeat.eq_join (neat : IsNeat p) (name : p.fileName? = some stem) : p = p.directory.join ⟨stem⟩ := by
  have last := fileName?_eq_some_iff.mp name
  have plain : Plain stem.toList := plain_of_fileName? name
  refine neat.eq_of_components_eq (neat.directory.join plain) ?_
  rw [plain.components_join, components_directory]
  exact (List.dropLast_append_getLast? _ last).symm

end Path

namespace Include

variable {p directory : Path} {stem extension : String}

/-- An extension makes a neat path longer. -/
lemma extended_ne (neat : IsNeat p) (extension : String) : extended extension p ≠ p := by
  intro same
  have relative := not_isAbsolute_name (slash_notMem_fileName? p) extension
  have size := congrArg (fun q : Path => q.text.length) same
  cases name : p.fileName? with
  | some s =>
    obtain ⟨gap, written⟩ := exists_text_join_eq p.directory
    have plain : Plain s.toList := plain_of_fileName? name
    have whole := congrArg (fun q : Path => q.text.length) (neat.eq_join name)
    rw [name] at relative
    simp only [extended, withFileName, name, Option.isSome_some, if_pos, written _ relative] at size
    simp only [written _ plain.not_isAbsolute] at whole
    simp only [String.length_append, Option.getD_some] at size whole
    have : ".".length = 1 := rfl
    omega
  | none =>
    obtain ⟨gap, written⟩ := exists_text_join_eq p
    rw [name] at relative
    simp only [extended, withFileName, name, Option.isSome_none, Bool.false_eq_true, if_false, written _ relative] at size
    simp only [String.length_append] at size
    have : ".".length = 1 := rfl
    omega

/-- A target that names a file next to the document. -/
lemma resolveTarget_of_plain {options : Options} {name : String} (isLocal : name.toList.head? ≠ some '@')
    (noSlash : name.toList.head? ≠ some '/') (directory : Path) :
    resolveTarget options directory name.toList =
      some (withExtension options.extension (directory.join ⟨name⟩).normalize) := by
  rw [resolveTarget, if_neg isLocal, String.ofList_toList, resolveReference_of_not_rooted noSlash]

/-- A file that gets an extension is the one that is named with it. -/
lemma extended_normalize_join (plain : Plain stem.toList) (noSlash : '/' ∉ extension.toList) (directory : Path) :
    extended extension (directory.join ⟨stem⟩).normalize = (directory.join ⟨stem ++ "." ++ extension⟩).normalize := by
  have named : Plain (stem ++ "." ++ extension).toList := by
    rw [toList_dotted]
    exact plain_name_extended plain noSlash
  have name : (directory.join ⟨stem⟩).normalize.fileName? = some stem :=
    fileName?_normalize (fileName?_join_of_plain plain directory)
  have neat : IsNeat (directory.join ⟨stem⟩).normalize := isNeat_normalize _
  rw [extended, withFileName, name, Option.isSome_some, if_pos rfl, Option.getD_some]
  refine (neat.directory.join named).eq_of_components_eq (isNeat_normalize _) ?_
  rw [named.components_join, components_directory, plain.components_normalize_join, List.dropLast_concat,
    named.components_normalize_join]

end Include

/-- A configuration that is loaded asks for an extension that has more than dots. -/
lemma Config.bareExtension_ne_empty {tree : FileTree} {root : Path} {config : Config}
    (loaded : Config.load tree root = .ok (some config)) : bareExtension config.extension ≠ "" := by
  have checked {text : String} (read : ofText text = .ok config) : bareExtension config.extension ≠ "" := by
    unfold ofText at read
    split at read
    · simp at read
    · split at read
      · simp at read
      · rename_i nonempty
        obtain rfl := Except.ok.inj read
        exact nonempty
  unfold load at loaded
  split at loaded
  · simp at loaded
  · split at loaded
    · simp at loaded
    · split at loaded
      · simp at loaded
      · rename_i read
        obtain rfl := Option.some.inj (Except.ok.inj loaded)
        exact checked read

/-- A document becomes active, whatever the session was called for before, just when it has the extension. -/
lemma Session.active_withActive_run_iff {extension : String} {delay : Nat} {calls : List Call} {p : Path} :
    (((start extension delay).run calls).2.withActive p).active = some p ↔ p.hasExtension (bareExtension extension) := by
  have follows := (start extension delay).follows_run calls
  constructor
  · intro active
    cases ((follows_withActive _ p).trans follows).active p active with
    | inl before => simp [start] at before
    | inr accepted => exact accepted
  · intro has
    have accepted : ((start extension delay).run calls).2.accepts p := by
      rw [accepts, follows.extension]
      exact has
    rw [withActive, if_pos accepted]

namespace Scanner

variable {scanner : Scanner} {tree : FileTree} {root : Path} {config : Config} {stem : String}

/-- A scanner that is loaded has the extension that the configuration asks for. -/
lemma extension_of_load (loaded : Config.load tree root = .ok (some config)) (made : load tree root = .ok scanner) :
    scanner.options.extension = bareExtension config.extension := by
  unfold load at made
  simp only [loaded] at made
  rw [(of_make made).2]
  rfl

/-- A configuration that is loaded asks for an extension other than the empty one, and all parts of a scan recognise the
files that are named with it just when it can stand behind the last dot of a file name: they are documents to the scanner,
in the search for a root document and to a session, and an include of one of them leads to it. A target without the
extension then leads there too. -/
theorem recognises_iff_isExtension (loaded : Config.load tree root = .ok (some config))
    (made : load tree root = .ok scanner) (plain : Plain stem.toList) (isLocal : stem.toList.head? ≠ some '@')
    (directory : Path) :
    let extension := bareExtension config.extension
    let name := stem ++ "." ++ extension
    extension ≠ "" ∧
    (scanner.isMarkup (directory.join ⟨name⟩) ↔ IsExtension extension) ∧
    (∀ around : FileTree, name ∈ around.list directory → around.isFile (directory.join ⟨name⟩) →
      (name ∈ Root.documentNames around ⟨scanner.options.extension, scanner.options.preferredRoots⟩ directory ↔
        IsExtension extension)) ∧
    (∀ delay calls, (((Session.start config.extension delay).run calls).2.withActive (directory.join ⟨name⟩)).active =
      some (directory.join ⟨name⟩) ↔ IsExtension extension) ∧
    (Include.resolveTarget scanner.walkOptions directory name.toList = some (directory.join ⟨name⟩).normalize ↔
      IsExtension extension) ∧
    (IsExtension extension → ¬ '.' :: extension.toList <:+ stem.toList →
      Include.resolveTarget scanner.walkOptions directory stem.toList = some (directory.join ⟨name⟩).normalize) := by
  intro extension name
  have bare : bareExtension extension = extension := bareExtension_bareExtension _
  have options : scanner.options.extension = extension := extension_of_load loaded made
  have walk : scanner.walkOptions.extension = extension := options
  have start : name.toList.head? = stem.toList.head? := by
    obtain ⟨c, cs, e⟩ := List.exists_cons_of_ne_nil plain.ne_nil
    rw [toList_dotted, e]
    rfl
  have noSlash : stem.toList.head? ≠ some '/' := fun slash => plain.no_slash (List.mem_of_mem_head? slash)
  have document : (directory.join ⟨name⟩).hasExtension extension ↔ IsExtension extension :=
    hasExtension_iff_isExtension plain bare fun named => fileName?_join_of_plain named directory
  have document' : (directory.join ⟨name⟩).normalize.hasExtension extension ↔ IsExtension extension :=
    hasExtension_iff_isExtension plain bare fun named => fileName?_normalize (fileName?_join_of_plain named directory)
  refine ⟨Config.bareExtension_ne_empty loaded, ?_, fun around listed isFile => ?_, fun delay calls => ?_, ?_,
    fun simple lacks => ?_⟩
  · rw [isMarkup, options, document]
  · rw [Root.documentNames, List.mem_filter, options, Bool.and_eq_true, document]
    exact ⟨fun mem => mem.2.1, fun simple => ⟨listed, simple, isFile⟩⟩
  · rw [Session.active_withActive_run_iff, document]
  · rw [Include.resolveTarget_of_plain (start ▸ isLocal) (start ▸ noSlash), walk, Option.some.injEq, ← document']
    constructor
    · intro leads
      by_contra foreign
      rw [Include.withExtension_of_not_has foreign] at leads
      exact Include.extended_ne (isNeat_normalize _) _ leads
    · exact fun has => if_pos has
  · have name : (directory.join ⟨stem⟩).normalize.fileName? = some stem :=
      fileName?_normalize (fileName?_join_of_plain plain directory)
    rw [Include.resolveTarget_of_plain isLocal noSlash, walk,
      Include.withExtension_of_not_has (not_hasExtension_of_not_suffix bare name lacks), bare,
      Include.extended_normalize_join plain simple.2]

/-- A project that asks for an extension of two parts, whose documents nothing takes for documents. -/
theorem recognises_iff_isExtension_two_parts :
    let tree : FileTree := ⟨[(["w"], .directory), (["w", "typfig.toml"], .file "extension = \"typ.md\"\n".toUTF8),
      (["w", "main.typ.md"], .file "".toUTF8)], []⟩
    ∃ scanner, load tree ⟨"/w"⟩ = .ok scanner ∧ ¬ scanner.isMarkup ⟨"/w/main.typ.md"⟩ ∧
      Include.resolveTarget scanner.walkOptions ⟨"/w"⟩ "main.typ.md".toList ≠ some ⟨"/w/main.typ.md"⟩ := by
  intro tree
  obtain ⟨_, loaded, rfl⟩ : ∃ config, Config.load tree ⟨"/w"⟩ = .ok config ∧
      config = some { Config.default with extension := "typ.md" } :=
    exists_ok_of_map (f := id) (by decide +kernel)
  obtain ⟨scanner, made, _⟩ : ∃ scanner, load tree ⟨"/w"⟩ = .ok scanner ∧ scanner.projectRoot = ⟨"/w"⟩ :=
    exists_ok_of_map (by decide +kernel)
  have stem : Plain "main".toList := by decide
  obtain ⟨_, markup, _, _, includes, _⟩ := recognises_iff_isExtension loaded made stem (by decide) ⟨"/w"⟩
  refine ⟨scanner, made, fun accepted => ?_, fun leads => ?_⟩
  · exact absurd (markup.mp accepted) (by decide +kernel)
  · exact absurd (includes.mp leads) (by decide +kernel)

end Scanner

end FigureGallery
