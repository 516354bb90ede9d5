import FigureGallery.Proofs.Exclusion.Lost
import FigureGallery.Proofs.Markup.Directive
import FigureGallery.Proofs.Root.Search

/-!
# The nearest root document

The search for a root document goes up from the directory of the active document. It ends in the first directory that has
a file which qualifies, with the file that comes first there; when no directory has one, the active document stands in.
The filter can be asked about every file on the way.
-/

namespace FigureGallery

open Exclusion FileTree FigureGallery.Path

/-- Two sources with the same files, directories and open documents, in whatever order they are listed. -/
structure Source.Relists (source other : Source) : Prop where
  workingDirectory : other.tree.workingDirectory = source.tree.workingDirectory
  get? : ∀ location, other.tree.get? location = source.tree.get? location
  buffers : ∀ p, other.buffers.get? p = source.buffers.get? p

namespace Source.Relists

variable {source other : Source}

lemma sameShape (relists : source.Relists other) : source.tree.SameShape other.tree :=
  ⟨relists.workingDirectory, fun location => by rw [relists.get?]⟩

lemma read_eq (relists : source.Relists other) (p : Path) : other.read p = source.read p := by
  have shape := relists.sameShape
  rw [read, read, stored, stored, relists.buffers, shape.isFile_eq, readText, readText, readBytes, readBytes,
    shape.locate_eq]
  simp only [relists.get?]

/-- Entries with one location each may come in any order. -/
lemma of_perm {entries entries' : List (Location × Node)} (perm : entries.Perm entries')
    (distinct : (entries.map Prod.fst).Nodup) (workingDirectory : Location) (buffers : Buffers) :
    Source.Relists ⟨⟨entries, workingDirectory⟩, buffers⟩ ⟨⟨entries', workingDirectory⟩, buffers⟩ := by
  have lookup (location : Location) : entries'.lookup location = entries.lookup location := by
    induction perm with
    | nil => rfl
    | cons entry _ ih =>
      rw [List.lookup_cons, List.lookup_cons, ih (List.nodup_cons.mp distinct).2]
    | swap entry entry' rest =>
      obtain ⟨key, node⟩ := entry
      obtain ⟨key', node'⟩ := entry'
      have other : key' ≠ key := (List.ne_and_not_mem_of_not_mem_cons (List.nodup_cons.mp distinct).1).1
      by_cases first : location = key
      · simp [first, List.lookup_cons, beq_eq_false_iff_ne.mpr other.symm]
      · simp [List.lookup_cons, beq_eq_false_iff_ne.mpr first]
    | trans first _ ih ih' => rw [ih' ((first.map _).nodup_iff.mp distinct), ih distinct]
  refine ⟨rfl, fun location => ?_, fun _ => rfl⟩
  cases location with
  | nil => rfl
  | cons name names => exact lookup (name :: names)

end Source.Relists

namespace Root

variable {source : Source} {filter : Filter} {options : Options} {directory document active projectRoot : Path}
  {name : String}

/-- A name in a directory of a document that may be the root document, since it has an include directive. -/
structure Qualifies (source : Source) (filter : Filter) (options : Options) (directory : Path) (name : String) : Prop where
  listed : name ∈ source.tree.list directory
  hasExtension : (directory.join ⟨name⟩).hasExtension options.extension
  isFile : source.tree.isFile (directory.join ⟨name⟩)
  kept : filter.excludes source.tree (directory.join ⟨name⟩) = false
  directive : ∃ pre post, source.read (directory.join ⟨name⟩) = .ok (pre ++ post) ∧
    (Markup.Directive.opening? post).isSome

lemma hasDirective_iff : hasDirective source document ↔
    ∃ pre post, source.read document = .ok (pre ++ post) ∧ (Markup.Directive.opening? post).isSome := by
  rw [hasDirective]
  cases source.read document with
  | error e => simp
  | ok text =>
    dsimp only
    rw [Markup.Directive.startsIn_iff]
    simp only [Except.ok.injEq]

lemma qualifies_iff : Qualifies source filter options directory name ↔
    name ∈ candidates source.tree filter options directory ∧ hasDirective source (directory.join ⟨name⟩) := by
  rw [mem_candidates_iff, hasDirective_iff]
  constructor
  · intro q
    exact ⟨⟨⟨q.listed, q.hasExtension, q.isFile⟩, q.kept⟩, q.directive⟩
  · rintro ⟨⟨⟨listed, hasExtension, isFile⟩, kept⟩, directive⟩
    exact ⟨listed, hasExtension, isFile, kept, directive⟩

/-- The root document in a directory is the first one that qualifies: preferred names come in their order in front of all
others, which come by name. -/
lemma inDirectory?_eq_some_iff_least : inDirectory? source filter options directory = some document ↔
    ∃ name, Qualifies source filter options directory name ∧
      (∀ n, Qualifies source filter options directory n → rank options.preferred name < rank options.preferred n ∨
        rank options.preferred name = rank options.preferred n ∧ name ≤ n) ∧ directory.join ⟨name⟩ = document := by
  simp only [inDirectory?_eq_some_iff, qualifies_iff, comesFirst_iff, and_imp]
  constructor
  · rintro ⟨name, mem, rfl, directive, least⟩
    exact ⟨name, ⟨mem, directive⟩, least, rfl⟩
  · rintro ⟨name, ⟨mem, directive⟩, least, rfl⟩
    exact ⟨name, mem, rfl, directive, least⟩

/-- A directory has no root document when nothing in it qualifies. -/
lemma inDirectory?_eq_none_iff : inDirectory? source filter options directory = none ↔
    ∀ name, ¬ Qualifies source filter options directory name := by
  unfold inDirectory?
  simp only [qualifies_iff, List.find?_eq_none, List.forall_mem_map, List.mem_mergeSort, not_and]
  rfl

/-- A root document is found in the first directory that has one. -/
lemma resolve_eq_ancestor_iff : resolve source filter options active projectRoot = ⟨document, .ancestor⟩ ↔
    ∃ nearer directory further, directories active projectRoot = nearer ++ directory :: further ∧
      (∀ d ∈ nearer, inDirectory? source filter options d = none) ∧
      inDirectory? source filter options directory = some document := by
  unfold resolve
  cases found : (directories active projectRoot).findSome? (inDirectory? source filter options) with
  | none =>
    refine ⟨fun e => by simp at e, ?_⟩
    rintro ⟨nearer, directory, further, e, _, here⟩
    have nothing := List.findSome?_eq_none_iff.mp found directory (by simp [e])
    simp [nothing] at here
  | some other =>
    obtain ⟨nearer, directory, further, e, here, fail⟩ := List.findSome?_eq_some_iff.mp found
    constructor
    · rintro ⟨⟩
      exact ⟨nearer, directory, further, e, fail, here⟩
    · rintro ⟨nearer', directory', further', e', fail', here'⟩
      have found' := List.findSome?_eq_some_iff.mpr ⟨nearer', directory', further', e', here', fail'⟩
      rw [Option.some.inj (found.symm.trans found')]

/-- The active document stands in when no directory has a root document. -/
lemma resolve_eq_activeDocument_iff : resolve source filter options active projectRoot = ⟨active.normalize, .activeDocument⟩ ↔
    ∀ d ∈ directories active projectRoot, inDirectory? source filter options d = none := by
  unfold resolve
  rw [← List.findSome?_eq_none_iff]
  cases (directories active projectRoot).findSome? (inDirectory? source filter options) <;> simp

/-- A search asks a sound filter about neat paths only. -/
lemma isLost_eq_false (sound : filter.IsSound) (plain : source.tree.IsPlain) (options : Options)
    (active projectRoot : Path) : isLost source filter options active projectRoot = false := by
  rw [isLost, List.any_eq_false]
  intro directory searched
  rw [Bool.not_eq_true, List.any_eq_false]
  intro name named
  have mem : directory ∈ directories active projectRoot := mem_of_mem_through searched
  have neat : IsNeat directory := by
    refine (way_directories active projectRoot).isNeat (fun first parent => ?_) directory mem
    exact (isNeat_normalize active).of_parent? parent
  have listed : name ∈ source.tree.list directory := (List.mem_filter.mp named).1
  rw [sound.isLost_eq_false (neat.join (plain.of_mem_list listed))]
  exact Bool.false_ne_true

/-- What is in a directory lies where the directory lies. -/
lemma isBelow_join {above : Path} (below : directory.isBelow above) (plain : Plain name.toList) :
    (directory.join ⟨name⟩).isBelow above := by
  rw [isBelow, List.isPrefixOf_iff_prefix] at below ⊢
  rw [plain.components_join]
  exact below.trans (List.prefix_append _ _)

/-- From a document below the project root the root document lies below it too. -/
lemma isBelow_resolve (plain : source.tree.IsPlain) (below : active.normalize.isBelow projectRoot.normalize)
    (strict : ¬ active.normalize.same projectRoot.normalize) :
    (resolve source filter options active projectRoot).document.isBelow projectRoot.normalize := by
  have inside : active.normalize.directory.isBelow projectRoot.normalize := by
    rw [isBelow, List.isPrefixOf_iff_prefix] at below ⊢
    rw [components_directory]
    obtain e | ⟨init, last, e⟩ := List.eq_nil_or_concat active.normalize.components
    · rw [e, List.prefix_nil] at below
      exact absurd (same_iff.mpr (e.trans below.symm)) strict
    · rw [List.concat_eq_append] at e
      rw [e, List.prefix_concat_iff] at below
      rw [e, List.dropLast_concat]
      exact below.resolve_left fun same => strict (same_iff.mpr (e.trans same.symm))
  unfold resolve
  split
  · rename_i document found
    obtain ⟨directory, mem, here⟩ := List.exists_of_findSome?_eq_some found
    obtain ⟨name, qualifies, _, rfl⟩ := inDirectory?_eq_some_iff_least.mp here
    exact isBelow_join (isBelow_of_mem_directories inside mem) (plain.of_mem_list qualifies.listed)
  · exact below

/-- A filter whose root is in normal form, as every project has it, can be asked about all files that the search for a root
document meets. The search takes the directories from that of the active document up to the project root, or up to the top
when the project root is not on the way. It ends with the document in the first of them in which a name qualifies, under
the name that comes first there; and it ends with the active document when no name qualifies in any of them. The order in
which directories list their entries does not matter. From below the project root the search ends below it. -/
theorem resolve_eq_nearest (sound : filter.IsSound) (plain : source.tree.IsPlain) (options : Options)
    (active projectRoot : Path) :
    let found := resolve source filter options active projectRoot
    isLost source filter options active projectRoot = false ∧
    (∃! way, Way projectRoot.normalize active.normalize.parent? way) ∧
    (∀ way, Way projectRoot.normalize active.normalize.parent? way →
      (∀ document, found = ⟨document, .ancestor⟩ ↔
        ∃ nearer directory further name, way = nearer ++ directory :: further ∧
          (∀ d ∈ nearer, ∀ n, ¬ Qualifies source filter options d n) ∧
          Qualifies source filter options directory name ∧
          (∀ n, Qualifies source filter options directory n → rank options.preferred name < rank options.preferred n ∨
            rank options.preferred name = rank options.preferred n ∧ name ≤ n) ∧
          directory.join ⟨name⟩ = document) ∧
      (found = ⟨active.normalize, .activeDocument⟩ ↔ ∀ d ∈ way, ∀ n, ¬ Qualifies source filter options d n)) ∧
    (∀ other, source.Relists other → resolve other filter options active projectRoot = found) ∧
    (active.normalize.isBelow projectRoot.normalize → ¬ active.normalize.same projectRoot.normalize →
      found.document.isBelow projectRoot.normalize) := by
  intro found
  have steps := way_directories active projectRoot
  refine ⟨isLost_eq_false sound plain options active projectRoot, ⟨_, steps, fun way other => other.unique steps⟩,
    fun way other => ?_, fun other relists => ?_, isBelow_resolve plain⟩
  · obtain rfl := other.unique steps
    constructor
    · intro document
      simp only [found, resolve_eq_ancestor_iff, inDirectory?_eq_none_iff, inDirectory?_eq_some_iff_least]
      constructor
      · rintro ⟨nearer, directory, further, e, fail, name, qualifies, least, here⟩
        exact ⟨nearer, directory, further, name, e, fail, qualifies, least, here⟩
      · rintro ⟨nearer, directory, further, name, e, fail, qualifies, least, here⟩
        exact ⟨nearer, directory, further, e, fail, name, qualifies, least, here⟩
    · simp only [found, resolve_eq_activeDocument_iff, inDirectory?_eq_none_iff]
  · exact resolve_eq_of_sameShape relists.sameShape fun _ _ _ _ _ => relists.read_eq _

/-- A root document in the directory above that of the active document, from either listing of the directories. -/
theorem resolve_eq_nearest_above :
    let entries : List (Location × Node) := [(["w"], .directory), (["w", "main.typ"], .file "#include \"s/a.typ\"".toUTF8),
      (["w", "s"], .directory), (["w", "s", "a.typ"], .file "".toUTF8)]
    let source : Source := .ofTree ⟨entries, []⟩
    let other : Source := .ofTree ⟨entries.reverse, []⟩
    let options : Options := ⟨"typ", []⟩
    let active : Path := ⟨"/w/s/a.typ"⟩
    ∃ filter, Filter.make source.tree ⟨"/w"⟩ ["x"] false = .ok filter ∧ filter.IsSound ∧ source.tree.IsPlain ∧
      source.Relists other ∧ isLost source filter options active ⟨"/w"⟩ = false ∧
      Way ⟨"/w"⟩ active.normalize.parent? [⟨"/w/s"⟩, ⟨"/w"⟩] ∧
      resolve source filter options active ⟨"/w"⟩ = ⟨⟨"/w/main.typ"⟩, .ancestor⟩ ∧
      resolve other filter options active ⟨"/w"⟩ = ⟨⟨"/w/main.typ"⟩, .ancestor⟩ ∧
      (⟨"/w/main.typ"⟩ : Path).isBelow ⟨"/w"⟩ := by
  intro entries source other options active
  have computed : (Filter.make source.tree ⟨"/w"⟩ ["x"] false).toOption.map
      (fun filter => resolve source filter options active ⟨"/w"⟩) = some ⟨⟨"/w/main.typ"⟩, .ancestor⟩ := by decide +kernel
  cases made : Filter.make source.tree ⟨"/w"⟩ ["x"] false with
  | error e => simp [made, Except.toOption] at computed
  | ok filter =>
    rw [made] at computed
    have sound : filter.IsSound := .inr ⟨source.tree, ⟨"/w"⟩, ["x"], false, by decide, made⟩
    have plain : source.tree.IsPlain := by decide +kernel
    have relists : source.Relists other := .of_perm (List.reverse_perm entries).symm (by decide) [] .empty
    have found : resolve source filter options active ⟨"/w"⟩ = ⟨⟨"/w/main.typ"⟩, .ancestor⟩ := Option.some.inj computed
    have above : active.normalize.parent? = some ⟨"/w/s"⟩ := by decide +kernel
    have up : Way ⟨"/w"⟩ (⟨"/w/s"⟩ : Path).parent? [⟨"/w"⟩] := .stop (by decide)
    have way : Way ⟨"/w"⟩ active.normalize.parent? [⟨"/w/s"⟩, ⟨"/w"⟩] := above ▸ .up (by decide) up
    obtain ⟨notLost, _, _, relisted, inside⟩ := resolve_eq_nearest sound plain options active ⟨"/w"⟩
    have below := inside (by decide) (by decide)
    rw [found] at below
    exact ⟨filter, rfl, sound, plain, relists, notLost, way, found, (relisted other relists).trans found, below⟩

/-- A filter whose root is written with two slashes cannot be asked about a file below it. -/
theorem isLost_of_two_slashes :
    ¬ ∀ (source : Source) (root : Path) (patterns : List String) (filter : Filter) (options : Options) (active : Path),
      source.tree.IsPlain → Filter.make source.tree root patterns false = .ok filter →
      isLost source filter options active root = false := by
  intro h
  let source : Source := .ofTree ⟨[(["w"], .directory), (["w", "d"], .directory), (["w", "d", "a.typ"], .file "".toUTF8)], []⟩
  have computed : (Filter.make source.tree ⟨"/w//d"⟩ ["x"] false).toOption.map
      (fun filter => isLost source filter ⟨"typ", []⟩ ⟨"/w/d/a.typ"⟩ ⟨"/w//d"⟩) = some true := by decide +kernel
  cases made : Filter.make source.tree ⟨"/w//d"⟩ ["x"] false with
  | error e => simp [made, Except.toOption] at computed
  | ok filter =>
    rw [made] at computed
    have found := h source ⟨"/w//d"⟩ ["x"] filter ⟨"typ", []⟩ ⟨"/w/d/a.typ"⟩ (by decide +kernel) made
    simp [Except.toOption, found] at computed

end Root

end FigureGallery
