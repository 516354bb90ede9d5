import FigureGallery.Proofs.Document.Source
import FigureGallery.Proofs.Include.Walker

/-!
# What a walk visits

A walk comes to an end on its own and lists the least set of documents that holds its start and is closed under the
includes of its members, each of them once. From an absolute start every listed path is absolute and in normal form,
so that no file is listed under two spellings. The exception is an open document whose path is `/`: it lies in no
directory, and what it includes is looked for from the working directory.
-/

namespace FigureGallery.Include

open FileTree Markup FigureGallery.Path

/-- A name with an extension behind it that does not start with a dot. -/
lemma plain_dotted {name : List Char} (noSlash : '/' ∉ name) {c : Char} {cs : List Char} (not_dot : c ≠ '.')
    (rest : '/' ∉ c :: cs) : Plain (name ++ '.' :: c :: cs) := by
  refine ⟨?_, ?_, ?_⟩
  · cases name <;> simp [isIdle]
  · rcases name with _ | ⟨d, _ | ⟨d', ds⟩⟩ <;> simp [not_dot]
  · simp only [List.mem_append, List.mem_cons, not_or] at rest ⊢
    exact ⟨noSlash, by decide, rest⟩

/-- The bare extension of documents does not start with a dot. -/
lemma head?_bareExtension (extension : String) : (bareExtension extension).toList.head? ≠ some '.' := by
  rw [bareExtension, String.toList_ofList]
  intro dot
  have := List.head?_dropWhile_not (· == '.') extension.toList
  simp [dot] at this

/-- The file name with the extension of documents, for a name that lacks it. -/
lemma plain_extended {name : List Char} (noSlash : '/' ∉ name) {extension : String}
    (bare : bareExtension extension ≠ "") (extensionNoSlash : '/' ∉ extension.toList) :
    Plain (name ++ '.' :: (bareExtension extension).toList) := by
  have rest : '/' ∉ (bareExtension extension).toList := by
    rw [bareExtension, String.toList_ofList]
    exact fun mem => extensionNoSlash ((List.dropWhile_sublist _).subset mem)
  have head := head?_bareExtension extension
  obtain ⟨c, cs, e⟩ := List.exists_cons_of_ne_nil (mt String.toList_eq_nil_iff.mp bare)
  rw [e] at head rest ⊢
  exact plain_dotted noSlash (fun dot => head (congrArg some dot)) rest

/-- The path of a location with the extension of documents is the path of a location below the top. -/
lemma withExtension_pathOf {extension : String} (bare : bareExtension extension ≠ "")
    (extensionNoSlash : '/' ∉ extension.toList) {location : Location} (plain : location.IsPlain) :
    ∃ other : Location, other.IsPlain ∧ other ≠ [] ∧ withExtension extension (pathOf location) = pathOf other := by
  have extended (name : String) (noSlash : '/' ∉ name.toList) :
      Plain (name ++ "." ++ bareExtension extension).toList := by
    have e : (name ++ "." ++ bareExtension extension).toList =
        name.toList ++ '.' :: (bareExtension extension).toList := by simp
    rw [e]
    exact plain_extended noSlash bare extensionNoSlash
  unfold withExtension
  split
  · rename_i has
    refine ⟨location, plain, ?_, rfl⟩
    rintro rfl
    simp [hasExtension, extension?, fileName?_pathOf_nil] at has
  · -- The top has no name that the extension could be added to, and gets an entry of that name instead.
    obtain rfl | ⟨init, last, rfl⟩ := List.eq_nil_or_concat location
    · have hn := extended "" (by simp)
      refine ⟨[] ++ ["" ++ "." ++ bareExtension extension], by simpa [Location.IsPlain] using hn, by simp, ?_⟩
      rw [← join_pathOf plain hn, withFileName, fileName?_pathOf_nil]
      rfl
    · rw [List.concat_eq_append] at plain ⊢
      have hn := extended last plain.last.no_slash
      have above := plain.above
      refine ⟨init ++ [last ++ "." ++ bareExtension extension], ?_, by simp, ?_⟩
      · intro name mem
        obtain mem | mem := List.mem_append.mp mem
        · exact above name mem
        · obtain rfl := List.mem_singleton.mp mem
          exact hn
      · rw [← join_pathOf above hn, withFileName, fileName?_pathOf_concat plain, directory_pathOf_concat plain]
        rfl

/-- What an absolute directory or an absolute project root leads to is absolute. -/
lemma exists_resolveReference_eq_pathOf {directory : Path} (absolute : directory.isAbsolute)
    {projectRoot : Option Path} (rooted : ∀ root ∈ projectRoot, root.isAbsolute) (reference : String) :
    ∃ location : Location, location.IsPlain ∧ resolveReference directory reference projectRoot = pathOf location := by
  unfold resolveReference
  split
  · rename_i root _
    exact exists_normalize_eq_pathOf (isAbsolute_join (rooted root rfl) _)
  · exact exists_normalize_eq_pathOf (isAbsolute_join absolute _)

/-- What a reference leads to is in normal form. -/
@[simp]
lemma normalize_resolveReference (directory : Path) (reference : String) (projectRoot : Option Path) :
    (resolveReference directory reference projectRoot).normalize = resolveReference directory reference projectRoot := by
  unfold resolveReference
  split <;> exact normalize_normalize _

variable {source : Source} {options : Options}

/-- A document includes what its references lead to, with the extension of documents. -/
lemma exists_of_mem_includes {document next : Path} (mem : next ∈ (graph source options).includes document) :
    ∃ reference, next = withExtension options.extension
      (resolveReference document.directory reference options.extraction.projectRoot) := by
  obtain ⟨target, _, e⟩ := List.mem_filterMap.mp mem
  rw [resolveTarget] at e
  split at e
  · simp at e
  · exact ⟨_, (Option.some.inj e).symm⟩

/-- What a target names depends on the components of the directory only. -/
lemma resolveTarget_congr {directory directory' : Path} (h : directory.components = directory'.components)
    (target : List Char) : resolveTarget options directory target = resolveTarget options directory' target := by
  have resolved (reference : String) (root : Option Path) :
      resolveReference directory reference root = resolveReference directory' reference root := by
    unfold resolveReference
    split
    · rfl
    · exact normalize_congr (components_join_congr h _)
  rw [resolveTarget, resolveTarget, resolved]

/-- The include graph of a source does not tell spellings apart. -/
lemma graph_congruent : (graph source options).Congruent := by
  intro p q same hp hq
  have h : p.components = q.components := same_iff.mp same
  have targets : targetsAt source p = targetsAt source q := by
    rw [targetsAt, targetsAt, Source.read_congr h hp hq]
  have directory : p.directory.components = q.directory.components := by
    rw [components_directory, components_directory, h]
  change (targetsAt source p).filterMap _ = (targetsAt source q).filterMap _
  rw [targets, funext (resolveTarget_congr directory)]

/-- The depth bound of a source bounds how many documents exist. -/
lemma graph_bounded : (graph source options).Bounded (depthBound source) := by
  intro documents distinct reachable
  refine Source.length_le_of_reachable ?_ reachable
  rw [List.Nodup, List.pairwise_map]
  exact distinct.imp fun h e => h (same_iff.mpr e)

/-- With at least as much depth as the bound, a walk is a search from its start. -/
lemma walks_start (source : Source) (options : Options) (start : Path) {depth : Nat}
    (enough : depthBound source ≤ depth) :
    Walks source options .start [start.normalize] (visit source options depth .start start.normalize) :=
  walks_visit graph_bounded depth .start start.normalize .start (by simpa [Walker.start] using enough)

/-- A walk is consistent, and its documents are those of a search. -/
lemma search_walk (source : Source) (options : Options) (start : Path) :
    (graph source options).Search [] [start.normalize] (walk source options start).documents.reverse ∧
      (walk source options start).extraction = extractAll source options (walk source options start).documents := by
  obtain ⟨ok, run⟩ := walks_start source options start (Nat.le_refl (depthBound source))
  refine ⟨?_, ok.extraction⟩
  rw [walk, ok.documents, List.reverse_reverse]
  exact run

/-- A walk says something about the listed documents only. -/
lemma mem_walk_of_said {start : Path} :
    (∀ f ∈ (walk source options start).extraction.figures, f.sourcePath ∈ (walk source options start).documents) ∧
      ∀ d ∈ (walk source options start).extraction.diagnostics, d.file ∈ (walk source options start).documents := by
  rw [(search_walk source options start).2, extractAll]
  refine ⟨fun f mem => ?_, fun d mem => ?_⟩
  · obtain ⟨document, listed, yields⟩ := List.mem_flatMap.mp mem
    rwa [List.map_inj_left.mp extract_document.1 f yields]
  · obtain ⟨document, listed, yields⟩ := List.mem_flatMap.mp mem
    rwa [List.map_inj_left.mp extract_document.2 d yields]

/-- More depth than the bound changes nothing. -/
lemma walk_eq_of_depth (start : Path) {depth : Nat} (enough : depthBound source ≤ depth) :
    (visit source options depth .start start.normalize).walk = walk source options start := by
  obtain ⟨ok, run⟩ := walks_start source options start enough
  obtain ⟨ok', run'⟩ := walks_start source options start (Nat.le_refl (depthBound source))
  have documents := run.unique run'
  have e : (visit source options depth .start start.normalize).walk.documents = (walk source options start).documents := by
    rw [walk, ok.documents, ok'.documents, documents]
  have e' : (visit source options depth .start start.normalize).walk.extraction =
      (walk source options start).extraction := by
    rw [ok.extraction, e]
    exact ok'.extraction.symm
  exact congrArg₂ Walk.mk e e'

/-- Every listed document is behind the start. -/
lemma reached_of_mem_walk {start d : Path} (mem : d ∈ (walk source options start).documents) :
    (graph source options).Reached start.normalize d := by
  obtain ⟨run, _⟩ := search_walk source options start
  obtain h | ⟨p, hp, reached⟩ := run.reached d (List.mem_reverse.mpr mem)
  · simp at h
  · obtain rfl := List.mem_singleton.mp hp
    exact reached

/-- Every document behind the start is listed. -/
lemma met_walk_of_reached {start p : Path} (reached : (graph source options).Reached start.normalize p) :
    Met (walk source options start).documents p := by
  obtain ⟨run, _⟩ := search_walk source options start
  obtain ⟨d, mem, same⟩ := run.complete graph_congruent reached
  exact ⟨d, List.mem_reverse.mp mem, same⟩

/-- A walk lists nothing when its start is neither open nor a file. -/
lemma walk_eq_nil_iff {start : Path} : (walk source options start).documents = [] ↔ ¬ source.isReachable start.normalize := by
  obtain ⟨run, _⟩ := search_walk source options start
  obtain ⟨missing, e⟩ | ⟨reachable, below⟩ := run.start_cases
  · exact iff_of_true (List.reverse_eq_nil_iff.mp e) missing
  · obtain ⟨found, e⟩ := below.extends
    refine iff_of_false (fun nothing => ?_) (not_not_intro reachable)
    simp [nothing] at e

/-- A walk lists its start alone when the start includes no other document that exists. -/
lemma walk_eq_singleton_iff {start : Path} : (walk source options start).documents = [start.normalize] ↔
    source.isReachable start.normalize ∧
      ∀ next ∈ (graph source options).includes start.normalize, source.isReachable next → next.same start.normalize := by
  obtain ⟨run, _⟩ := search_walk source options start
  rw [← List.reverse_inj, List.reverse_singleton]
  obtain ⟨missing, e⟩ | ⟨reachable, below⟩ := run.start_cases
  · refine iff_of_false (fun alone => ?_) fun h => missing h.1
    simp [e] at alone
  · constructor
    · intro alone
      rw [alone] at below
      refine ⟨reachable, fun next mem there => ?_⟩
      obtain ⟨d, listed, same⟩ := below.closed.1 next mem there
      obtain rfl := List.mem_singleton.mp listed
      exact same
    · intro ⟨_, other⟩
      refine below.eq_of_forall_passed fun next mem => ?_
      by_cases there : source.isReachable next
      · exact .inl ⟨_, List.mem_singleton_self _, other next mem there⟩
      · exact .inr there

/-- No document is listed twice. -/
lemma distinct_walk (source : Source) (options : Options) (start : Path) :
    Distinct (walk source options start).documents := by
  obtain ⟨run, _⟩ := search_walk source options start
  have distinct := run.distinct .nil
  rw [Distinct, List.pairwise_reverse] at distinct
  exact distinct.imp fun h same => h (same_iff.mpr (same_iff.mp same).symm)

/-- The documents behind a start depend on which targets the documents have, not on their order. -/
lemma reached_congr {other : Source} (reachable : ∀ p, other.isReachable p = source.isReachable p)
    (targets : ∀ p target, target ∈ targetsAt other p ↔ target ∈ targetsAt source p) {start p : Path}
    (reached : (graph other options).Reached start p) : (graph source options).Reached start p := by
  induction reached with
  | start h => exact .start ((reachable _).symm.trans h)
  | @step document next _ mem h ih =>
    refine .step ih ?_ ((reachable _).symm.trans h)
    obtain ⟨target, ht, e⟩ := List.mem_filterMap.mp mem
    exact List.mem_filterMap.mpr ⟨target, (targets document target).mp ht, e⟩

/-- What one source lists, another one with the same targets in any order lists as well. -/
lemma met_walk_congr {other : Source} (reachable : ∀ p, other.isReachable p = source.isReachable p)
    (targets : ∀ p target, target ∈ targetsAt other p ↔ target ∈ targetsAt source p) {start p : Path}
    (met : Met (walk other options start).documents p) : Met (walk source options start).documents p := by
  obtain ⟨d, mem, same⟩ := met
  obtain ⟨e, mem', same'⟩ := met_walk_of_reached (reached_congr reachable targets (reached_of_mem_walk mem))
  exact ⟨e, mem', same_iff.mpr ((same_iff.mp same).trans (same_iff.mp same'))⟩

/-- From an absolute start, everything behind it is the path of a location below the top, unless the top is open. -/
lemma exists_pathOf_of_reached {start : Path} (absolute : start.isAbsolute)
    (rooted : ∀ root ∈ options.extraction.projectRoot, root.isAbsolute)
    (bare : bareExtension options.extension ≠ "") (noSlash : '/' ∉ options.extension.toList)
    (notTop : start.normalize = pathOf [] → ¬ source.buffers.contains (pathOf [])) {p : Path}
    (reached : (graph source options).Reached start.normalize p) :
    ∃ location : Location, location.IsPlain ∧ location ≠ [] ∧ p = pathOf location := by
  induction reached with
  | start reachable =>
    obtain ⟨location, plain, e⟩ := exists_normalize_eq_pathOf absolute
    refine ⟨location, plain, ?_, e⟩
    rintro rfl
    change source.isReachable start.normalize at reachable
    rw [e, Source.isReachable, isFile_top, Bool.or_false] at reachable
    exact notTop e reachable
  | @step document next _ mem _ ih =>
    obtain ⟨location, plain, below, rfl⟩ := ih
    -- Below the top a document lies in a directory with a location, from which its targets are looked for.
    obtain ⟨reference, rfl⟩ := exists_of_mem_includes mem
    obtain h | ⟨init, last, rfl⟩ := List.eq_nil_or_concat location
    · exact absurd h below
    · rw [List.concat_eq_append] at plain ⊢
      obtain ⟨resolved, resolved_plain, h⟩ := exists_resolveReference_eq_pathOf (isAbsolute_pathOf init) rooted reference
      rw [directory_pathOf_concat plain, h]
      exact withExtension_pathOf bare noSlash resolved_plain

/-- A walk comes to an end without any bound on its depth, and lists every document behind its start once and nothing
else, whatever the order of the directives. Walks from absolute starts list absolute paths in normal form, and no file
twice, unless they start at an open document whose path is `/`. -/
theorem walk_lists_least_closed_set (source : Source) (options : Options) (start : Path) :
    (∀ depth, depthBound source ≤ depth →
      (visit source options depth .start start.normalize).walk = walk source options start) ∧
    (graph source options).Search [] [start.normalize] (walk source options start).documents.reverse ∧
    Distinct (walk source options start).documents ∧
    (∀ d ∈ (walk source options start).documents, (graph source options).Reached start.normalize d) ∧
    (∀ p, (graph source options).Reached start.normalize p → Met (walk source options start).documents p) ∧
    (∀ other : Source, (∀ p, other.isReachable p = source.isReachable p) →
      (∀ p target, target ∈ targetsAt other p ↔ target ∈ targetsAt source p) →
      ∀ p, Met (walk other options start).documents p ↔ Met (walk source options start).documents p) ∧
    (start.isAbsolute → (∀ root ∈ options.extraction.projectRoot, root.isAbsolute) →
      bareExtension options.extension ≠ "" → '/' ∉ options.extension.toList →
      (start.normalize = ⟨"/"⟩ → ¬ source.buffers.contains ⟨"/"⟩) →
      (∀ d ∈ (walk source options start).documents, d.isAbsolute ∧ d.normalize = d) ∧
      ∀ d ∈ (walk source options start).documents, ∀ e ∈ (walk source options start).documents,
        ∀ location, source.tree.locate d = .ok location → source.tree.locate e = .ok location → d = e) := by
  refine ⟨fun depth => walk_eq_of_depth start, (search_walk source options start).1, distinct_walk source options start,
    fun d => reached_of_mem_walk, fun p => met_walk_of_reached, fun other reachable targets p => ⟨?_, ?_⟩, ?_⟩
  · exact met_walk_congr reachable targets
  · exact met_walk_congr (fun p => (reachable p).symm) fun p target => (targets p target).symm
  · intro absolute rooted bare noSlash notTop
    have located := fun d mem =>
      exists_pathOf_of_reached absolute rooted bare noSlash notTop (reached_of_mem_walk (d := d) mem)
    refine ⟨fun d mem => ?_, fun d hd e he place hplace hplace' => ?_⟩
    · obtain ⟨location, plain, _, rfl⟩ := located d mem
      exact ⟨isAbsolute_pathOf location, normalize_pathOf plain⟩
    · obtain ⟨location, plain, _, rfl⟩ := located d hd
      obtain ⟨location', plain', _, rfl⟩ := located e he
      rw [← locate_pathOf plain hplace, ← locate_pathOf plain' hplace']

/-- Options with the usual extension and no project root. -/
def usualOptions : Options := ⟨"typ", ⟨200, none⟩⟩

/-- Two files that include each other under several spellings, and one of them itself. -/
def roundabout : Source :=
  ⟨⟨[(["w"], .directory), (["w", "a.typ"], .file "#include \"b\"\n#include \"./b.typ\"\n#include \"@x/y\"".toUTF8),
      (["w", "b.typ"], .file "#include \"../w/a.typ\"\n#include \"b\"".toUTF8)], []⟩, .empty⟩

/-- The start is absolute but not in normal form, and each file is listed once. -/
theorem walk_lists_least_closed_set_roundabout :
    (walk roundabout usualOptions ⟨"/w/../w//a.typ"⟩).documents = [⟨"/w/a.typ"⟩, ⟨"/w/b.typ"⟩] ∧
      (⟨"/w/../w//a.typ"⟩ : Path).isAbsolute ∧ (∀ root ∈ usualOptions.extraction.projectRoot, root.isAbsolute) ∧
      bareExtension usualOptions.extension ≠ "" ∧ '/' ∉ usualOptions.extension.toList ∧
      (⟨"/w/../w//a.typ"⟩ : Path).normalize ≠ ⟨"/"⟩ ∧
      (∀ d ∈ (walk roundabout usualOptions ⟨"/w/../w//a.typ"⟩).documents, d.isAbsolute ∧ d.normalize = d) := by
  have rooted : ∀ root ∈ usualOptions.extraction.projectRoot, root.isAbsolute := by simp [usualOptions]
  have notTop : (⟨"/w/../w//a.typ"⟩ : Path).normalize ≠ ⟨"/"⟩ := by decide +kernel
  obtain ⟨_, _, _, _, _, _, located⟩ := walk_lists_least_closed_set roundabout usualOptions ⟨"/w/../w//a.typ"⟩
  refine ⟨by decide +kernel, by decide, rooted, by decide, by decide, notTop, ?_⟩
  exact (located (by decide) rooted (by decide) (by decide) fun e => absurd e notTop).1

/-- An open document whose path is `/`, with an include that is open in the working directory. -/
def openTop : Source :=
  ⟨⟨[], []⟩, ⟨[([.root], "#include \"a.typ\""), ([.name "a.typ"], "")]⟩⟩

/-- A walk from an open document whose path is `/` may list a relative path. -/
theorem not_isAbsolute_of_open_top :
    ¬ ∀ (source : Source) (options : Options) (start : Path), start.isAbsolute →
      (∀ root ∈ options.extraction.projectRoot, root.isAbsolute) → bareExtension options.extension ≠ "" →
      '/' ∉ options.extension.toList →
      ∀ d ∈ (walk source options start).documents, d.isAbsolute ∧ d.normalize = d := by
  intro h
  have listed : (walk openTop usualOptions ⟨"/"⟩).documents = [⟨"/"⟩, ⟨"a.typ"⟩] := by decide +kernel
  have absolute := (h openTop usualOptions ⟨"/"⟩ (by decide) (by simp [usualOptions]) (by decide) (by decide)
    ⟨"a.typ"⟩ (by simp [listed])).1
  exact absurd absolute (by decide)

end FigureGallery.Include
