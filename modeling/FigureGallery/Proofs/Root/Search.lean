import FigureGallery.Proofs.FileTree.Shape
import FigureGallery.Proofs.Path.FileName
import FigureGallery.Proofs.Root.Way
import Mathlib.Data.List.Find

/-!
# What the search for a root document depends on

In a directory the search finds the first of the candidates that have an include directive, in an order in which no two
names are level. So it depends on which candidates there are and on what they say, and not on how the directory happens
to be listed. From a document of the project only directories of the project are searched. The document that the search
ends with has the extension of documents, as the active document has.
-/

namespace FigureGallery.Root

open Exclusion FileTree FigureGallery.Path

section Order

variable {preferred : List String} {a b c : String}

/-- A name comes before another when its place is in front, or the places are level and the names are in order. -/
lemma comesFirst_iff : comesFirst preferred a b ↔
    rank preferred a < rank preferred b ∨ rank preferred a = rank preferred b ∧ a ≤ b := by
  simp [comesFirst]

/-- Of two names one comes first. -/
lemma comesFirst_total : comesFirst preferred a b ∨ comesFirst preferred b a := by
  rw [comesFirst_iff, comesFirst_iff]
  obtain less | level | more := Nat.lt_trichotomy (rank preferred a) (rank preferred b)
  · exact .inl (.inl less)
  · exact (String.le_total a b).imp (fun h => .inr ⟨level, h⟩) fun h => .inr ⟨level.symm, h⟩
  · exact .inr (.inl more)

/-- What comes before a name comes before all that the name comes before. -/
lemma comesFirst_trans (first : comesFirst preferred a b) (second : comesFirst preferred b c) :
    comesFirst preferred a c := by
  rw [comesFirst_iff] at first second ⊢
  obtain less | ⟨level, h⟩ := first
  · obtain less' | ⟨level', _⟩ := second
    · exact .inl (less.trans less')
    · exact .inl (level' ▸ less)
  · obtain less' | ⟨level', h'⟩ := second
    · exact .inl (level ▸ less')
    · exact .inr ⟨level.trans level', String.le_trans h h'⟩

/-- No two names are level. -/
lemma comesFirst_antisymm (first : comesFirst preferred a b) (second : comesFirst preferred b a) : a = b := by
  rw [comesFirst_iff] at first second
  obtain less | ⟨level, h⟩ := first
  · obtain more | ⟨level, _⟩ := second
    · omega
    · omega
  · obtain more | ⟨_, h'⟩ := second
    · omega
    · exact String.le_antisymm h h'

/-- The first name in order that satisfies a test comes before all others that satisfy it. -/
lemma find?_mergeSort_eq_some_iff {names : List String} {test : String → Bool} :
    (names.mergeSort (comesFirst preferred)).find? test = some a ↔
      a ∈ names ∧ test a ∧ ∀ b ∈ names, test b → comesFirst preferred a b := by
  have sorted : (names.mergeSort (comesFirst preferred)).Pairwise fun a b => comesFirst preferred a b :=
    List.pairwise_mergeSort (fun a b c => @comesFirst_trans preferred a b c)
      (fun a b => Bool.or_eq_true_iff.mpr (@comesFirst_total preferred a b)) names
  have first {a : String} (found : (names.mergeSort (comesFirst preferred)).find? test = some a) :
      a ∈ names ∧ test a ∧ ∀ b ∈ names, test b → comesFirst preferred a b := by
    have mem := List.mem_mergeSort.mp (List.mem_of_find?_eq_some found)
    obtain ⟨holds, before, after, e, fail⟩ := List.find?_eq_some_iff_append.mp found
    refine ⟨mem, holds, fun b hb hold => ?_⟩
    have hb : b ∈ names.mergeSort (comesFirst preferred) := List.mem_mergeSort.mpr hb
    rw [e] at hb sorted
    rw [List.pairwise_append, List.pairwise_cons] at sorted
    obtain hb | hb := List.mem_append.mp hb
    · exact absurd hold (by simpa using fail b hb)
    · obtain rfl | hb := List.mem_cons.mp hb
      · exact comesFirst_total.elim id id
      · exact sorted.2.1.1 b hb
  refine ⟨first, fun ⟨mem, holds, least⟩ => ?_⟩
  cases found : (names.mergeSort (comesFirst preferred)).find? test with
  | none => exact absurd holds (List.find?_eq_none.mp found a (List.mem_mergeSort.mpr mem))
  | some b =>
    obtain ⟨mem', holds', least'⟩ := first found
    rw [comesFirst_antisymm (least b mem' holds') (least' a mem holds)]

end Order

/-- The names of the files in a directory that may be root documents. -/
def candidates (tree : FileTree) (filter : Filter) (options : Options) (directory : Path) : List String :=
  (documentNames tree options directory).filter fun name => !filter.excludes tree (directory.join ⟨name⟩)

variable {source other : Source} {filter : Filter} {options : Options} {directory document active projectRoot : Path}

/-- A name is a candidate when it is listed, has the extension of documents, and is that of a file that is not
excluded. -/
lemma mem_candidates_iff {tree : FileTree} {name : String} : name ∈ candidates tree filter options directory ↔
    (name ∈ tree.list directory ∧ (directory.join ⟨name⟩).hasExtension options.extension ∧
      tree.isFile (directory.join ⟨name⟩)) ∧ filter.excludes tree (directory.join ⟨name⟩) = false := by
  rw [candidates, documentNames, List.mem_filter, List.mem_filter, Bool.and_eq_true, Bool.not_eq_true']

/-- The root document in a directory is the first candidate that has an include directive. -/
lemma inDirectory?_eq_some_iff : inDirectory? source filter options directory = some document ↔
    ∃ name ∈ candidates source.tree filter options directory, directory.join ⟨name⟩ = document ∧
      hasDirective source document ∧ ∀ b ∈ candidates source.tree filter options directory,
        hasDirective source (directory.join ⟨b⟩) → comesFirst options.preferred name b := by
  unfold inDirectory?
  rw [List.find?_map, Option.map_eq_some_iff]
  constructor
  · rintro ⟨name, found, rfl⟩
    obtain ⟨mem, holds, least⟩ := find?_mergeSort_eq_some_iff.mp found
    exact ⟨name, mem, rfl, holds, least⟩
  · rintro ⟨name, mem, rfl, holds, least⟩
    exact ⟨name, find?_mergeSort_eq_some_iff.mpr ⟨mem, holds, least⟩, rfl⟩

/-- What is taken from a list is in it. -/
lemma mem_of_mem_through {α : Type} {test : α → Bool} {a : α} {as : List α} (mem : a ∈ through test as) : a ∈ as := by
  induction as with
  | nil => exact mem
  | cons first as ih =>
    rw [through] at mem
    split at mem
    · exact List.mem_cons.mpr (.inl (List.mem_singleton.mp mem))
    · exact List.mem_cons.mpr ((List.mem_cons.mp mem).imp_right ih)

/-- Only directories above the active document are searched. -/
lemma mem_ancestors_of_mem_directories (mem : directory ∈ directories active projectRoot) :
    directory ∈ active.normalize.ancestors :=
  mem_of_mem_through mem

/-- The directories above an absolute document are those of locations. -/
lemma exists_pathOf_of_mem_directories (absolute : active.isAbsolute)
    (mem : directory ∈ directories active projectRoot) :
    ∃ location : Location, location.IsPlain ∧ directory = pathOf location := by
  obtain ⟨location, plain, e⟩ := exists_normalize_eq_pathOf absolute
  have above := mem_ancestors_of_mem_directories mem
  rw [e] at above
  exact exists_of_mem_ancestors plain above

/-- If the active document lies in the project, only directories of the project are searched. -/
lemma isBelow_of_mem_directories (inside : active.normalize.directory.isBelow projectRoot.normalize)
    (mem : directory ∈ directories active projectRoot) : directory.isBelow projectRoot.normalize := by
  refine (way_directories active projectRoot).isBelow (fun first parent => ?_) directory mem
  rwa [Path.directory, parent] at inside

/-- Sources with the same candidates in a directory, of the same texts, have the same root document there. -/
lemma inDirectory?_congr
    (names : ∀ name, name ∈ candidates other.tree filter options directory ↔
      name ∈ candidates source.tree filter options directory)
    (texts : ∀ name ∈ candidates source.tree filter options directory,
      other.read (directory.join ⟨name⟩) = source.read (directory.join ⟨name⟩)) :
    inDirectory? other filter options directory = inDirectory? source filter options directory := by
  have directive : ∀ name ∈ candidates source.tree filter options directory,
      hasDirective other (directory.join ⟨name⟩) = hasDirective source (directory.join ⟨name⟩) := by
    intro name mem
    rw [hasDirective, hasDirective, texts name mem]
  refine Option.ext fun document => ?_
  rw [inDirectory?_eq_some_iff, inDirectory?_eq_some_iff]
  refine exists_congr fun name => ?_
  rw [names]
  refine and_congr_right fun mem => and_congr_right ?_
  rintro rfl
  rw [directive name mem]
  refine and_congr_right fun _ => forall_congr' fun b => ?_
  rw [names]
  exact forall_congr' fun hb => by rw [directive b hb]

/-- Sources with the same root documents in all directories to search have the same root document. -/
lemma resolve_congr (h : ∀ directory ∈ directories active projectRoot,
      inDirectory? other filter options directory = inDirectory? source filter options directory) :
    resolve other filter options active projectRoot = resolve source filter options active projectRoot := by
  have found : (directories active projectRoot).findSome? (inDirectory? other filter options) =
      (directories active projectRoot).findSome? (inDirectory? source filter options) := by
    generalize directories active projectRoot = above at h ⊢
    induction above with
    | nil => rfl
    | cons directory above ih =>
      obtain ⟨first, rest⟩ := List.forall_mem_cons.mp h
      rw [List.findSome?_cons, List.findSome?_cons, first, ih rest]
  unfold resolve
  rw [found]

/-- Over trees of one shape the root documents are the same, if the documents in the directories to search are read
alike. -/
lemma resolve_eq_of_sameShape (shape : source.tree.SameShape other.tree)
    (read : ∀ directory ∈ directories active projectRoot, ∀ name ∈ source.tree.list directory,
      (directory.join ⟨name⟩).hasExtension options.extension →
        other.read (directory.join ⟨name⟩) = source.read (directory.join ⟨name⟩)) :
    resolve other filter options active projectRoot = resolve source filter options active projectRoot := by
  refine resolve_congr fun directory mem => inDirectory?_congr (fun name => ?_) fun name candidate => ?_
  · rw [mem_candidates_iff, mem_candidates_iff, shape.mem_list_iff, shape.isFile_eq, Filter.excludes, Filter.excludes,
      shape.isDirectory_eq]
  · obtain ⟨⟨listed, named, _⟩, _⟩ := mem_candidates_iff.mp candidate
    exact read directory mem name listed named

/-- A root document has the extension of documents if the active document has it. -/
lemma hasExtension_resolve (has : active.hasExtension options.extension) :
    (resolve source filter options active projectRoot).document.hasExtension options.extension := by
  unfold resolve
  split
  · rename_i document found
    obtain ⟨directory, _, found⟩ := List.exists_of_findSome?_eq_some found
    obtain ⟨name, mem, rfl, _⟩ := inDirectory?_eq_some_iff.mp found
    exact (mem_candidates_iff.mp mem).1.2.1
  · exact hasExtension_of_fileName?_eq has fun _ => fileName?_normalize

/-- A root document is absolute if the active document is. -/
lemma isAbsolute_resolve (absolute : active.isAbsolute) :
    (resolve source filter options active projectRoot).document.isAbsolute := by
  unfold resolve
  split
  · rename_i document found
    obtain ⟨directory, mem, found⟩ := List.exists_of_findSome?_eq_some found
    obtain ⟨name, _, rfl, _⟩ := inDirectory?_eq_some_iff.mp found
    obtain ⟨location, _, rfl⟩ := exists_pathOf_of_mem_directories absolute mem
    exact isAbsolute_join (isAbsolute_pathOf location) _
  · rwa [isAbsolute_normalize]

/-- The documents that a search asks, in its order: those of a nearer directory before those of one further up. -/
def queue (tree : FileTree) (filter : Filter) (options : Options) (active projectRoot : Path) : List Path :=
  (directories active projectRoot).flatMap fun directory =>
    ((candidates tree filter options directory).mergeSort (comesFirst options.preferred)).map fun name =>
      directory.join ⟨name⟩

/-- The root document, when the first document in a queue that qualifies is taken. -/
def firstOf (qualifies : Path → Bool) (queue : List Path) (active : Path) : Resolution :=
  match queue.find? qualifies with
  | some document => ⟨document, .ancestor⟩
  | none => ⟨active.normalize, .activeDocument⟩

/-- A search takes the first document in its queue that has an include directive. -/
lemma resolve_eq_firstOf : resolve source filter options active projectRoot =
    firstOf (hasDirective source) (queue source.tree filter options active projectRoot) active := by
  unfold resolve firstOf queue
  rw [List.find?_flatMap]
  rfl

/-- With a stricter test the same document is found just when the one that was found passes it. -/
lemma firstOf_eq_iff {strict lax : Path → Bool} (weaker : ∀ d, strict d → lax d) (queue : List Path) (active : Path) :
    firstOf strict queue active = firstOf lax queue active ↔
      (firstOf lax queue active).isFallback ∨ strict (firstOf lax queue active).document := by
  unfold firstOf
  cases found : queue.find? lax with
  | none =>
    have none : queue.find? strict = none :=
      List.find?_eq_none.mpr fun d mem passes => List.find?_eq_none.mp found d mem (weaker d passes)
    simp only [none, Resolution.isFallback, beq_self_eq_true, true_or]
  | some document =>
    have ancestor : (⟨document, .ancestor⟩ : Resolution).isFallback = false := rfl
    simp only [ancestor, Bool.false_eq_true, false_or]
    constructor
    · intro e
      split at e
      · rename_i passes
        obtain rfl := congrArg Resolution.document e
        exact List.find?_some passes
      · exact absurd (congrArg Resolution.kind e) (by simp)
    · intro passes
      -- What fails the lax test in front of the document fails the strict one.
      obtain ⟨_, before, after, e, fail⟩ := List.find?_eq_some_iff_append.mp found
      have here : queue.find? strict = some document :=
        List.find?_eq_some_iff_append.mpr ⟨passes, before, after, e, fun d mem => by
          have := fail d mem
          rw [Bool.not_eq_true'] at this ⊢
          exact Bool.eq_false_iff.mpr fun h => Bool.eq_false_iff.mp this (weaker d h)⟩
      rw [here]

end FigureGallery.Root
