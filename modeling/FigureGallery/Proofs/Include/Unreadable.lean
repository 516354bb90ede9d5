import FigureGallery.Proofs.Include.Agreement
import FigureGallery.Proofs.Include.Spelling

/-!
# Walks past an unreadable document

When a file loses its text, a walk loses what it came across only through this file, and nothing else. The walk visits its
documents in another order then, as those that it first met through the file are met later on, but what it lists can be
told from the graph: the documents that are reached on ways that end at the file or pass it by. A file counts once for each
of the paths that it is met under, and from an absolute start there is one such path.
-/

namespace FigureGallery

open FileTree FigureGallery.Path

namespace Include.Graph

/-- A document that can be reached from a start over documents that all exist, without going on from an avoided one. -/
inductive ReachedPast (graph : Graph) (avoided : Path → Prop) (start : Path) : Path → Prop where
  | start :
    graph.isReachable start →
    ReachedPast graph avoided start start
  | step {document next} :
    ReachedPast graph avoided start document →
    ¬ avoided document →
    next ∈ graph.includes document →
    graph.isReachable next →
    ReachedPast graph avoided start next

/-- A graph in which the avoided documents include nothing. -/
structure Cuts (graph : Graph) (avoided : Path → Prop) (other : Graph) : Prop where
  isReachable : ∀ p, other.isReachable p = graph.isReachable p
  leaf : ∀ p, avoided p → other.includes p = []
  kept : ∀ p, ¬ avoided p → other.includes p = graph.includes p

variable {graph other : Graph} {avoided : Path → Prop} {start p : Path}

lemma ReachedPast.reached (past : graph.ReachedPast avoided start p) : graph.Reached start p := by
  induction past with
  | start reachable => exact .start reachable
  | step _ _ mem reachable ih => exact .step ih mem reachable

/-- What is behind a start is reached past the avoided documents, unless one of these is met before. -/
lemma Reached.past_or (reached : graph.Reached start p) :
    graph.ReachedPast avoided start p ∨ ∃ q, avoided q ∧ graph.ReachedPast avoided start q := by
  induction reached with
  | start reachable => exact .inl (.start reachable)
  | @step document next _ mem reachable ih =>
    obtain past | met := ih
    · by_cases h : avoided document
      · exact .inr ⟨document, h, past⟩
      · exact .inl (.step past h mem reachable)
    · exact .inr met

/-- In the other graph everything is reached past the avoided documents. -/
lemma Cuts.reached_iff (cuts : graph.Cuts avoided other) : other.Reached start p ↔ graph.ReachedPast avoided start p := by
  constructor
  · intro reached
    induction reached with
    | start reachable => exact .start (cuts.isReachable _ ▸ reachable)
    | @step document next _ mem reachable ih =>
      have onward : ¬ avoided document := fun h => by simp [cuts.leaf document h] at mem
      exact .step ih onward (cuts.kept document onward ▸ mem) (cuts.isReachable next ▸ reachable)
  · intro past
    induction past with
    | start reachable => exact .start ((cuts.isReachable _).trans reachable)
    | @step document next _ onward mem reachable ih =>
      exact .step ih (by rwa [cuts.kept document onward]) ((cuts.isReachable next).trans reachable)

end Include.Graph

namespace Source

/-- A document is read from the file at a location. -/
def ReadsFrom (source : Source) (location : Location) (p : Path) : Prop :=
  source.buffers.get? p = none ∧ source.tree.locate p = .ok location

/-- A source in which a file has another content. -/
def withContent (source : Source) (location : Location) (content : ByteArray) : Source :=
  ⟨source.tree.set location (.file content), source.buffers⟩

variable {source : Source} {location : Location} {content : ByteArray} {p q : Path}

lemma isReachable_withContent (hasFile : source.tree.HasFile location) (p : Path) :
    (source.withContent location content).isReachable p = source.isReachable p := by
  rw [isReachable, isReachable, withContent, (sameShape_set hasFile content).isFile_eq]

/-- A document that exists is read from the same file under all spellings with the same steps. -/
lemma ReadsFrom.congr (reads : source.ReadsFrom location p) (h : p.components = q.components)
    (reachable : source.isReachable q) : source.ReadsFrom location q := by
  obtain ⟨closed, located⟩ := reads
  have closed' : source.buffers.get? q = none := by rwa [Buffers.get?, ← h]
  rw [isReachable, Buffers.contains, closed', Option.isSome_none, Bool.false_or] at reachable
  obtain ⟨place, located', _⟩ := isFile_iff.mp reachable
  rw [← locate_congr h located located'] at located'
  exact ⟨closed', located'⟩

/-- Documents that are read from elsewhere keep their text. -/
lemma read_withContent_of_not (hasFile : source.tree.HasFile location) (elsewhere : ¬ source.ReadsFrom location p) :
    (source.withContent location content).read p = source.read p := by
  refine read_eq_of_sameShape (sameShape_set hasFile content) fun closed place located => ?_
  rw [get?_set _ hasFile.ne_nil, if_neg]
  rintro rfl
  exact elsewhere ⟨closed, located⟩

/-- A file whose content is no text cannot be read. -/
lemma read_withContent (hasFile : source.tree.HasFile location) (garbled : String.fromUTF8? content = none)
    (reads : source.ReadsFrom location p) : (source.withContent location content).read p = .error .notText := by
  obtain ⟨closed, located⟩ := reads
  have shape := sameShape_set hasFile content
  have isFile : source.tree.isFile p := isFile_iff.mpr ⟨location, located, hasFile⟩
  have entry : (source.tree.set location (.file content)).get? location = some (.file content) := by
    rw [get?_set _ hasFile.ne_nil, if_pos rfl]
  have text : (source.tree.set location (.file content)).readText p = .error .notText := by
    simp only [readText, readBytes, shape.locate_eq, located, entry, garbled]
  rw [read, stored, withContent, closed]
  simp only [shape.isFile_eq, isFile, if_true, text]
  rfl

end Source

/-- What is said about one document. -/
def Extraction.about (extraction : Extraction) (document : Path) : Extraction :=
  ⟨extraction.figures.filter fun f => f.sourcePath = document, extraction.diagnostics.filter fun d => d.file = document⟩

namespace Include

variable {source : Source} {options : Options} {start p q : Path} {location : Location} {content : ByteArray}

/-- What is extracted from several documents is about each of them what this one yields. -/
lemma filter_flatMap_eq {α : Type} (of : α → Path) (yields : Path → List α) (own : ∀ d, ∀ x ∈ yields d, of x = d)
    {documents : List Path} (nodup : documents.Nodup) (mem : p ∈ documents) :
    (documents.flatMap yields).filter (fun x => of x = p) = yields p := by
  obtain ⟨before, after, rfl⟩ := List.append_of_mem mem
  have alone : p ∉ before ∧ p ∉ after := by
    rw [List.nodup_middle, List.nodup_cons, List.mem_append, not_or] at nodup
    exact nodup.1
  have others {documents : List Path} (absent : p ∉ documents) :
      (documents.flatMap yields).filter (fun x => of x = p) = [] := by
    refine List.filter_eq_nil_iff.mpr fun x hx => ?_
    obtain ⟨d, hd, yielded⟩ := List.mem_flatMap.mp hx
    rw [own d x yielded, decide_eq_true_iff]
    rintro rfl
    exact absent hd
  have all : (yields p).filter (fun x => of x = p) = yields p :=
    List.filter_eq_self.mpr fun x hx => decide_eq_true (own p x hx)
  rw [List.flatMap_append, List.flatMap_cons, List.filter_append, List.filter_append, others alone.1, others alone.2, all,
    List.nil_append, List.append_nil]

/-- A walk says about each listed document what this document yields. -/
lemma about_walk (mem : p ∈ (walk source options start).documents) :
    (walk source options start).extraction.about p = extract source options p := by
  have nodup : (walk source options start).documents.Nodup :=
    (distinct_walk source options start).imp fun apart e => apart (same_iff.mpr (congrArg Path.components e))
  have own (d : Path) := @extract_document source options d
  rw [(search_walk source options start).2, extractAll, Extraction.about,
    filter_flatMap_eq Figure.sourcePath _ (fun d => List.map_inj_left.mp (own d).1) nodup mem,
    filter_flatMap_eq Diagnostic.file _ (fun d => List.map_inj_left.mp (own d).2) nodup mem]

section Garbled

variable (hasFile : source.tree.HasFile location) (garbled : String.fromUTF8? content = none)

include hasFile garbled

/-- A file that loses its text includes nothing any more, and the other documents include what they did. -/
lemma cuts_graph : (graph source options).Cuts (source.ReadsFrom location)
    (graph (source.withContent location content) options) where
  isReachable := Source.isReachable_withContent hasFile
  leaf p reads := by
    change (targetsAt _ p).filterMap _ = []
    rw [targetsAt, Source.read_withContent hasFile garbled reads, List.filterMap_nil]
  kept p elsewhere := by
    change (targetsAt _ p).filterMap _ = (targetsAt source p).filterMap _
    rw [targetsAt, targetsAt, Source.read_withContent_of_not hasFile elsewhere]

/-- Of the listed documents those stay that are reached past the file. -/
lemma mem_walk_withContent_iff (mem : p ∈ (walk source options start).documents) :
    p ∈ (walk (source.withContent location content) options start).documents ↔
      (graph source options).ReachedPast (source.ReadsFrom location) start.normalize p := by
  have cuts : (graph source options).Cuts (source.ReadsFrom location)
      (graph (source.withContent location content) options) := cuts_graph hasFile garbled
  refine ⟨fun listed => cuts.reached_iff.mp (reached_of_mem_walk listed), fun past => ?_⟩
  obtain ⟨q, listed, same⟩ := met_walk_of_reached (cuts.reached_iff.mpr past)
  rwa [eq_of_mem_walk mem listed (same_iff.mp same)]

/-- No document is listed that was not listed before. -/
lemma walk_withContent_subset :
    (walk (source.withContent location content) options start).documents ⊆ (walk source options start).documents := by
  intro p mem
  have past := (cuts_graph hasFile garbled).reached_iff.mp (reached_of_mem_walk mem)
  obtain ⟨q, listed, same⟩ := met_walk_of_reached past.reached
  rwa [eq_of_mem_walk mem listed (same_iff.mp same)]

/-- If the file was read before, it still is looked at. -/
lemma exists_mem_walk_withContent (mem : p ∈ (walk source options start).documents) (reads : source.ReadsFrom location p) :
    ∃ q ∈ (walk (source.withContent location content) options start).documents, source.ReadsFrom location q := by
  -- The first document on the way that is read from the file is reached past it.
  obtain ⟨q, reads', past⟩ : ∃ q, source.ReadsFrom location q ∧
      (graph source options).ReachedPast (source.ReadsFrom location) start.normalize q := by
    obtain past | met := (reached_of_mem_walk mem).past_or
    · exact ⟨p, reads, past⟩
    · exact met
  obtain ⟨d, listed, same⟩ := met_walk_of_reached ((cuts_graph hasFile garbled).reached_iff.mpr past)
  have reachable := (reached_of_mem_walk (walk_withContent_subset hasFile garbled listed)).isReachable
  exact ⟨d, listed, reads'.congr (same_iff.mp same) reachable⟩

lemma extract_withContent (reads : source.ReadsFrom location p) :
    extract (source.withContent location content) options p = unreadable p .notText := by
  rw [extract, Source.read_withContent hasFile garbled reads]

omit garbled in
lemma extract_withContent_of_not (elsewhere : ¬ source.ReadsFrom location p) :
    extract (source.withContent location content) options p = extract source options p :=
  extract_congr (sameShape_set hasFile content) (Source.read_withContent_of_not hasFile elsewhere)

end Garbled

/-- From an absolute start a file is met under its path from the top only. -/
lemma eq_pathOf_of_readsFrom (absolute : start.isAbsolute)
    (rooted : ∀ root ∈ options.extraction.projectRoot, root.isAbsolute) (noSlash : '/' ∉ options.extension.toList)
    (closed : ¬ source.buffers.contains ⟨"/"⟩) (mem : p ∈ (walk source options start).documents)
    (reads : source.ReadsFrom location p) : p = pathOf location := by
  have below (q : Path) (reachable : source.isReachable q) : q.components ≠ [.root] := fun top =>
    closed (Source.contains_top top reachable)
  have reached := reached_of_mem_walk mem
  have from_top := isAbsolute_of_reached ((isAbsolute_normalize start).trans absolute) rooted below reached
  obtain top | ⟨place, plain, rfl⟩ := isTidy_of_reached noSlash reached from_top
  · exact absurd top (below p reached.isReachable)
  · rw [locate_pathOf plain reads.2]

/-- When the content of a file becomes unreadable, a walk still lists what is reached on ways that end at the file or pass it
by, and it lists nothing else. Each path that it reads from the file is left with one diagnostic, and about all others it
says what it said before. There is such a path if there was one, and from an absolute start it is the one that there was. -/
theorem walk_withContent_garbled (source : Source) (options : Options) (start : Path) {location : Location}
    {content : ByteArray} (hasFile : source.tree.HasFile location) (garbled : String.fromUTF8? content = none) :
    let before := walk source options start
    let after := walk (source.withContent location content) options start
    after.documents ⊆ before.documents ∧
    (∀ p ∈ before.documents, p ∈ after.documents ↔
      (graph source options).ReachedPast (source.ReadsFrom location) start.normalize p) ∧
    ((∃ p ∈ before.documents, source.ReadsFrom location p) → ∃ p ∈ after.documents, source.ReadsFrom location p) ∧
    (∀ p ∈ after.documents, source.ReadsFrom location p → after.extraction.about p =
      ⟨[], [⟨p, .unreadableDocument (Failure.unreadableDocument p .notText).message, 0⟩]⟩) ∧
    (∀ p ∈ after.documents, ¬ source.ReadsFrom location p → after.extraction.about p = before.extraction.about p) ∧
    (∀ f ∈ after.extraction.figures, f.sourcePath ∈ after.documents) ∧
    (∀ d ∈ after.extraction.diagnostics, d.file ∈ after.documents) ∧
    (start.isAbsolute → (∀ root ∈ options.extraction.projectRoot, root.isAbsolute) → '/' ∉ options.extension.toList →
      ¬ source.buffers.contains ⟨"/"⟩ →
      ∀ p ∈ before.documents, source.ReadsFrom location p → p = pathOf location ∧ p ∈ after.documents) := by
  intro before after
  have subset : after.documents ⊆ before.documents := walk_withContent_subset hasFile garbled
  have stays (met : ∃ p ∈ before.documents, source.ReadsFrom location p) :
      ∃ p ∈ after.documents, source.ReadsFrom location p := by
    obtain ⟨p, listed, reads⟩ := met
    exact exists_mem_walk_withContent hasFile garbled listed reads
  refine ⟨subset, fun p => mem_walk_withContent_iff hasFile garbled, stays, fun p listed reads => ?_,
    fun p listed elsewhere => ?_, mem_walk_of_said.1, mem_walk_of_said.2,
    fun absolute rooted noSlash closed p listed reads => ?_⟩
  · rw [about_walk listed, extract_withContent hasFile garbled reads]
    rfl
  · rw [about_walk listed, about_walk (subset listed), extract_withContent_of_not hasFile elsewhere]
  · have only {q : Path} (mem : q ∈ before.documents) (reads : source.ReadsFrom location q) : q = pathOf location :=
      eq_pathOf_of_readsFrom absolute rooted noSlash closed mem reads
    obtain ⟨q, listed', reads'⟩ := stays ⟨p, listed, reads⟩
    have same : p = q := (only listed reads).trans (only (subset listed') reads').symm
    exact ⟨only listed reads, same ▸ listed'⟩

/-- Bytes that are not the text of a document. -/
def noText : ByteArray := ⟨#[255]⟩

/-- A document that includes three others, the first of which includes the last one and a fourth. -/
def crossing : Source :=
  .ofTree ⟨[(["w"], .directory), (["w", "main.typ"], .file "#include \"b\"\n#include \"e\"\n#include \"c\"".toUTF8),
    (["w", "b.typ"], .file "#include \"c\"\n#include \"d\"".toUTF8),
    (["w", "c.typ"], .file "#figure(image(\"p.png\"))".toUTF8), (["w", "d.typ"], .file "".toUTF8),
    (["w", "e.typ"], .file "".toUTF8), (["w", "p.png"], .file "".toUTF8)], []⟩

/-- One document is lost with the file that alone includes it. Another one, which the file also includes, is listed later
than before, with its figure. -/
theorem walk_withContent_garbled_crossing :
    let before := walk crossing usualOptions ⟨"/w/main.typ"⟩
    let after := walk (crossing.withContent ["w", "b.typ"] noText) usualOptions ⟨"/w/main.typ"⟩
    before.documents = [⟨"/w/main.typ"⟩, ⟨"/w/b.typ"⟩, ⟨"/w/c.typ"⟩, ⟨"/w/d.typ"⟩, ⟨"/w/e.typ"⟩] ∧
    after.documents = [⟨"/w/main.typ"⟩, ⟨"/w/b.typ"⟩, ⟨"/w/e.typ"⟩, ⟨"/w/c.typ"⟩] ∧
    ¬ (graph crossing usualOptions).ReachedPast (crossing.ReadsFrom ["w", "b.typ"]) ⟨"/w/main.typ"⟩ ⟨"/w/d.typ"⟩ ∧
    (before.extraction.about ⟨"/w/c.typ"⟩).figures.length = 1 ∧
    after.extraction.about ⟨"/w/c.typ"⟩ = before.extraction.about ⟨"/w/c.typ"⟩ ∧
    after.extraction.about ⟨"/w/b.typ"⟩ =
      ⟨[], [⟨⟨"/w/b.typ"⟩, .unreadableDocument (Failure.unreadableDocument ⟨"/w/b.typ"⟩ .notText).message, 0⟩]⟩ ∧
    ∀ p ∈ before.documents, crossing.ReadsFrom ["w", "b.typ"] p → p = ⟨"/w/b.typ"⟩ ∧ p ∈ after.documents := by
  have hasFile : crossing.tree.HasFile ["w", "b.typ"] := ⟨_, rfl⟩
  have garbled : String.fromUTF8? noText = none := by decide +kernel
  have documents : (walk crossing usualOptions ⟨"/w/main.typ"⟩).documents =
      [⟨"/w/main.typ"⟩, ⟨"/w/b.typ"⟩, ⟨"/w/c.typ"⟩, ⟨"/w/d.typ"⟩, ⟨"/w/e.typ"⟩] := by decide +kernel
  have documents' : (walk (crossing.withContent ["w", "b.typ"] noText) usualOptions ⟨"/w/main.typ"⟩).documents =
      [⟨"/w/main.typ"⟩, ⟨"/w/b.typ"⟩, ⟨"/w/e.typ"⟩, ⟨"/w/c.typ"⟩] := by decide +kernel
  have elsewhere : ¬ crossing.ReadsFrom ["w", "b.typ"] ⟨"/w/c.typ"⟩ := by
    rintro ⟨_, located⟩
    have place : (crossing.tree.locate ⟨"/w/c.typ"⟩).toOption = some ["w", "c.typ"] := by decide +kernel
    simp [located, Except.toOption] at place
  have reads : crossing.ReadsFrom ["w", "b.typ"] ⟨"/w/b.typ"⟩ := ⟨rfl, rfl⟩
  obtain ⟨_, stays, _, lost, kept, _, _, only⟩ :=
    walk_withContent_garbled crossing usualOptions ⟨"/w/main.typ"⟩ hasFile garbled
  have figures : ((walk crossing usualOptions ⟨"/w/main.typ"⟩).extraction.about ⟨"/w/c.typ"⟩).figures.length = 1 := by
    rw [about_walk (by simp [documents])]
    decide +kernel
  refine ⟨documents, documents', fun past => ?_, figures, kept _ (by simp [documents']) elsewhere,
    lost _ (by simp [documents']) reads, only (by decide) (by decide) (by decide +kernel) (by decide)⟩
  have listed := (stays ⟨"/w/d.typ"⟩ (by simp [documents])).mpr past
  simp [documents'] at listed

/-- A document that includes a file as seen from its directory, and again as seen from the project root. -/
def twofold : Source :=
  .ofTree ⟨[(["w"], .directory), (["w", "main.typ"], .file "#include \"b.typ\"\n#include \"/b.typ\"".toUTF8),
    (["w", "b.typ"], .file "".toUTF8)], ["w"]⟩

/-- From a relative start a file may be met under two paths, so that there is not always one diagnostic to a file that
cannot be read. -/
theorem not_one_notice_of_each_file :
    ¬ ∀ (source : Source) (options : Options) (start : Path) (location : Location) (content : ByteArray),
      source.tree.HasFile location → String.fromUTF8? content = none →
      (∃ p ∈ (walk source options start).documents, source.ReadsFrom location p) →
      ∃ notice, ((walk (source.withContent location content) options start).extraction.diagnostics.filter fun d =>
        d.isUnreadable ∧ (source.tree.locate d.file).toOption = some location) = [notice] := by
  intro one
  have listed : ⟨"b.typ"⟩ ∈ (walk twofold ⟨"typ", ⟨200, some ⟨"/w"⟩⟩⟩ ⟨"main.typ"⟩).documents := by decide +kernel
  obtain ⟨notice, alone⟩ := one twofold ⟨"typ", ⟨200, some ⟨"/w"⟩⟩⟩ ⟨"main.typ"⟩ ["w", "b.typ"] noText ⟨_, rfl⟩
    (by decide +kernel) ⟨_, listed, rfl, rfl⟩
  have length := congrArg List.length alone
  rw [List.length_singleton] at length
  revert length
  decide +kernel

end Include

end FigureGallery
