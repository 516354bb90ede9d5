import FigureGallery.Proofs.FileTree.Shape
import FigureGallery.Proofs.Figure.Outcome
import FigureGallery.Proofs.Include.Walk

/-!
# Walks over sources that agree

A walk depends on nothing but the text of the documents that it lists, what they yield, and whether the documents that
they include exist. Two sources that agree on these give the same walk, whatever else they hold.
-/

namespace FigureGallery

/-- Over trees of one shape a document is read alike, if it is open or its file has the same content. -/
lemma Source.read_eq_of_sameShape {tree other : FileTree} (shape : tree.SameShape other) {buffers : Buffers} {p : Path}
    (same : buffers.get? p = none → tree.SameContent other p) :
    (⟨other, buffers⟩ : Source).read p = (⟨tree, buffers⟩ : Source).read p := by
  have stored : (⟨other, buffers⟩ : Source).stored p = (⟨tree, buffers⟩ : Source).stored p := by
    rw [Source.stored, Source.stored, shape.isFile_eq]
    cases opened : buffers.get? p with
    | some text => rfl
    | none =>
      dsimp only
      rw [shape.readText_eq (same opened)]
  rw [Source.read, Source.read, stored]

namespace Include

/-- A search in one graph is a search in every graph that agrees with it on the documents that it meets and on whether
those exist that it comes across. -/
lemma Graph.Search.congr {graph other : Graph} {visited pending final : List Path}
    (run : graph.Search visited pending final)
    (start : ∀ p ∈ pending, other.isReachable p = graph.isReachable p)
    (met : ∀ d ∈ final, other.includes d = graph.includes d ∧
      ∀ p ∈ graph.includes d, other.isReachable p = graph.isReachable p) :
    other.Search visited pending final := by
  induction run with
  | done => exact .done
  | pass h _ ih =>
    obtain ⟨first, rest⟩ := List.forall_mem_cons.mp start
    exact .pass (by rwa [first]) (ih rest met)
  | @enter visited document pending middle final fresh reachable below beside ih₁ ih₂ =>
    obtain ⟨first, rest⟩ := List.forall_mem_cons.mp start
    -- What is met below the document is still there after its siblings.
    obtain ⟨found, rfl⟩ := beside.extends
    have metBelow := fun d mem => met d (List.mem_append_right found mem)
    obtain ⟨found', e⟩ := below.extends
    obtain ⟨same, agree⟩ := metBelow document (by simp [e])
    refine .enter fresh (by rwa [first]) ?_ (ih₂ rest met)
    rw [same]
    exact ih₁ agree metBelow

variable {source other : Source} {options : Options} {start : Path}

/-- Over trees of one shape a document that is read alike yields the same. -/
lemma extract_congr {d : Path} (shape : source.tree.SameShape other.tree) (read : other.read d = source.read d) :
    extract other options d = extract source options d := by
  rw [extract, extract, read]
  cases source.read d with
  | error fault => rfl
  | ok text => exact Extraction.ofText_congr fun _ _ q _ => shape.isFile_eq q

/-- Sources that agree on what a walk reads give the same walk. -/
lemma walk_congr (exists_start : other.isReachable start.normalize = source.isReachable start.normalize)
    (read : ∀ d ∈ (walk source options start).documents, other.read d = source.read d)
    (exists_included : ∀ d ∈ (walk source options start).documents, ∀ p ∈ (graph source options).includes d,
      other.isReachable p = source.isReachable p)
    (yields : ∀ d ∈ (walk source options start).documents, extract other options d = extract source options d) :
    walk other options start = walk source options start := by
  obtain ⟨run, extraction⟩ := search_walk source options start
  obtain ⟨run', extraction'⟩ := search_walk other options start
  have same : (graph other options).Search [] [start.normalize] (walk source options start).documents.reverse := by
    refine run.congr ?_ fun d mem => ?_
    · exact List.forall_mem_singleton.mpr exists_start
    · have listed := List.mem_reverse.mp mem
      refine ⟨?_, exists_included d listed⟩
      change (targetsAt other d).filterMap _ = (targetsAt source d).filterMap _
      rw [targetsAt, targetsAt, read d listed]
  have documents : (walk other options start).documents = (walk source options start).documents :=
    List.reverse_inj.mp (run'.unique same)
  have found : (walk other options start).extraction = (walk source options start).extraction := by
    rw [extraction', extraction, documents, extractAll, extractAll, Extraction.mk.injEq]
    exact ⟨List.flatMap_congr fun d mem => by rw [yields d mem], List.flatMap_congr fun d mem => by rw [yields d mem]⟩
  exact congrArg₂ Walk.mk documents found

end Include

end FigureGallery
