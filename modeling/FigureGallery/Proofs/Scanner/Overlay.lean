import FigureGallery.Proofs.Include.Extension
import FigureGallery.Proofs.Scanner.Agreement

/-!
# Open documents that a scan reads

A scan for a document reads the texts of open documents only: paths with the extension of documents, and paths whose
whole name is the extension. What is open under any other path makes no difference to it.
-/

namespace FigureGallery

open Include FigureGallery.Path

namespace Scanner

variable {scanner : Scanner} {source : Source} {active : Path}

/-- Whether the walk of a project may come across relative paths: from an empty root, or from the top if it is open and
documents have an empty extension. -/
def IsLoose (scanner : Scanner) (buffers : Buffers) : Prop :=
  scanner.projectRoot.text = "" ∨
    bareExtension scanner.options.extension = "" ∧ buffers.contains ⟨"/"⟩

/-- A scan does not depend on what is open under a path that names no document. -/
lemma scan_congr_of_buffers (rooted : scanner.projectRoot.text ≠ "" → scanner.projectRoot.isAbsolute)
    (has : active.hasExtension scanner.options.extension) {p : Path}
    (other : ¬ MayName scanner.options.extension (scanner.IsLoose source.buffers) p) {buffers : Buffers}
    (h : ∀ q : Path, q.components ≠ p.components → buffers.get? q = source.buffers.get? q) :
    scanner.scan ⟨source.tree, buffers⟩ active = scanner.scan source active := by
  -- Whatever may name a document is read alike.
  have get {q : Path} (may : MayName scanner.options.extension (scanner.IsLoose source.buffers) q) :
      buffers.get? q = source.buffers.get? q :=
    h q fun e => other (may.congr e)
  have read {q : Path} (may : MayName scanner.options.extension (scanner.IsLoose source.buffers) q) :
      (⟨source.tree, buffers⟩ : Source).read q = source.read q := by
    rw [Source.read, Source.read, Source.stored, Source.stored, get may]
  have reachable {q : Path} (may : MayName scanner.options.extension (scanner.IsLoose source.buffers) q) :
      (⟨source.tree, buffers⟩ : Source).isReachable q = source.isReachable q := by
    rw [Source.isReachable, Source.isReachable, Buffers.contains, Buffers.contains, get may]
  refine scan_congr ?_ ?_
  · unfold resolveRoot
    refine Root.resolve_congr fun directory _ => Root.inDirectory?_congr (fun _ => Iff.rfl) fun name mem => ?_
    have named := (Root.mem_candidates_iff.mp mem).1.2.1
    exact read (.named named)
  · -- The walk starts at a document, and comes across nothing but what may name one.
    obtain ⟨named, absolute⟩ := @resolveRoot_document scanner source active has
    generalize (scanner.resolveRoot source active).document = start at named absolute ⊢
    have startNamed : start.normalize.hasExtension scanner.walkOptions.extension :=
      hasExtension_of_fileName?_eq named fun _ => fileName?_normalize
    have startAbsolute : start.normalize.isAbsolute := by rwa [isAbsolute_normalize]
    obtain ⟨noDot, noSlash⟩ := notMem_of_hasExtension startNamed
    have tight : ¬ scanner.IsLoose source.buffers →
        ∀ root ∈ scanner.walkOptions.extraction.projectRoot, root.isAbsolute := by
      intro tight root mem
      obtain rfl := Option.some.inj mem
      exact rooted fun empty => tight (.inl empty)
    have met {d : Path} (mem : d ∈ (walk source scanner.walkOptions start).documents) :=
      mayName_of_reached startNamed startAbsolute tight (fun bare opened => .inr ⟨bare, opened⟩) (reached_of_mem_walk mem)
    refine walk_congr (reachable (.named startNamed)) (fun d mem => read (met mem).1) (fun d mem next included => ?_)
      fun d mem => ?_
    · exact reachable (mayName_of_include noDot noSlash tight (fun h => ((met mem).2 h).2) included).1
    · rw [extract, extract, read (met mem).1]

end Scanner

end FigureGallery
