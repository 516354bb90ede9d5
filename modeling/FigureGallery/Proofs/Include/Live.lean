import FigureGallery.Proofs.Figure.Outcome
import FigureGallery.Proofs.Include.Walk
import FigureGallery.Proofs.Markup.Directive
import FigureGallery.Proofs.Root.Search

/-!
# Commented-out directives in walks and searches

Walks and searches for a root document follow directives in comments like any others. What this changes is measured
against the live directives alone: a walk lists documents that live directives do not lead to just when a commented-out
directive names one, and the root document is another one just when all its directives are commented out.
-/

namespace FigureGallery.Include

open Markup

/-- The include graph of a source in which a text has the given targets. -/
def graphOf (targets : List Char → List (List Char)) (source : Source) (options : Options) : Graph where
  isReachable := source.isReachable
  includes document :=
    (match source.read document with
      | .ok text => targets text
      | .error _ => []).filterMap (resolveTarget options document.directory)

/-- The include graph without the directives in comments. -/
def liveGraph : Source → Options → Graph :=
  graphOf Directive.liveTargets

/-- The documents that the commented-out directives of a document name. -/
def commentedOut (source : Source) (options : Options) (document : Path) : List Path :=
  (graphOf Directive.commentedTargets source options).includes document

/-- A document names another one by a directive of its text that is commented out, or by one that is not: the hash of the
directive lies in a comment, or in none. -/
def Mentions (source : Source) (options : Options) (commented : Bool) (document next : Path) : Prop :=
  ∃ pre post target rest, source.read document = .ok (pre ++ post) ∧
    Directive.directive? post = some (target, rest) ∧
    (Comment.at? (pre ++ post) (Text.byteLength pre)).isSome = commented ∧
    resolveTarget options document.directory target = some next

/-- A document is behind a start, under any spelling with the same steps. -/
def Graph.Meets (graph : Graph) (start document : Path) : Prop :=
  ∃ d, graph.Reached start d ∧ document.same d

lemma Graph.Reached.meets {graph : Graph} {start document : Path} (reached : graph.Reached start document) :
    graph.Meets start document :=
  ⟨document, reached, beq_self_eq_true _⟩

variable {source : Source} {options : Options} {start document next : Path}

lemma graph_eq_graphOf : graph source options = graphOf Directive.targets source options := rfl

/-- What a document includes by the targets of its text. -/
lemma mem_includes_graphOf_iff {targets : List Char → List (List Char)} :
    next ∈ (graphOf targets source options).includes document ↔
      ∃ text target, source.read document = .ok text ∧ target ∈ targets text ∧
        resolveTarget options document.directory target = some next := by
  cases e : source.read document with
  | error _ => simp [graphOf, e]
  | ok text => simp [graphOf, e]

/-- What a document includes is named by a live directive or by a commented-out one. -/
lemma mem_includes_iff : next ∈ (graph source options).includes document ↔
    next ∈ (liveGraph source options).includes document ∨ next ∈ commentedOut source options document := by
  rw [graph_eq_graphOf, commentedOut, liveGraph]
  simp only [mem_includes_graphOf_iff, Directive.mem_targets_iff, or_and_right, and_or_left, exists_or]

/-- A document that is named by the directives in comments, or by those outside, is mentioned by one that is commented out
accordingly. -/
lemma mentions_of_mem_includes (kept : Option Comment → Bool) {commented : Bool}
    (known : ∀ around, kept around → around.isSome = commented)
    (named : next ∈ (graphOf (fun text => ((Directive.places text).filter fun place =>
      kept (Comment.at? text place.hash)).map Directive.Place.target) source options).includes document) :
    Mentions source options commented document next := by
  obtain ⟨text, target, read, mem, resolved⟩ := mem_includes_graphOf_iff.mp named
  obtain ⟨pre, post, rest, rfl, there, here⟩ := Directive.exists_cut_of_mem_filter_places mem
  exact ⟨pre, post, target, rest, read, there, known _ here, resolved⟩

lemma reached_of_live (live : (liveGraph source options).Reached start document) :
    (graph source options).Reached start document := by
  induction live with
  | start reachable => exact .start reachable
  | step _ mem reachable ih => exact .step ih (mem_includes_iff.mpr (.inl mem)) reachable

/-- When live directives lead to all existing documents that commented-out ones name, they lead to all that is behind
the start. -/
lemma meets_live_of_reached
    (inert : ∀ d p, (liveGraph source options).Reached start d → p ∈ commentedOut source options d →
      source.isReachable p → (liveGraph source options).Meets start p)
    (reached : (graph source options).Reached start document) : (liveGraph source options).Meets start document := by
  induction reached with
  | start reachable =>
    have live : (liveGraph source options).Reached start start := .start reachable
    exact live.meets
  | @step document next reached mem reachable ih =>
    obtain ⟨d, live, same⟩ := ih
    -- The document was met under another spelling, which includes the same documents.
    rw [graph_congruent document d same reached.isReachable live.isReachable] at mem
    cases mem_includes_iff.mp mem with
    | inl named =>
      have live : (liveGraph source options).Reached start next := .step live named reachable
      exact live.meets
    | inr named => exact inert d next live named reachable

/-- What the documents behind a start include is met by a walk from there. -/
lemma met_walk_of_include {d : Path} (mem : d ∈ (walk source options start).documents)
    (named : next ∈ (graph source options).includes d) (reachable : source.isReachable next) :
    Met (walk source options start).documents next := by
  apply met_walk_of_reached
  apply Graph.Reached.step (reached_of_mem_walk mem) named
  exact reachable

/-- Whether a document can be read and has an include directive outside of comments. -/
def hasLiveDirective (source : Source) (document : Path) : Bool :=
  match source.read document with
  | .ok text => Directive.startsLiveIn text
  | .error _ => false

lemma hasDirective_of_live (live : hasLiveDirective source document) : Root.hasDirective source document := by
  cases e : source.read document with
  | error _ => simp [hasLiveDirective, e] at live
  | ok text =>
    simp only [hasLiveDirective, e] at live
    simp only [Root.hasDirective, e]
    exact Directive.startsIn_of_startsLiveIn live

/-- Commented-out directives count like live ones; a directive is commented out when its hash lies in a comment. A walk lists
nothing but what live directives lead to just when the commented-out directives on the way name nothing else that exists;
whatever those of a listed document name is listed, with the figures of the listed documents and no others. The root
document is the one that is found by live directives just when it has one, or when no document has any. -/
theorem walk_and_root_live_iff (source : Source) (options : Options) (start : Path) (filter : Exclusion.Filter)
    (rootOptions : Root.Options) (active projectRoot : Path) :
    (∀ d p, (p ∈ (liveGraph source options).includes d → Mentions source options false d p) ∧
      (p ∈ commentedOut source options d → Mentions source options true d p)) ∧
    ((∀ d ∈ (walk source options start).documents, (liveGraph source options).Meets start.normalize d) ↔
      ∀ d p, (liveGraph source options).Reached start.normalize d → p ∈ commentedOut source options d →
        source.isReachable p → (liveGraph source options).Meets start.normalize p) ∧
    (∀ p, (liveGraph source options).Reached start.normalize p → Met (walk source options start).documents p) ∧
    (∀ d ∈ (walk source options start).documents, ∀ p ∈ commentedOut source options d, source.isReachable p →
      Met (walk source options start).documents p) ∧
    (∀ f ∈ (walk source options start).extraction.figures, f.sourcePath ∈ (walk source options start).documents) ∧
    (Root.resolve source filter rootOptions active projectRoot = Root.firstOf (hasLiveDirective source)
        (Root.queue source.tree filter rootOptions active projectRoot) active ↔
      (Root.resolve source filter rootOptions active projectRoot).isFallback ∨
        hasLiveDirective source (Root.resolve source filter rootOptions active projectRoot).document) := by
  refine ⟨fun d p => ⟨mentions_of_mem_includes Option.isNone (by simp),
      mentions_of_mem_includes Option.isSome fun _ commented => commented⟩,
    ⟨fun stays d p live named reachable => ?_, fun inert d mem => ?_⟩, ?_, ?_, mem_walk_of_said.1, ?_⟩
  · have reached : (graph source options).Reached start.normalize p :=
      .step (reached_of_live live) (mem_includes_iff.mpr (.inr named)) reachable
    obtain ⟨d', mem, same⟩ := met_walk_of_reached reached
    obtain ⟨d'', live', same'⟩ := stays d' mem
    exact ⟨d'', live', Path.same_iff.mpr ((Path.same_iff.mp same).trans (Path.same_iff.mp same'))⟩
  · exact meets_live_of_reached inert (reached_of_mem_walk mem)
  · exact fun p live => met_walk_of_reached (reached_of_live live)
  · exact fun d mem p named => met_walk_of_include mem (mem_includes_iff.mpr (.inr named))
  · rw [Root.resolve_eq_firstOf, eq_comm]
    exact Root.firstOf_eq_iff (fun d => hasDirective_of_live) _ active

/-- A document whose only directive is commented out, and the document that it names. -/
def commentedInclude : Source :=
  .ofTree ⟨[(["w"], .directory), (["w", "a.typ"], .file "// #include \"x/b\"".toUTF8), (["w", "x"], .directory),
    (["w", "x", "b.typ"], .file "".toUTF8)], []⟩

/-- The commented-out directive adds a document that nothing live leads to, and makes its document a root document. -/
theorem walk_and_root_live_iff_commented :
    Mentions commentedInclude usualOptions true ⟨"/w/a.typ"⟩ ⟨"/w/x/b.typ"⟩ ∧
    (walk commentedInclude usualOptions ⟨"/w/a.typ"⟩).documents = [⟨"/w/a.typ"⟩, ⟨"/w/x/b.typ"⟩] ∧
    ¬ (liveGraph commentedInclude usualOptions).Meets ⟨"/w/a.typ"⟩ ⟨"/w/x/b.typ"⟩ ∧
    Root.resolve commentedInclude (.empty ⟨"/w"⟩) ⟨"typ", []⟩ ⟨"/w/x/b.typ"⟩ ⟨"/w"⟩ = ⟨⟨"/w/a.typ"⟩, .ancestor⟩ ∧
    Root.firstOf (hasLiveDirective commentedInclude)
        (Root.queue commentedInclude.tree (.empty ⟨"/w"⟩) ⟨"typ", []⟩ ⟨"/w/x/b.typ"⟩ ⟨"/w"⟩) ⟨"/w/x/b.typ"⟩ ≠
      ⟨⟨"/w/a.typ"⟩, .ancestor⟩ := by
  obtain ⟨mentions, _, _, _, _, root⟩ := walk_and_root_live_iff commentedInclude usualOptions ⟨"/w/a.typ"⟩ (.empty ⟨"/w"⟩)
    ⟨"typ", []⟩ ⟨"/w/x/b.typ"⟩ ⟨"/w"⟩
  have resolved : Root.resolve commentedInclude (.empty ⟨"/w"⟩) ⟨"typ", []⟩ ⟨"/w/x/b.typ"⟩ ⟨"/w"⟩ =
      ⟨⟨"/w/a.typ"⟩, .ancestor⟩ := by decide +kernel
  have alone : ∀ d, (liveGraph commentedInclude usualOptions).Reached ⟨"/w/a.typ"⟩ d → d = ⟨"/w/a.typ"⟩ := by
    have none : (liveGraph commentedInclude usualOptions).includes ⟨"/w/a.typ"⟩ = [] := by decide +kernel
    intro d reached
    induction reached with
    | start _ => rfl
    | step _ mem _ ih =>
      rw [ih, none] at mem
      simp at mem
  refine ⟨(mentions _ _).2 (by decide +kernel), by decide +kernel, ?_, resolved, ?_⟩
  · rintro ⟨d, reached, same⟩
    rw [alone d reached] at same
    exact absurd same (by decide +kernel)
  · rw [resolved] at root
    intro live
    have passes := root.mp live.symm
    revert passes
    decide +kernel

end FigureGallery.Include
