import FigureGallery.Path.Basic
import Mathlib.Data.List.Basic
import Mathlib.Tactic.Lemma

/-!
# Depth-first search

The search of an include graph as a relation between the documents visited before, the documents that wait to be
visited, and the documents visited in the end. Each derivation is a finished run of the recursion, with no bound on how
deep it goes: `Search.unique` says that there is at most one, `Search.distinct` that no document is met twice,
`Search.reached` that only documents behind the pending ones are met, and `Search.closed` that all of them are.
-/

namespace FigureGallery.Include

/-- Documents and what each includes, in the order of its directives. -/
structure Graph where
  /-- Whether a document exists. -/
  isReachable : Path → Bool
  /-- The documents that a document includes. -/
  includes : Path → List Path

/-- A document is among the visited ones, under any spelling with the same steps. -/
def Met (visited : List Path) (document : Path) : Prop :=
  ∃ d ∈ visited, document.same d

/-- No document is listed under two spellings with the same steps. -/
def Distinct (documents : List Path) : Prop :=
  documents.Pairwise fun p q => ¬ p.same q

instance (visited : List Path) (document : Path) : Decidable (Met visited document) :=
  inferInstanceAs (Decidable (∃ d ∈ visited, document.same d))

instance (documents : List Path) : Decidable (Distinct documents) :=
  inferInstanceAs (Decidable (documents.Pairwise fun p q => ¬ p.same q))

/-- What is met stays met. -/
lemma Met.mono {visited found : List Path} {document : Path} (met : Met visited document) :
    Met (found ++ visited) document := by
  obtain ⟨d, mem, same⟩ := met
  exact ⟨d, List.mem_append_right found mem, same⟩

/-- A listed document is met. -/
lemma Met.of_mem {visited : List Path} {document : Path} (mem : document ∈ visited) : Met visited document :=
  ⟨document, mem, beq_self_eq_true _⟩

namespace Graph

/-- A document that can be reached from a start over documents that all exist. -/
inductive Reached (graph : Graph) (start : Path) : Path → Prop where
  | start :
    graph.isReachable start →
    Reached graph start start
  | step {document next} :
    Reached graph start document →
    next ∈ graph.includes document →
    graph.isReachable next →
    Reached graph start next

/-- A finished search: the documents visited before it, those that wait, and those visited after it. Visited documents
are listed with the last one first. -/
inductive Search (graph : Graph) : List Path → List Path → List Path → Prop where
  | done {visited} :
    Search graph visited [] visited
  | pass {visited document pending final} :
    Met visited document ∨ ¬ graph.isReachable document →
    Search graph visited pending final →
    Search graph visited (document :: pending) final
  | enter {visited document pending middle final} :
    ¬ Met visited document →
    graph.isReachable document →
    Search graph (document :: visited) (graph.includes document) middle →
    Search graph middle pending final →
    Search graph visited (document :: pending) final

/-- There is a bound on how many documents exist. -/
def Bounded (graph : Graph) (n : Nat) : Prop :=
  ∀ documents, Distinct documents → (∀ d ∈ documents, graph.isReachable d) → documents.length ≤ n

/-- What a document includes does not depend on how the document is spelled. -/
def Congruent (graph : Graph) : Prop :=
  ∀ p q : Path, p.same q → graph.isReachable p → graph.isReachable q → graph.includes p = graph.includes q

variable {graph : Graph}

/-- Everything reached exists. -/
lemma Reached.isReachable {start document} (reached : graph.Reached start document) :
    graph.isReachable document := by
  cases reached with
  | start h => exact h
  | step _ _ h => exact h

/-- Something is behind a start only if the start exists. -/
lemma Reached.isReachable_start {start document} (reached : graph.Reached start document) : graph.isReachable start := by
  induction reached with
  | start h => exact h
  | step _ _ _ ih => exact ih

/-- What is behind an include of a document is behind the document. -/
lemma Reached.of_include {document next p} (h : graph.isReachable document) (mem : next ∈ graph.includes document)
    (reached : graph.Reached next p) : graph.Reached document p := by
  induction reached with
  | start hn => exact .step (.start h) mem hn
  | step _ mem' hp ih => exact .step ih mem' hp

/-- A search adds documents in front of those visited before. -/
lemma Search.extends {visited pending final} (run : graph.Search visited pending final) :
    ∃ found, final = found ++ visited := by
  induction run with
  | done => exact ⟨[], rfl⟩
  | pass _ _ ih => exact ih
  | @enter _ document _ _ _ _ _ _ _ ih₁ ih₂ =>
    obtain ⟨found₁, rfl⟩ := ih₁
    obtain ⟨found₂, rfl⟩ := ih₂
    exact ⟨found₂ ++ found₁ ++ [document], by simp⟩

/-- What was met before a search is met after it. -/
lemma Search.met {visited pending final document} (run : graph.Search visited pending final)
    (met : Met visited document) : Met final document := by
  obtain ⟨found, rfl⟩ := run.extends
  exact met.mono

/-- A search has one outcome. -/
lemma Search.unique {visited pending final final'} (run : graph.Search visited pending final)
    (run' : graph.Search visited pending final') : final = final' := by
  induction run generalizing final' with
  | done => cases run'; rfl
  | pass h _ ih =>
    cases run' with
    | pass _ rest => exact ih rest
    | enter fresh reachable _ _ => exact absurd h (by simp [fresh, reachable])
  | enter fresh reachable _ _ ih₁ ih₂ =>
    cases run' with
    | pass h _ => exact absurd h (by simp [fresh, reachable])
    | enter _ _ below rest =>
      obtain rfl := ih₁ below
      exact ih₂ rest

/-- A search of two lists of documents is one search after the other. -/
lemma Search.append {visited first second middle final} (run₁ : graph.Search visited first middle)
    (run₂ : graph.Search middle second final) : graph.Search visited (first ++ second) final := by
  induction run₁ with
  | done => exact run₂
  | pass h _ ih => exact .pass h (ih run₂)
  | enter fresh reachable below _ _ ih => exact .enter fresh reachable below (ih run₂)

/-- A search meets no document twice. -/
lemma Search.distinct {visited pending final} (run : graph.Search visited pending final)
    (distinct : Distinct visited) : Distinct final := by
  induction run with
  | done => exact distinct
  | pass _ _ ih => exact ih distinct
  | enter fresh _ _ _ ih₁ ih₂ =>
    refine ih₂ (ih₁ (.cons ?_ distinct))
    intro d mem same
    exact fresh ⟨d, mem, same⟩

/-- Every document that a search adds is behind one of the pending documents. -/
lemma Search.reached {visited pending final} (run : graph.Search visited pending final) :
    ∀ d ∈ final, d ∈ visited ∨ ∃ p ∈ pending, graph.Reached p d := by
  induction run with
  | done => exact fun d mem => .inl mem
  | pass _ _ ih =>
    intro d mem
    obtain h | ⟨p, hp, reached⟩ := ih d mem
    · exact .inl h
    · exact .inr ⟨p, List.mem_cons_of_mem _ hp, reached⟩
  | @enter visited document pending _ _ _ reachable _ _ ih₁ ih₂ =>
    intro d mem
    obtain h | ⟨p, hp, reached⟩ := ih₂ d mem
    · obtain h | ⟨p, hp, reached⟩ := ih₁ d h
      · obtain rfl | h := List.mem_cons.mp h
        · exact .inr ⟨d, List.mem_cons_self, .start reachable⟩
        · exact .inl h
      · exact .inr ⟨document, List.mem_cons_self, .of_include reachable hp reached⟩
    · exact .inr ⟨p, List.mem_cons_of_mem _ hp, reached⟩

/-- A search meets every pending document that exists, and what is included in any document that it adds. -/
lemma Search.closed {visited pending final} (run : graph.Search visited pending final) :
    (∀ p ∈ pending, graph.isReachable p → Met final p) ∧
    ∀ d ∈ final, d ∈ visited ∨ ∀ p ∈ graph.includes d, graph.isReachable p → Met final p := by
  induction run with
  | done => exact ⟨by simp, fun d mem => .inl mem⟩
  | pass h rest ih =>
    refine ⟨fun p hp reachable => ?_, ih.2⟩
    obtain rfl | hp := List.mem_cons.mp hp
    · exact rest.met (h.resolve_right (by simpa using reachable))
    · exact ih.1 p hp reachable
  | @enter visited document pending middle final _ _ below rest ih₁ ih₂ =>
    -- What is met below the first document stays met while its siblings are searched.
    refine ⟨fun p hp reachable => ?_, fun d mem => ?_⟩
    · obtain rfl | hp := List.mem_cons.mp hp
      · exact rest.met (below.met (.of_mem List.mem_cons_self))
      · exact ih₂.1 p hp reachable
    · obtain h | closed := ih₂.2 d mem
      · obtain h | closed := ih₁.2 d h
        · obtain rfl | h := List.mem_cons.mp h
          · exact .inr fun p hp reachable => rest.met (ih₁.1 p hp reachable)
          · exact .inl h
        · exact .inr fun p hp reachable => rest.met (closed p hp reachable)
      · exact .inr closed

/-- A search that only has documents to pass adds none. -/
lemma Search.eq_of_forall_passed {visited pending final} (run : graph.Search visited pending final)
    (passed : ∀ p ∈ pending, Met visited p ∨ ¬ graph.isReachable p) :
    final = visited := by
  induction run with
  | done => rfl
  | pass _ _ ih => exact ih fun p mem => passed p (.tail _ mem)
  | @enter _ document _ _ _ fresh reachable _ _ _ _ =>
    obtain met | missing := passed document List.mem_cons_self
    · exact absurd met fresh
    · exact absurd reachable missing

/-- A search from nothing passes its start over, or enters it and searches what it includes. -/
lemma Search.start_cases {start final} (run : graph.Search [] [start] final) :
    (¬ graph.isReachable start ∧ final = []) ∨
      (graph.isReachable start ∧ graph.Search [start] (graph.includes start) final) := by
  cases run with
  | pass h rest =>
    cases rest
    obtain ⟨_, mem, _⟩ | missing := h
    · cases mem
    · exact .inl ⟨missing, rfl⟩
  | enter _ reachable below rest =>
    cases rest
    exact .inr ⟨reachable, below⟩

/-- A search from nothing meets everything behind its start. -/
lemma Search.complete {start final} (congruent : graph.Congruent) (run : graph.Search [] [start] final)
    {p} (reached : graph.Reached start p) : Met final p := by
  obtain ⟨starts, closed⟩ := run.closed
  induction reached with
  | start reachable => exact starts start (by simp) reachable
  | @step document next reached mem reachable ih =>
    obtain ⟨d, hd, same⟩ := ih
    obtain h | ⟨p, hp, reached'⟩ := run.reached d hd
    · simp at h
    · -- The document was listed under another spelling, which includes the same documents.
      rw [congruent document d same reached.isReachable reached'.isReachable] at mem
      exact ((closed d hd).resolve_left (by simp)) next mem reachable

end Graph

end FigureGallery.Include
