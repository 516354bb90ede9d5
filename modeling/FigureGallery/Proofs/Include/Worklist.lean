import FigureGallery.Proofs.Include.Search
import Mathlib.Logic.Function.Iterate

/-!
# Searching with a worklist

The search of an include graph without recursion: one list of documents to look at, of which the first is taken, and in
front of which the includes of a document are put when it is listed. `Graph.Search.iterate_step` says that this machine
runs through the same documents as the recursion, whatever else waits behind them.
-/

namespace FigureGallery.Include

/-- A worklist search under way. -/
structure Worklist where
  /-- The documents that were listed so far, in this order. -/
  listed : List Path
  /-- The documents to look at, the next one first. -/
  pending : List Path
deriving DecidableEq

namespace Graph

/-- One step of a worklist search. The next document is passed over when it was listed before or does not exist;
otherwise it is listed, and what it includes comes next. -/
def step (graph : Graph) (search : Worklist) : Worklist :=
  match search.pending with
  | [] => search
  | document :: pending =>
    if Met search.listed document ∨ ¬ graph.isReachable document then ⟨search.listed, pending⟩
    else ⟨search.listed ++ [document], graph.includes document ++ pending⟩

variable {graph : Graph}

/-- The order of the visited documents does not matter for whether a document was met. -/
lemma met_reverse {visited : List Path} {document : Path} : Met visited.reverse document ↔ Met visited document := by
  simp [Met]

/-- A finished search stays as it is. -/
lemma iterate_step_finished (listed : List Path) (n : Nat) : graph.step^[n] ⟨listed, []⟩ = ⟨listed, []⟩ := by
  induction n with
  | zero => rfl
  | succ n ih =>
    rw [Function.iterate_succ_apply]
    exact ih

/-- A recursive search of the first pending documents is a number of steps, which leave the others pending. -/
lemma Search.iterate_step {visited pending final} (run : graph.Search visited pending final) (rest : List Path) :
    ∃ n, graph.step^[n] ⟨visited.reverse, pending ++ rest⟩ = ⟨final.reverse, rest⟩ := by
  induction run generalizing rest with
  | done => exact ⟨0, rfl⟩
  | @pass visited document pending final h _ ih =>
    obtain ⟨n, steps⟩ := ih rest
    have first : graph.step ⟨visited.reverse, document :: pending ++ rest⟩ = ⟨visited.reverse, pending ++ rest⟩ :=
      if_pos (h.imp_left met_reverse.mpr)
    refine ⟨n + 1, ?_⟩
    rw [Function.iterate_succ_apply, first, steps]
  | @enter visited document pending middle final fresh reachable _ _ ih₁ ih₂ =>
    -- First the steps below the document, with its siblings waiting behind, then those of the siblings.
    obtain ⟨n, below⟩ := ih₁ (pending ++ rest)
    obtain ⟨m, beside⟩ := ih₂ rest
    have first : graph.step ⟨visited.reverse, document :: pending ++ rest⟩ =
        ⟨(document :: visited).reverse, graph.includes document ++ (pending ++ rest)⟩ := by
      have pass : ¬ (Met visited.reverse document ∨ ¬ graph.isReachable document) := by
        rw [met_reverse, not_or, not_not]
        exact ⟨fresh, reachable⟩
      rw [List.reverse_cons]
      exact if_neg pass
    refine ⟨m + n + 1, ?_⟩
    rw [Function.iterate_succ_apply, first, Function.iterate_add_apply, below, beside]

/-- A search from one document ends in a finished worklist and stays there. -/
lemma Search.finishes {start final} (run : graph.Search [] [start] final) :
    ∃ n, ∀ more, graph.step^[more + n] ⟨[], [start]⟩ = ⟨final.reverse, []⟩ := by
  obtain ⟨n, steps⟩ := run.iterate_step []
  refine ⟨n, fun more => ?_⟩
  rw [Function.iterate_add_apply]
  calc graph.step^[more] (graph.step^[n] ⟨[], [start]⟩)
    _ = graph.step^[more] ⟨final.reverse, []⟩ := congrArg _ steps
    _ = ⟨final.reverse, []⟩ := iterate_step_finished final.reverse more

end Graph

end FigureGallery.Include
