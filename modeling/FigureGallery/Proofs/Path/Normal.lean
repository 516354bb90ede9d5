import FigureGallery.Path.Normal
import FigureGallery.Proofs.Path.Components

/-!
# Normal forms

Folding the steps of a path leaves a run of `..`, which is empty for absolute paths, and names after it. Steps of this
form fold to themselves, so a normal form is its own normal form. It depends on the components of a path only.
-/

namespace FigureGallery.Path

/-- A folded path with its last step first: names with plain texts, and below them the `..` of a relative path. -/
inductive Folded (rooted : Bool) : List Component → Prop where
  | ups (n : Nat) :
    (rooted → n = 0) →
    Folded rooted (List.replicate n .up)
  | name {stack s} :
    Plain s.toList →
    Folded rooted stack →
    Folded rooted (.name s :: stack)

/-- Nothing is folded. -/
lemma Folded.nil {rooted : Bool} : Folded rooted [] :=
  .ups 0 fun _ => rfl

/-- One more step keeps a path folded. -/
lemma Folded.foldStep {rooted stack c} (folded : Folded rooted stack) (plain : ∀ s, c = .name s → Plain s.toList) :
    Folded rooted (foldStep rooted stack c) := by
  cases c with
  | root => exact folded
  | here => exact folded
  | name s => exact .name (plain s rfl) folded
  | up =>
    cases folded with
    | name _ below => exact below
    | ups n h =>
      cases rooted with
      | true =>
        obtain rfl := h rfl
        exact .nil
      | false =>
        have e : Path.foldStep false (List.replicate n .up) .up = List.replicate (n + 1) .up := by
          cases n <;> rfl
        rw [e]
        exact .ups _ (by simp)

/-- Folding folds. -/
lemma Folded.foldl {rooted stack} (steps : List Component) (folded : Folded rooted stack)
    (plain : ∀ s, .name s ∈ steps → Plain s.toList) : Folded rooted (steps.foldl (Path.foldStep rooted) stack) := by
  induction steps generalizing stack with
  | nil => exact folded
  | cons c steps ih =>
    refine ih (folded.foldStep fun s e => plain s ?_) fun s mem => plain s (List.mem_cons_of_mem _ mem)
    rw [e]
    exact List.mem_cons_self

/-- A folded path folds to itself. -/
lemma Folded.foldl_reverse {rooted stack} (folded : Folded rooted stack) :
    stack.reverse.foldl (Path.foldStep rooted) [] = stack := by
  induction folded with
  | ups n h =>
    induction n with
    | zero => rfl
    | succ n ih =>
      -- Only a relative path keeps a `..`, and it does so at the bottom of the stack.
      have relative : rooted = false := by
        cases rooted with
        | false => rfl
        | true => exact absurd (h rfl) (by omega)
      subst relative
      rw [List.reverse_replicate] at ih ⊢
      rw [List.replicate_succ', List.foldl_append, ih (by simp), List.foldl_cons, List.foldl_nil,
        ← List.replicate_succ', List.replicate_succ]
      cases n <;> rfl
  | name _ _ ih => rw [List.reverse_cons, List.foldl_append, ih]; rfl

/-- The way a step of a folded path is written is a part that stands for it. -/
lemma Folded.written {rooted stack c} (folded : Folded rooted stack) (mem : c ∈ stack) :
    '/' ∉ c.written ∧ isIdle c.written = false ∧ component? c.written = some c := by
  induction folded with
  | ups n _ =>
    obtain rfl := List.eq_of_mem_replicate mem
    exact ⟨by decide, by decide, rfl⟩
  | name plain _ ih =>
    obtain rfl | mem := List.mem_cons.mp mem
    · exact ⟨plain.no_slash, plain.not_idle, by simpa [Component.written] using plain.component?⟩
    · exact ih mem

/-- The names in a path are plain. -/
lemma plain_of_name_mem {p : Path} {s : String} (mem : .name s ∈ p.components) : Plain s.toList := by
  rw [components_eq, List.mem_append] at mem
  obtain mem | mem := mem
  · cases h : p.split.1 <;> simp [h, Lead.components] at mem
  · obtain ⟨part, part_mem, h⟩ := List.mem_filterMap.mp mem
    obtain ⟨plain, rfl⟩ := plain_of_component? h (notMem_of_mem_segments part_mem)
    rwa [String.toList_ofList]

/-- The folded steps of a path are folded. -/
lemma folded_foldedSteps (p : Path) : Folded p.isAbsolute p.foldedSteps.reverse := by
  rw [foldedSteps, List.reverse_reverse]
  exact Folded.nil.foldl p.components fun s => plain_of_name_mem

/-- Steps are found again in the way they are written, if each of them is. -/
lemma filterMap_map_written {steps : List Component} (stands : ∀ c ∈ steps, component? c.written = some c) :
    (steps.map Component.written).filterMap component? = steps := by
  induction steps with
  | nil => rfl
  | cons c steps ih =>
    obtain ⟨hc, stands⟩ := List.forall_mem_cons.mp stands
    rw [List.map_cons, List.filterMap_cons_some hc, ih stands]

/-- The folded steps are found again in the way they are written. -/
lemma filterMap_written {rooted : Bool} {steps : List Component} (folded : Folded rooted steps.reverse) :
    (steps.map Component.written).filterMap component? = steps :=
  filterMap_map_written fun _ mem => (folded.written (List.mem_reverse.mpr mem)).2.2

/-- The components of a normal form are the folded steps behind the top, if the path is absolute. -/
lemma components_normalize (p : Path) :
    p.normalize.components = (if p.isAbsolute then [.root] else []) ++ p.foldedSteps := by
  have folded := folded_foldedSteps p
  have written : ∀ s ∈ p.foldedSteps.map Component.written, '/' ∉ s ∧ isIdle s = false := by
    intro s mem
    obtain ⟨c, hc, rfl⟩ := List.mem_map.mp mem
    have h := folded.written (List.mem_reverse.mpr hc)
    exact ⟨h.1, h.2.1⟩
  rw [normalize, components_ofSplit, filterMap_written folded]
  · split <;> rfl
  · exact fun s mem => (written s mem).1
  · exact fun _ s mem => (written s (List.mem_of_mem_head? mem)).2

/-- A normal form is absolute when the path is. -/
@[simp]
lemma isAbsolute_normalize (p : Path) : p.normalize.isAbsolute = p.isAbsolute := by
  rw [Bool.eq_iff_iff, isAbsolute_iff, components_normalize, List.mem_append]
  have h : .root ∉ p.foldedSteps := by
    intro mem
    exact absurd ((folded_foldedSteps p).written (List.mem_reverse.mpr mem)).2.2 (by decide)
  cases p.isAbsolute <;> simp [h]

/-- Paths with the same components have the same normal form. -/
lemma normalize_congr {p q : Path} (h : p.components = q.components) : p.normalize = q.normalize := by
  rw [normalize, normalize, foldedSteps, foldedSteps, h, isAbsolute_congr h]

/-- A normal form is its own normal form. -/
@[simp]
lemma normalize_normalize (p : Path) : p.normalize.normalize = p.normalize := by
  have h : p.normalize.foldedSteps = p.foldedSteps := by
    have folded := (folded_foldedSteps p).foldl_reverse
    rw [List.reverse_reverse] at folded
    rw [foldedSteps, isAbsolute_normalize, components_normalize, List.foldl_append]
    cases e : p.isAbsolute <;> rw [e] at folded <;> simp [foldStep, folded]
  rw [normalize, h, isAbsolute_normalize, ← normalize]

end FigureGallery.Path
