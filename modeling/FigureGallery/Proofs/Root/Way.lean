import FigureGallery.Proofs.Path.Neat
import FigureGallery.Root.Search

/-!
# The way up to the project root

The search for a root document takes one directory after another, each the one above the last. It ends behind the project
root, or at the top when the project root is not on its way. Which directories it takes is settled by where it starts, and
from each of them on it goes on as if it had started there.
-/

namespace FigureGallery.Path

variable {p q above : Path}

lemma ancestors_of_parent?_eq_none (h : p.parent? = none) : p.ancestors = [] := by
  rw [ancestors]
  cases p.components.length with
  | zero => rfl
  | succ n => rw [ancestorsUpTo, h]

lemma components_of_parent?_eq_some (h : p.parent? = some q) : ∃ c, p.components = q.components ++ [c] := by
  obtain ⟨e, _⟩ | ⟨q', c, e, comps⟩ := parent?_cases p
  · rw [e] at h
    simp at h
  · rw [e] at h
    obtain rfl := Option.some.inj h
    exact ⟨c, comps⟩

/-- The paths above a path are the next one and those above it. -/
lemma ancestors_of_parent?_eq_some (h : p.parent? = some q) : p.ancestors = q :: q.ancestors := by
  obtain ⟨c, comps⟩ := components_of_parent?_eq_some h
  rw [ancestors, comps, List.length_append, List.length_singleton, ancestorsUpTo, h]
  rfl

/-- The paths above a path have fewer steps. -/
lemma length_lt_of_mem_ancestors (mem : q ∈ p.ancestors) : q.components.length < p.components.length := by
  induction length : p.components.length using Nat.strong_induction_on generalizing p with
  | _ n ih =>
    subst length
    cases parent : p.parent? with
    | none => simp [ancestors_of_parent?_eq_none parent] at mem
    | some next =>
      obtain ⟨c, comps⟩ := components_of_parent?_eq_some parent
      have less : next.components.length < p.components.length := by simp [comps]
      rw [ancestors_of_parent?_eq_some parent] at mem
      obtain rfl | mem := List.mem_cons.mp mem
      · exact less
      · exact (ih _ less mem rfl).trans less

/-- What is above a path is above all that the path is above. -/
lemma mem_ancestors_trans (mem : above ∈ p.ancestors) (mem' : p ∈ q.ancestors) : above ∈ q.ancestors := by
  induction length : q.components.length using Nat.strong_induction_on generalizing q with
  | _ n ih =>
    subst length
    cases parent : q.parent? with
    | none => simp [ancestors_of_parent?_eq_none parent] at mem'
    | some next =>
      obtain ⟨c, comps⟩ := components_of_parent?_eq_some parent
      have less : next.components.length < q.components.length := by simp [comps]
      rw [ancestors_of_parent?_eq_some parent] at mem' ⊢
      obtain rfl | mem' := List.mem_cons.mp mem'
      · exact List.mem_cons_of_mem _ mem
      · exact List.mem_cons_of_mem _ (ih _ less mem' rfl)

end FigureGallery.Path

namespace FigureGallery.Root

open FigureGallery.Path

/-- The directories that a search takes from a first one on. -/
inductive Way (stop : Path) : Option Path → List Path → Prop where
  | top :
    Way stop none []
  | stop {d} :
    d.same stop →
    Way stop (some d) [d]
  | up {d ds} :
    ¬ d.same stop →
    Way stop d.parent? ds →
    Way stop (some d) (d :: ds)

variable {stop p d active projectRoot : Path} {first : Option Path} {ds es : List Path}

namespace Way

lemma unique (way : Way stop first ds) (way' : Way stop first es) : ds = es := by
  induction way generalizing es with
  | top => cases way'; rfl
  | stop here =>
    cases way' with
    | stop _ => rfl
    | up other _ => exact absurd here other
  | up other _ ih =>
    cases way' with
    | stop here => exact absurd here other
    | up _ rest => rw [ih rest]

/-- A search that starts in a directory takes it. -/
lemma mem_first (way : Way stop (some d) ds) : d ∈ ds := by
  cases way with
  | stop _ => exact List.mem_cons_self
  | up _ _ => exact List.mem_cons_self

/-- A search goes on as if it had started where it is. -/
lemma suffix (way : Way stop first (ds ++ es)) : Way stop es.head? es := by
  induction ds generalizing first with
  | nil =>
    cases way with
    | top => exact .top
    | stop here => exact .stop here
    | up other rest => exact .up other rest
  | cons d ds ih =>
    rw [List.cons_append] at way
    generalize rest : ds ++ es = way' at way
    cases way with
    | stop here =>
      obtain ⟨_, rfl⟩ := List.append_eq_nil_iff.mp rest
      exact .top
    | up _ above =>
      subst rest
      exact ih above

/-- What holds of a first directory and of the one above each other holds of all that a search takes. -/
lemma forall_mem {motive : Path → Prop} (way : Way stop first ds) (start : ∀ d ∈ first, motive d)
    (above : ∀ d q, motive d → ¬ d.same stop → d.parent? = some q → motive q) : ∀ d ∈ ds, motive d := by
  induction way with
  | top => simp
  | stop _ => exact List.forall_mem_singleton.mpr (start _ rfl)
  | @up d ds other _ ih =>
    have here : motive d := start d rfl
    exact List.forall_mem_cons.mpr ⟨here, ih fun q parent => above d q here other parent⟩

/-- A search does not leave the project when it starts in it. -/
lemma isBelow (way : Way stop first ds) (inside : ∀ d ∈ first, d.isBelow stop) : ∀ d ∈ ds, d.isBelow stop := by
  refine way.forall_mem (motive := fun d => d.isBelow stop) inside fun d q below other parent => ?_
  obtain ⟨c, comps⟩ := components_of_parent?_eq_some parent
  rw [Path.isBelow, List.isPrefixOf_iff_prefix] at below ⊢
  rw [comps, List.prefix_concat_iff] at below
  exact below.resolve_left fun e => other (same_iff.mpr (comps.trans e.symm))

/-- All directories on the way are written neatly when the first one is. -/
lemma isNeat (way : Way stop first ds) (neat : ∀ d ∈ first, IsNeat d) : ∀ d ∈ ds, IsNeat d :=
  way.forall_mem neat fun _ _ neat _ parent => neat.of_parent? parent

/-- Of the directories above its start a search has taken those below the one where it is. -/
lemma mem_of_isBelow (way : Way stop p.parent? (ds ++ d :: es)) {e : Path} (mem : e ∈ p.ancestors)
    (below : e.isBelow d) : e ∈ ds ++ [d] := by
  induction ds generalizing p with
  | nil =>
    generalize start : p.parent? = first at way
    have parent : p.parent? = some d := by cases way <;> exact start
    rw [ancestors_of_parent?_eq_some parent] at mem
    obtain rfl | mem := List.mem_cons.mp mem
    · exact List.mem_singleton_self _
    · rw [Path.isBelow, List.isPrefixOf_iff_prefix] at below
      exact absurd below.length_le (Nat.not_le.mpr (length_lt_of_mem_ancestors mem))
  | cons next ds ih =>
    rw [List.cons_append] at way
    generalize start : p.parent? = first, rest : ds ++ d :: es = further at way
    cases way with
    | stop _ => simp at rest
    | up _ above =>
      subst rest
      rw [ancestors_of_parent?_eq_some start] at mem
      obtain rfl | mem := List.mem_cons.mp mem
      · exact List.mem_cons_self
      · exact List.mem_cons_of_mem _ (ih above mem)

end Way

/-- The directories to search are those on the way from the active document up to the project root. -/
lemma way_directories (active projectRoot : Path) :
    Way projectRoot.normalize active.normalize.parent? (directories active projectRoot) := by
  rw [directories]
  generalize active.normalize = p, projectRoot.normalize = stop
  -- Each directory above has one step less.
  induction length : p.components.length using Nat.strong_induction_on generalizing p with
  | _ n ih =>
    cases parent : p.parent? with
    | none =>
      rw [ancestors_of_parent?_eq_none parent]
      exact .top
    | some q =>
      obtain ⟨c, comps⟩ := components_of_parent?_eq_some parent
      rw [ancestors_of_parent?_eq_some parent, through]
      split
      · rename_i here
        exact .stop here
      · rename_i other
        exact .up other (ih q.components.length (by simp [← length, comps]) q rfl)

end FigureGallery.Root
