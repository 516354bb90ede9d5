import FigureGallery.Proofs.Path.Normal

/-!
# Neat paths

A path is written neatly when no part of its text is idle, so that the text follows from the components. Paths in normal
form are neat, and so are the paths above them and the names in them. Of two neat paths, one below the other, the writing
of the lower one starts with that of the upper one.
-/

namespace FigureGallery.Path

/-- Parts of a path that are a step each. -/
def AreSteps (ss : List (List Char)) : Prop :=
  ∀ s ∈ ss, '/' ∉ s ∧ isIdle s = false

/-- A path that is written without idle parts. -/
def IsNeat (p : Path) : Prop :=
  ∃ lead ss, lead ≠ .here ∧ AreSteps ss ∧ p = ofSplit lead ss

/-- The step that a part is, unless it is idle. -/
def stepOf (s : List Char) : Component :=
  if s = ['.', '.'] then .up else .name (String.ofList s)

/-- What a path is written with in front of its parts. -/
def Lead.start : Lead → List Char
  | .root => ['/']
  | .here => ['.', '/']
  | .free => []

variable {lead : Lead} {ss ts : List (List Char)} {p q : Path}

lemma stepOf_injective : Function.Injective stepOf := by
  intro s t e
  unfold stepOf at e
  split at e <;> split at e
  · simp_all
  · simp at e
  · simp at e
  · exact String.ofList_injective (Component.name.inj e)

/-- The step that a part is goes up or to a name. -/
lemma stepOf_ne (s : List Char) : stepOf s ≠ .root ∧ stepOf s ≠ .here := by
  unfold stepOf
  split <;> simp

namespace AreSteps

/-- Each part is one step. -/
lemma filterMap_component? (steps : AreSteps ss) : ss.filterMap component? = ss.map stepOf := by
  induction ss with
  | nil => rfl
  | cons s ss ih =>
    obtain ⟨⟨_, not_idle⟩, rest⟩ := List.forall_mem_cons.mp steps
    have step : component? s = some (stepOf s) := by
      unfold component? stepOf
      rw [not_idle, if_neg Bool.false_ne_true]
      split <;> rfl
    rw [List.filterMap_cons_some step, List.map_cons, ih rest]

lemma components_ofSplit (steps : AreSteps ss) (lead : Lead) :
    (ofSplit lead ss).components = lead.components ++ ss.map stepOf := by
  rw [Path.components_ofSplit lead (fun s mem => (steps s mem).1), steps.filterMap_component?]
  intro _ s mem
  exact (steps s (List.mem_of_mem_head? mem)).2

/-- Joined steps do not start with a slash. -/
lemma head?_joinSegments (steps : AreSteps ss) : (joinSegments ss).head? ≠ some '/' := by
  cases ss with
  | nil => simp
  | cons s ss =>
    obtain ⟨noSlash, not_idle⟩ := steps s (by simp)
    cases s with
    | nil => simp [isIdle] at not_idle
    | cons c cs =>
      rw [Path.head?_joinSegments]
      rintro ⟨⟩
      exact noSlash List.mem_cons_self

/-- Steps are the parts of the path that is put together from them. -/
lemma split_ofSplit (steps : AreSteps ss) (h : lead ≠ .here) :
    (ofSplit lead ss).split.1 = lead ∧ trimIdle (ofSplit lead ss).split.2 = ss := by
  obtain rfl | below := eq_or_ne ss []
  · cases lead with
    | root => exact ⟨rfl, rfl⟩
    | here => exact absurd rfl h
    | free => exact ⟨rfl, rfl⟩
  · have parts : segments (joinSegments ss) = ss := segments_joinSegments below fun s mem => (steps s mem).1
    have trimmed : trimIdle ss = ss := trimIdle_eq_self fun s mem => (steps s mem).2
    cases lead with
    | root =>
      unfold split ofSplit
      rw [String.toList_ofList]
      exact ⟨rfl, (congrArg trimIdle parts).trans trimmed⟩
    | here => exact absurd rfl h
    | free =>
      obtain ⟨s, rest, rfl⟩ := List.exists_cons_of_ne_nil below
      have lead : (ofSplit .free (s :: rest)).split.1 = .free := by
        rw [split_fst, ofSplit, String.toList_ofList]
        exact leadOf_joinSegments (steps s (by simp)).2 fun t mem => (steps t mem).1
      refine ⟨lead, ?_⟩
      obtain ⟨cs, _, e⟩ | ⟨_, ss, _, e⟩ | ⟨_, _, e⟩ := split_cases (ofSplit .free (s :: rest))
      · simp [e] at lead
      · simp [e] at lead
      · rw [e, ofSplit, String.toList_ofList, parts, trimmed]

/-- Above a path that is written with its steps is the one without the last step. -/
lemma parent?_ofSplit {s : List Char} (steps : AreSteps (ss ++ [s])) (h : lead ≠ .here) :
    (ofSplit lead (ss ++ [s])).parent? = some (ofSplit lead ss) := by
  obtain ⟨start, parts⟩ := steps.split_ofSplit h
  have above : ∀ t ∈ ss, isIdle t = false := fun t mem => (steps t (List.mem_append_left _ mem)).2
  rw [parent?, start, parts, List.reverse_append, List.reverse_singleton, List.singleton_append]
  dsimp only
  rw [List.reverse_reverse, trimIdle_eq_self above]

end AreSteps

lemma toList_ofSplit (h : lead ≠ .here) : (ofSplit lead ss).text.toList = lead.start ++ joinSegments ss := by
  cases lead with
  | root => rw [ofSplit, String.toList_ofList]; rfl
  | here => exact absurd rfl h
  | free => rw [ofSplit, String.toList_ofList]; rfl

/-- A path in normal form is neat. -/
lemma isNeat_normalize (p : Path) : IsNeat p.normalize := by
  have steps : AreSteps (p.foldedSteps.map Component.written) := by
    intro s mem
    obtain ⟨c, hc, rfl⟩ := List.mem_map.mp mem
    obtain ⟨noSlash, not_idle, _⟩ := (folded_foldedSteps p).written (List.mem_reverse.mpr hc)
    exact ⟨noSlash, not_idle⟩
  rw [normalize]
  split
  · exact ⟨.root, _, by simp, steps, rfl⟩
  · exact ⟨.free, _, by simp, steps, rfl⟩

/-- More steps are written behind the path, with at most one slash in between. -/
lemma toList_ofSplit_append (h : lead ≠ .here) (ss ts : List (List Char)) :
    (ofSplit lead (ss ++ ts)).text.toList = (ofSplit lead ss).text.toList ++ joinSegments ts ∨
      (ofSplit lead (ss ++ ts)).text.toList = (ofSplit lead ss).text.toList ++ '/' :: joinSegments ts := by
  rw [toList_ofSplit h, toList_ofSplit h]
  obtain rfl | above := eq_or_ne ss []
  · exact .inl (by simp)
  · obtain rfl | rest := eq_or_ne ts []
    · exact .inl (by simp)
    · exact .inr (by rw [joinSegments_append above rest, List.append_assoc])

namespace IsNeat

/-- The path above a neat path is neat. -/
lemma of_parent? (neat : IsNeat p) (h : p.parent? = some q) : IsNeat q := by
  obtain ⟨lead, ss, notHere, steps, rfl⟩ := neat
  obtain rfl | ⟨init, s, rfl⟩ := List.eq_nil_or_concat ss
  · cases lead with
    | root => simp [show (ofSplit .root []).parent? = none from rfl] at h
    | here => exact absurd rfl notHere
    | free => simp [show (ofSplit .free []).parent? = none from rfl] at h
  · rw [List.concat_eq_append] at steps h
    rw [steps.parent?_ofSplit notHere] at h
    exact ⟨lead, init, notHere, fun t mem => steps t (List.mem_append_left _ mem), (Option.some.inj h).symm⟩

lemma directory (neat : IsNeat p) : IsNeat p.directory := by
  rw [Path.directory]
  cases parent : p.parent? with
  | none => exact ⟨.free, [], by simp, by simp [AreSteps], rfl⟩
  | some q => exact neat.of_parent? parent

/-- A name in a neat directory is a neat path. -/
lemma join (neat : IsNeat p) {name : String} (plain : Plain name.toList) : IsNeat (p.join ⟨name⟩) := by
  obtain ⟨lead, ss, notHere, steps, rfl⟩ := neat
  have named : AreSteps (ss ++ [name.toList]) :=
    List.forall_mem_append.mpr ⟨steps, List.forall_mem_singleton.mpr ⟨plain.no_slash, plain.not_idle⟩⟩
  refine ⟨lead, ss ++ [name.toList], notHere, named, ?_⟩
  have relative := plain.not_isAbsolute
  have text : ((ofSplit lead ss).join ⟨name⟩).text.toList = (ofSplit lead (ss ++ [name.toList])).text.toList := by
    rw [toList_ofSplit notHere]
    obtain rfl | ⟨init, s, rfl⟩ := List.eq_nil_or_concat ss
    · cases lead with
      | root => simp [Path.join, relative, ofSplit, Lead.start]
      | here => exact absurd rfl notHere
      | free => simp [Path.join, relative, ofSplit, Lead.start]
    · rw [List.concat_eq_append] at steps ⊢
      obtain ⟨noSlash, not_idle⟩ := steps s (by simp)
      have ends : (ofSplit lead (init ++ [s])).text.toList.getLast?.all (· == '/') = false := by
        obtain rfl | ⟨cs, c, rfl⟩ := List.eq_nil_or_concat s
        · simp [isIdle] at not_idle
        · have other : c ≠ '/' := by
            rintro rfl
            simp at noSlash
          have last : (joinSegments (init ++ [cs ++ [c]])).getLast? = some c := by
            obtain rfl | above := eq_or_ne init []
            · simp
            · rw [joinSegments_concat above, ← List.cons_append, ← List.append_assoc, List.getLast?_concat]
          rw [List.concat_eq_append, toList_ofSplit notHere, List.getLast?_append, last]
          simp [other]
      rw [Path.join, if_neg relative, ends, if_neg Bool.false_ne_true, joinSegments_concat (by simp)]
      simp [toList_ofSplit notHere]
  exact Path.mk.injEq _ _ ▸ String.toList_inj.mp text

/-- A neat path is written with a neat path that it is below in front, and then with at most one slash and more steps. -/
lemma exists_of_isBelow (neat : IsNeat p) (neat' : IsNeat q) (below : p.isBelow q) :
    ∃ ts, AreSteps ts ∧ (p.text.toList = q.text.toList ++ joinSegments ts ∨
      p.text.toList = q.text.toList ++ '/' :: joinSegments ts) := by
  obtain ⟨lead, ss, notHere, steps, rfl⟩ := neat
  obtain ⟨lead', rs, notHere', steps', rfl⟩ := neat'
  rw [isBelow, List.isPrefixOf_iff_prefix, steps.components_ofSplit, steps'.components_ofSplit] at below
  have from_same (more : rs.map stepOf <+: ss.map stepOf) (same : lead' = lead) :
      ∃ ts, AreSteps ts ∧ ((ofSplit lead ss).text.toList = (ofSplit lead' rs).text.toList ++ joinSegments ts ∨
        (ofSplit lead ss).text.toList = (ofSplit lead' rs).text.toList ++ '/' :: joinSegments ts) := by
    subst same
    obtain ⟨ts, rfl⟩ := (List.prefix_map_iff_of_injective stepOf_injective).mp more
    exact ⟨ts, (List.forall_mem_append.mp steps).2, toList_ofSplit_append notHere rs ts⟩
  cases lead' with
  | here => exact absurd rfl notHere'
  | root =>
    cases lead with
    | here => exact absurd rfl notHere
    | root => exact from_same (List.cons_prefix_cons.mp below).2 rfl
    | free =>
      obtain ⟨s, _, e⟩ := List.mem_map.mp (below.subset (List.mem_cons_self : Component.root ∈ _))
      exact absurd e (stepOf_ne s).1
  | free =>
    cases lead with
    | here => exact absurd rfl notHere
    | free => exact from_same below rfl
    | root =>
      cases rs with
      | nil => exact ⟨ss, steps, .inr (by rw [toList_ofSplit notHere]; rfl)⟩
      | cons r rs => exact absurd (List.cons_prefix_cons.mp below).1 (stepOf_ne r).1

/-- A neat path has no step that stays in place. -/
lemma here_notMem (neat : IsNeat p) : .here ∉ p.components := by
  obtain ⟨lead, ss, notHere, steps, rfl⟩ := neat
  rw [steps.components_ofSplit, List.mem_append, not_or]
  refine ⟨?_, fun mem => ?_⟩
  · cases lead <;> simp [Lead.components] at notHere ⊢
  · obtain ⟨s, _, h⟩ := List.mem_map.mp mem
    exact (stepOf_ne s).2 h

/-- Neat paths with the same components are written alike. -/
lemma eq_of_components_eq (neat : IsNeat p) (neat' : IsNeat q) (h : p.components = q.components) : p = q := by
  obtain ⟨lead, _⟩ := split_congr h
  obtain ⟨lead₁, ss, notHere, steps, rfl⟩ := neat
  obtain ⟨lead₂, ts, notHere', steps', rfl⟩ := neat'
  rw [(steps.split_ofSplit notHere).1, (steps'.split_ofSplit notHere').1] at lead
  subst lead
  rw [steps.components_ofSplit, steps'.components_ofSplit] at h
  rw [(List.map_inj_right fun _ _ e => stepOf_injective e).mp (List.append_cancel_left h)]

end IsNeat

end FigureGallery.Path
