import FigureGallery.Proofs.Path.Normal

/-!
# References that start at the project root

A path without `..` that is seen from a directory adds its steps to the normal form of the directory. A reference with one
slash in front is seen from the project root in this way, and lies in the project. What follows the first of two slashes
starts with a slash itself: it stands alone, and the reference leads to a place below the top of the file tree, which
is in the project only by chance.
-/

namespace FigureGallery.Path

variable {p q : Path} {reference : String}

/-- Names are all kept, the last one comes first. -/
lemma foldl_foldStep_of_level {rooted : Bool} {steps : List Component} (level : ∀ c ∈ steps, ∃ s, c = .name s)
    (stack : List Component) : steps.foldl (foldStep rooted) stack = steps.reverse ++ stack := by
  induction steps generalizing stack with
  | nil => rfl
  | cons c steps ih =>
    obtain ⟨⟨s, rfl⟩, below⟩ := List.forall_mem_cons.mp level
    rw [List.foldl_cons, ih below, foldStep, List.reverse_cons, List.append_assoc, List.singleton_append]

/-- A path goes up by its steps only. -/
lemma up_mem_components_iff : .up ∈ q.components ↔ .up ∈ q.steps := by
  have lead : .up ∉ q.split.1.components := by cases q.split.1 <;> simp [Lead.components]
  rw [components_eq, List.mem_append, or_iff_right lead]

/-- The steps of a path without `..` are names. -/
lemma exists_name_of_mem_steps (level : .up ∉ q.components) : ∀ c ∈ q.steps, ∃ s, c = .name s := by
  intro c mem
  obtain ⟨not_root, not_here⟩ := ne_of_mem_steps mem
  cases c with
  | root => exact absurd rfl not_root
  | here => exact absurd rfl not_here
  | up => exact absurd (up_mem_components_iff.mpr mem) level
  | name s => exact ⟨s, rfl⟩

/-- A path without `..` has all its steps in its normal form. -/
lemma foldedSteps_of_level (level : .up ∉ q.components) : q.foldedSteps = q.steps := by
  have lead (rooted : Bool) : q.split.1.components.foldl (foldStep rooted) [] = [] := by
    cases q.split.1 <;> rfl
  rw [foldedSteps, components_eq, List.foldl_append, lead, foldl_foldStep_of_level (exists_name_of_mem_steps level),
    List.append_nil, List.reverse_reverse]

/-- A relative path without `..` adds its steps to the normal form of the directory it is seen from. -/
lemma components_normalize_join (relative : ¬ q.isAbsolute) (level : .up ∉ q.components) :
    (p.join q).normalize.components = p.normalize.components ++ q.steps := by
  by_cases hp : p.text = ""
  · have empty : p.normalize.components = [] := by
      rw [components_normalize, foldedSteps, components_eq_nil.mpr hp, isAbsolute, hp]
      rfl
    rw [join_of_text_eq hp, empty, components_normalize, if_neg relative, foldedSteps_of_level level]
  · have folded : (p.join q).foldedSteps = p.foldedSteps ++ q.steps := by
      rw [foldedSteps, isAbsolute_join_of_relative hp relative, components_join hp relative, List.foldl_append,
        foldl_foldStep_of_level (exists_name_of_mem_steps level), List.reverse_append, List.reverse_reverse, foldedSteps]
    rw [components_normalize, components_normalize, isAbsolute_join_of_relative hp relative, folded, List.append_assoc]

/-- A plain name becomes the last component of the normal form of a directory. -/
lemma Plain.components_normalize_join {name : String} (plain : Plain name.toList) (directory : Path) :
    (directory.join ⟨name⟩).normalize.components = directory.normalize.components ++ [.name name] := by
  rw [Path.components_normalize_join plain.not_isAbsolute (by simp [plain.components]), plain.steps]

/-- A reference with a slash in front is seen from the project root. -/
lemma resolveReference_of_rooted {cs : List Char} (h : reference.toList = '/' :: cs) (directory root : Path) :
    resolveReference directory reference (some root) = (root.join ⟨String.ofList cs⟩).normalize := by
  unfold resolveReference
  simp only [h]

/-- A reference without a slash in front is seen from the directory of the document. -/
lemma resolveReference_of_not_rooted (h : reference.toList.head? ≠ some '/') (directory : Path) (root : Option Path) :
    resolveReference directory reference root = (directory.join ⟨reference⟩).normalize := by
  unfold resolveReference
  split
  · rename_i written
    simp [written] at h
  · rfl

/-- A slash in front of a path is no step. -/
lemma steps_of_cons_slash {cs : List Char} (h : q.text.toList = '/' :: cs) :
    q.steps = (⟨String.ofList cs⟩ : Path).steps := by
  rw [steps, steps, h, String.toList_ofList, segments, if_pos rfl, List.filterMap_cons_none component?_nil]

/-- What follows a slash in front is absolute when it starts with a second one. -/
lemma isAbsolute_iff_of_cons_slash {cs : List Char} (h : reference.toList = '/' :: cs) :
    (⟨String.ofList cs⟩ : Path).isAbsolute ↔ ['/', '/'] <+: reference.toList := by
  rw [h, isAbsolute, String.toList_ofList, beq_iff_eq]
  cases cs with
  | nil => simp
  | cons c cs =>
    rw [List.cons_prefix_cons, List.cons_prefix_cons, List.head?_cons, Option.some.injEq]
    exact ⟨fun e => ⟨rfl, e.symm, List.nil_prefix⟩, fun h => h.2.1.symm⟩

/-- A reference with a slash in front and no `..` leads from the project root down by its steps when it is written with
one slash, and from the top of the file tree when it is written with more, whatever document refers to it. So it leads
out of the project just when it is written with more slashes than one and, as a path, lies outside. -/
theorem resolveReference_isBelow_iff (root : Path) (rooted : reference.toList.head? = some '/')
    (level : .up ∉ (⟨reference⟩ : Path).components) :
    (∀ directory directory' : Path,
      resolveReference directory reference (some root) = resolveReference directory' reference (some root)) ∧
    ∀ directory : Path,
      (resolveReference directory reference (some root)).components =
        (if ['/', '/'] <+: reference.toList then [.root] else root.normalize.components) ++ (⟨reference⟩ : Path).steps ∧
      ((resolveReference directory reference (some root)).isBelow root.normalize ↔
        (['/', '/'] <+: reference.toList → (⟨reference⟩ : Path).normalize.isBelow root.normalize)) := by
  obtain ⟨cs, h⟩ := List.head?_eq_some_iff.mp rooted
  have resolved := resolveReference_of_rooted h
  have same : (⟨reference⟩ : Path).steps = (⟨String.ofList cs⟩ : Path).steps := steps_of_cons_slash h
  have whole : (⟨reference⟩ : Path).normalize.components = [.root] ++ (⟨reference⟩ : Path).steps := by
    have top : (⟨reference⟩ : Path).isAbsolute := by simp [isAbsolute, h]
    rw [components_normalize, if_pos top, foldedSteps_of_level level]
  have rest : .up ∉ (⟨String.ofList cs⟩ : Path).components := by
    rwa [up_mem_components_iff, ← same, ← up_mem_components_iff]
  refine ⟨fun directory directory' => by rw [resolved, resolved], fun directory => ?_⟩
  rw [resolved]
  by_cases double : ['/', '/'] <+: reference.toList
  · have alone := (isAbsolute_iff_of_cons_slash h).mpr double
    have comps : (root.join ⟨String.ofList cs⟩).normalize.components = [.root] ++ (⟨reference⟩ : Path).steps := by
      rw [join_of_isAbsolute root alone, components_normalize, if_pos alone, foldedSteps_of_level rest, same]
    refine ⟨by rw [comps, if_pos double], ?_⟩
    rw [isBelow, isBelow, comps, whole]
    exact ⟨fun below _ => below, fun below => below double⟩
  · have comps := components_normalize_join (p := root) (mt (isAbsolute_iff_of_cons_slash h).mp double) rest
    refine ⟨by rw [comps, if_neg double, same], fun _ many => absurd many double, fun _ => ?_⟩
    rw [isBelow, comps, List.isPrefixOf_iff_prefix]
    exact List.prefix_append _ _

/-- With a second slash in front a reference leaves the project `/p`, and with one it does not. -/
theorem resolveReference_isBelow_iff_slashes :
    resolveReference ⟨"/p/ch"⟩ "//a.png" (some ⟨"/p"⟩) = ⟨"/a.png"⟩ ∧
    ¬ (resolveReference ⟨"/p/ch"⟩ "//a.png" (some ⟨"/p"⟩)).isBelow (⟨"/p"⟩ : Path).normalize ∧
    (resolveReference ⟨"/p/ch"⟩ "/a.png" (some ⟨"/p"⟩)).isBelow (⟨"/p"⟩ : Path).normalize := by
  have rooted : "//a.png".toList.head? = some '/' ∧ "/a.png".toList.head? = some '/' := by decide
  obtain ⟨_, outside⟩ := resolveReference_isBelow_iff ⟨"/p"⟩ rooted.1 (by decide)
  obtain ⟨_, inside⟩ := resolveReference_isBelow_iff ⟨"/p"⟩ rooted.2 (by decide)
  refine ⟨by decide, fun below => ?_, (inside ⟨"/p/ch"⟩).2.mpr fun double => absurd double (by decide)⟩
  exact absurd ((outside ⟨"/p/ch"⟩).2.mp below (by decide)) (by decide)

end FigureGallery.Path
