import FigureGallery.FileTree
import FigureGallery.Proofs.Path.Normal
import Mathlib.Data.List.DropRight

/-!
# File names

The file name of a path is its last component, if that is a name. So spellings with the same components have one file
name and one extension, and a path keeps both when it is brought into normal form. A normal form without a file name is
the top or goes up only.
-/

namespace FigureGallery

open FigureGallery.Path

namespace Path

/-- The parts at the end of a path give its last component. -/
lemma getLast?_components (p : Path) :
    p.components.getLast? = match (trimIdle p.split.2).getLast? with
      | some s => component? s
      | none => p.split.1.components.getLast? := by
  have comps : p.components = p.split.1.components ++ (trimIdle p.split.2).filterMap component? := by
    rw [filterMap_trimIdle]; rfl
  rw [comps]
  obtain e | ⟨init, s, e⟩ := List.eq_nil_or_concat (trimIdle p.split.2)
  · rw [e, List.filterMap_nil, List.append_nil]
    rfl
  · rw [List.concat_eq_append] at e
    have not_idle := not_idle_of_trimIdle_eq e
    obtain ⟨c, hc⟩ : ∃ c, component? s = some c :=
      Option.ne_none_iff_exists'.mp (mt component?_eq_none.mp (by simp [not_idle]))
    rw [e, List.filterMap_append, List.filterMap_cons_some hc, List.filterMap_nil, ← List.append_assoc,
      List.getLast?_concat, List.getLast?_concat]
    exact hc.symm

/-- The file name is the last component, when that is a name. -/
lemma fileName?_eq_some_iff {p : Path} {s : String} :
    p.fileName? = some s ↔ p.components.getLast? = some (.name s) := by
  rw [getLast?_components, fileName?]
  cases e : (trimIdle p.split.2).getLast? with
  | none => cases p.split.1 <;> simp [Lead.components]
  | some part =>
    obtain ⟨init, e⟩ := List.getLast?_eq_some_iff.mp e
    have not_idle := not_idle_of_trimIdle_eq e
    by_cases up : part = ['.', '.']
    · subst up
      simp
    · simp [component?, not_idle, up]

/-- Spellings with the same components have one file name. -/
lemma fileName?_congr {p q : Path} (h : p.components = q.components) : p.fileName? = q.fileName? := by
  refine Option.ext fun s => ?_
  rw [fileName?_eq_some_iff, fileName?_eq_some_iff, h]

/-- A file name is plain. -/
lemma plain_of_fileName? {p : Path} {s : String} (name : p.fileName? = some s) : Plain s.toList :=
  plain_of_name_mem (List.mem_of_getLast? (fileName?_eq_some_iff.mp name))

/-- Spellings with the same components have the same extension. -/
lemma hasExtension_congr {p q : Path} (h : p.components = q.components) (extension : String) :
    p.hasExtension extension = q.hasExtension extension := by
  rw [hasExtension, hasExtension, extension?, extension?, fileName?_congr h]

/-- The extension of a path is one of its file name. -/
lemma hasExtension_iff {p : Path} {extension : String} :
    p.hasExtension extension ↔
      ∃ s, p.fileName? = some s ∧ extensionOf? s.toList = some (bareExtension extension).toList := by
  rw [hasExtension, extension?, beq_iff_eq, Option.bind_eq_some_iff]

/-- Paths with one file name have the same extension. -/
lemma hasExtension_of_fileName?_eq {p q : Path} {extension : String} (has : p.hasExtension extension)
    (h : ∀ s, p.fileName? = some s → q.fileName? = some s) : q.hasExtension extension := by
  obtain ⟨s, name, e⟩ := hasExtension_iff.mp has
  exact hasExtension_iff.mpr ⟨s, h s name, e⟩

/-- A path with a file name has a directory. -/
lemma exists_parent?_of_fileName? {p : Path} {s : String} (h : p.fileName? = some s) :
    ∃ q, p.parent? = some q ∧ p.components = q.components ++ [.name s] := by
  rw [fileName?_eq_some_iff] at h
  obtain ⟨_, e | e⟩ | ⟨q, c, parent, e⟩ := parent?_cases p
  · simp [e] at h
  · simp [e] at h
  · rw [e, List.getLast?_concat] at h
    obtain rfl := Option.some.inj h
    exact ⟨q, parent, e⟩

/-- A path keeps its file name in normal form. -/
lemma fileName?_normalize {p : Path} {s : String} (h : p.fileName? = some s) : p.normalize.fileName? = some s := by
  rw [fileName?_eq_some_iff] at h ⊢
  obtain ⟨init, e⟩ := List.getLast?_eq_some_iff.mp h
  have steps : p.foldedSteps = (init.foldl (foldStep p.isAbsolute) []).reverse ++ [.name s] := by
    rw [foldedSteps, e, List.foldl_append, List.foldl_cons, List.foldl_nil, foldStep, List.reverse_cons]
  rw [components_normalize, steps, ← List.append_assoc, List.getLast?_concat]

/-- A path keeps its file name when it is seen from a directory. -/
lemma fileName?_join {p q : Path} {s : String} (hp : p.text ≠ "") (h : q.fileName? = some s) :
    (p.join q).fileName? = some s := by
  by_cases hq : q.isAbsolute
  · rwa [join_of_isAbsolute p hq]
  · rw [fileName?_eq_some_iff] at h ⊢
    have last : q.steps.getLast? = some (.name s) := by
      -- The beginning of a path is no name, so the name is among its steps.
      rw [components_eq, List.getLast?_append] at h
      cases e : q.steps.getLast? with
      | some c =>
        rw [e] at h
        simpa using h
      | none =>
        rw [e] at h
        cases lead : q.split.1 <;> simp [lead, Lead.components] at h
    rw [components_join hp hq, List.getLast?_append, last]
    rfl

/-- A plain name is its own file name. -/
lemma fileName?_of_plain {s : String} (plain : Plain s.toList) : (⟨s⟩ : Path).fileName? = some s := by
  rw [fileName?_eq_some_iff, plain.components]
  rfl

/-- What is seen from a directory under a plain name has that file name. -/
lemma fileName?_join_of_plain {s : String} (plain : Plain s.toList) (p : Path) : (p.join ⟨s⟩).fileName? = some s := by
  rw [fileName?_eq_some_iff, plain.components_join, List.getLast?_concat]

/-- What follows a dot behind something is an extension, if it has no dot itself. -/
lemma extensionOf?_append {name extension : List Char} (named : name ≠ []) (noDot : '.' ∉ extension) :
    extensionOf? (name ++ '.' :: extension) = some extension := by
  have behind : ∀ c ∈ extension.reverse, (c != '.') = true := by
    intro c mem
    rw [bne_iff_ne]
    rintro rfl
    exact noDot (List.mem_reverse.mp mem)
  have e : (name ++ '.' :: extension).reverse = extension.reverse ++ '.' :: name.reverse := by simp
  obtain ⟨c, cs, hc⟩ := List.exists_cons_of_ne_nil (mt List.reverse_eq_nil_iff.mp named)
  rw [extensionOf?, e, List.dropWhile_append_of_pos behind, List.takeWhile_append_of_pos behind, hc]
  simp

/-- The extension of a name stands behind its last dot, with something in front of that. -/
lemma extensionOf?_eq_some_iff {name extension : List Char} : extensionOf? name = some extension ↔
    ∃ start, start ≠ [] ∧ '.' ∉ extension ∧ name = start ++ '.' :: extension := by
  constructor
  · intro h
    unfold extensionOf? at h
    split at h
    · rename_i c d ds rest
      obtain rfl := Option.some.inj h
      have dot : c = '.' := by
        have := List.head?_dropWhile_not (· != '.') name.reverse
        simpa [rest] using this
      refine ⟨(d :: ds).reverse, by simp, fun mem => ?_, ?_⟩
      · simpa using List.mem_takeWhile_imp (List.mem_reverse.mp mem)
      · have whole := congrArg List.reverse (List.takeWhile_append_dropWhile (p := (· != '.')) (l := name.reverse))
        rw [rest, dot, List.reverse_append, List.reverse_reverse, List.reverse_cons, List.append_assoc] at whole
        exact whole.symm
    · simp at h
  · rintro ⟨start, named, noDot, rfl⟩
    exact extensionOf?_append named noDot

/-- An extension loses its leading dots once. -/
@[simp]
lemma bareExtension_bareExtension (extension : String) :
    bareExtension (bareExtension extension) = bareExtension extension := by
  rw [bareExtension, bareExtension, String.toList_ofList, List.dropWhile_idempotent]

/-- An extension that a path has is written with neither dots nor slashes. -/
lemma notMem_of_hasExtension {p : Path} {extension : String} (has : p.hasExtension extension) :
    '.' ∉ (bareExtension extension).toList ∧ '/' ∉ (bareExtension extension).toList := by
  obtain ⟨s, name, e⟩ := hasExtension_iff.mp has
  have plain : Plain s.toList := plain_of_fileName? name
  obtain ⟨start, _, noDot, e⟩ := extensionOf?_eq_some_iff.mp e
  refine ⟨noDot, fun mem => plain.no_slash ?_⟩
  rw [e]
  exact List.mem_append_right _ (List.mem_cons_of_mem _ mem)

/-- A path with another file name has that file name. -/
lemma fileName?_withFileName {p : Path} {s t : String} (name : p.fileName? = some s) (plain : Plain t.toList) :
    (p.withFileName t).fileName? = some t := by
  rw [withFileName, name, Option.isSome_some, if_pos rfl, fileName?_join_of_plain plain]

/-- A normal form without a file name is the top, or goes up only. -/
lemma components_of_fileName?_eq_none {p : Path} (normal : p.normalize = p) (none : p.fileName? = none) :
    (p.isAbsolute ∧ p.components = [.root]) ∨ (¬ p.isAbsolute ∧ ∃ n, p.components = List.replicate n .up) := by
  have folded := folded_foldedSteps p
  have comps := components_normalize p
  rw [normal] at comps
  generalize e : p.foldedSteps.reverse = stack at folded
  have steps : p.foldedSteps = stack.reverse := by rw [← e, List.reverse_reverse]
  cases folded with
  | ups n h =>
    rw [steps, List.reverse_replicate] at comps
    by_cases absolute : p.isAbsolute
    · obtain rfl := h absolute
      exact .inl ⟨absolute, by simpa [absolute] using comps⟩
    · exact .inr ⟨absolute, n, by simpa [absolute] using comps⟩
  | @name stack s _ _ =>
    have last : p.components.getLast? = some (.name s) := by
      rw [comps, steps, List.reverse_cons, ← List.append_assoc, List.getLast?_concat]
    simp [fileName?_eq_some_iff.mpr last] at none

end Path

namespace FileTree

/-- The path of a working directory is not empty. -/
lemma workingPath_ne_empty (tree : FileTree) : tree.workingPath.text ≠ "" := by
  intro e
  have := congrArg String.toList e
  simp [workingPath, pathOf, ofSplit] at this

/-- A path keeps its file name when it is seen from the top. -/
lemma fileName?_absolute (tree : FileTree) {p : Path} {s : String} (h : p.fileName? = some s) :
    (tree.absolute p).fileName? = some s := by
  rw [absolute, Path.absolute]
  split
  · exact h
  · exact fileName?_normalize (fileName?_join tree.workingPath_ne_empty h)

end FileTree

end FigureGallery
