import FigureGallery.Proofs.Include.Extension

/-!
# The spelling of included documents

A walk spells an absolute path in one way only, as the path of a location, but for the top, which gets an empty extension
for a name. From an absolute start and an absolute project root it comes across absolute paths only.
-/

namespace FigureGallery.Include

open FileTree FigureGallery.Path

/-- A path that is spelled as that of a location, unless it is relative or the top. -/
def IsTidy (p : Path) : Prop :=
  p.isAbsolute → p.components = [.root] ∨ ∃ location : Location, location.IsPlain ∧ p = pathOf location

lemma isTidy_normalize (p : Path) : IsTidy p.normalize := by
  intro absolute
  rw [isAbsolute_normalize] at absolute
  exact .inr (exists_normalize_eq_pathOf absolute)

/-- What is relative as seen from a relative directory is relative. -/
lemma not_isAbsolute_join {p q : Path} (hp : ¬ p.isAbsolute) (hq : ¬ q.isAbsolute) : ¬ (p.join q).isAbsolute := by
  by_cases empty : p.text = ""
  · rwa [join_of_text_eq empty]
  · rw [isAbsolute_iff, components_join empty hq, List.mem_append, not_or]
    exact ⟨mt isAbsolute_iff.mpr hp, fun mem => (ne_of_mem_steps mem).1 rfl⟩

/-- A name that does not start with a slash is relative. -/
lemma not_isAbsolute_name {name : String} (noSlash : '/' ∉ name.toList) (rest : String) :
    ¬ (⟨name ++ "." ++ rest⟩ : Path).isAbsolute := by
  cases e : name.toList with
  | nil => simp [isAbsolute, e]
  | cons c cs =>
    have other : c ≠ '/' := by
      rintro rfl
      simp [e] at noSlash
    simp [isAbsolute, e, other]

/-- A relative path stays relative when it gets the extension of documents. -/
lemma not_isAbsolute_withExtension {extension : String} {p : Path} (relative : ¬ p.isAbsolute) :
    ¬ (withExtension extension p).isAbsolute := by
  have directory : ¬ p.directory.isAbsolute := by
    rw [isAbsolute_iff, components_directory]
    exact fun mem => relative (isAbsolute_iff.mpr (List.dropLast_subset _ mem))
  rw [withExtension]
  split
  · exact relative
  · rw [withFileName]
    cases name : p.fileName? with
    | none => exact not_isAbsolute_join relative (not_isAbsolute_name (by simp) _)
    | some s =>
      have plain : Plain s.toList := plain_of_fileName? name
      exact not_isAbsolute_join directory (not_isAbsolute_name plain.no_slash _)

/-- A path in normal form is spelled in one way when it gets the extension of documents. -/
lemma isTidy_withExtension {extension : String} (noSlash : '/' ∉ extension.toList) {p : Path}
    (normal : p.normalize = p) : IsTidy (withExtension extension p) := by
  intro absolute
  have above : p.isAbsolute := by
    by_contra relative
    exact not_isAbsolute_withExtension relative absolute
  obtain ⟨location, plain, e⟩ := exists_normalize_eq_pathOf above
  rw [normal] at e
  subst e
  by_cases bare : bareExtension extension = ""
  · rw [withExtension, bare]
    split
    · exact .inr ⟨location, plain, rfl⟩
    · rw [withFileName]
      -- Without an extension only a dot is added to a name; the top has no name.
      obtain rfl | ⟨init, last, rfl⟩ := List.eq_nil_or_concat location
      · rw [fileName?_pathOf_nil]
        exact .inl (by decide)
      · rw [List.concat_eq_append] at plain ⊢
        have above := plain.above
        have dotted : Plain (last ++ "." ++ "").toList := by
          simpa using plain_name_extended plain.last (show '/' ∉ [] by simp)
        rw [fileName?_pathOf_concat plain, directory_pathOf_concat plain]
        refine .inr ⟨init ++ [last ++ "." ++ ""], fun name mem => ?_, join_pathOf above dotted⟩
        obtain mem | mem := List.mem_append.mp mem
        · exact above name mem
        · obtain rfl := List.mem_singleton.mp mem
          exact dotted
  · obtain ⟨other, plain', _, e⟩ := withExtension_pathOf bare noSlash plain
    exact .inr ⟨other, plain', e⟩

variable {source : Source} {options : Options}

/-- What a document includes is spelled in one way. -/
lemma isTidy_of_include (noSlash : '/' ∉ options.extension.toList) {document next : Path}
    (mem : next ∈ (graph source options).includes document) : IsTidy next := by
  obtain ⟨reference, rfl⟩ := exists_of_mem_includes mem
  exact isTidy_withExtension noSlash (normalize_resolveReference _ _ _)

/-- What a walk comes across is spelled in one way. -/
lemma isTidy_of_reached (noSlash : '/' ∉ options.extension.toList) {start p : Path}
    (reached : (graph source options).Reached start.normalize p) : IsTidy p := by
  cases reached with
  | start _ => exact isTidy_normalize start
  | step _ mem _ => exact isTidy_of_include noSlash mem

/-- From an absolute start everything behind it is absolute, if the top is no document. -/
lemma isAbsolute_of_reached {start p : Path} (absolute : start.isAbsolute)
    (rooted : ∀ root ∈ options.extraction.projectRoot, root.isAbsolute)
    (below : ∀ p, source.isReachable p → p.components ≠ [.root]) (reached : (graph source options).Reached start p) :
    p.isAbsolute := by
  induction reached with
  | start _ => exact absolute
  | @step document next reached mem _ ih =>
    have directory := isAbsolute_directory ih (below document reached.isReachable)
    obtain ⟨reference, rfl⟩ := exists_of_mem_includes mem
    obtain ⟨location, _, h⟩ := exists_resolveReference_eq_pathOf directory rooted reference
    rw [h]
    exact isAbsolute_withExtension (isAbsolute_pathOf location)

end FigureGallery.Include
