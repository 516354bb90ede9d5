import FigureGallery.Proofs.Include.Tidy
import FigureGallery.Proofs.Path.Neat
import Mathlib.Data.List.Pairwise

/-!
# One spelling for each document

A walk takes documents with the same steps for one document, however they are spelled. All the same it comes across each of
them under one spelling only: what an include leads to is brought into normal form and then gets the extension of documents,
and the outcome is written in one way for given steps. So walks over different sources list a document under one spelling
if both of them list it.
-/

namespace FigureGallery.Include

open FigureGallery.Path

/-- A path with an extension added to its file name, or with the extension for a file name. -/
def extended (extension : String) (p : Path) : Path :=
  p.withFileName (p.fileName?.getD "" ++ "." ++ extension)

variable {extension : String} {p q : Path}

lemma withExtension_of_not_has (h : ¬ p.hasExtension extension) :
    withExtension extension p = extended (bareExtension extension) p := by
  rw [withExtension, if_neg h]
  rfl

/-- A relative path is written behind the directory that it is seen from. -/
lemma exists_text_join_eq (p : Path) :
    ∃ gap, ∀ name : String, ¬ (⟨name⟩ : Path).isAbsolute → (p.join ⟨name⟩).text = p.text ++ gap ++ name := by
  by_cases slash : p.text.toList.getLast?.all (· == '/')
  · exact ⟨"", fun name relative => by rw [join, if_neg relative, if_pos slash, String.append_empty]⟩
  · exact ⟨"/", fun name relative => by rw [join, if_neg relative, if_neg slash]⟩

/-- The file name of a path, if it has one, is written without slashes. -/
lemma slash_notMem_fileName? (p : Path) : '/' ∉ (p.fileName?.getD "").toList := by
  cases name : p.fileName? with
  | none => simp
  | some s => exact (plain_of_fileName? name).no_slash

/-- An extension is written at the end, behind a dot. -/
lemma exists_text_extended_eq (p : Path) :
    ∃ start, ∀ extension, (extended extension p).text = start ++ "." ++ extension := by
  obtain ⟨gap, written⟩ := exists_text_join_eq (if p.fileName?.isSome then p.directory else p)
  refine ⟨(if p.fileName?.isSome then p.directory else p).text ++ gap ++ p.fileName?.getD "", fun extension => ?_⟩
  rw [extended, withFileName, written _ (not_isAbsolute_name (slash_notMem_fileName? p) extension)]
  simp only [String.append_assoc]

/-- What stands behind a slash in the extension stands behind the path with the rest of the extension. -/
lemma extended_slash (first rest : String) (p : Path) :
    extended (first ++ ("/" ++ rest)) p = ⟨(extended first p).text ++ ("/" ++ rest)⟩ ∧
      (extended (first ++ ("/" ++ rest)) p).components = (extended first p).components ++ (⟨rest⟩ : Path).steps := by
  obtain ⟨start, written⟩ := exists_text_extended_eq p
  have split : extended (first ++ ("/" ++ rest)) p = ⟨(extended first p).text ++ ("/" ++ rest)⟩ := by
    refine congrArg Path.mk (?_ : (extended (first ++ ("/" ++ rest)) p).text = _)
    simp only [written, String.append_assoc]
  refine ⟨split, ?_⟩
  have toList : ((extended first p).text ++ ("/" ++ rest)).toList = (extended first p).text.toList ++ '/' :: rest.toList := by
    simp
  have nonempty : (extended first p).text.toList ≠ [] := by
    rw [written]
    simp
  rw [split, components_eq, components_eq, split_fst, split_fst, Path.steps, Path.steps, toList,
    leadOf_append_slash nonempty, segments_append_slash, List.filterMap_append, List.append_assoc]
  rfl

/-- The dot of an empty extension is idle when there is no name in front of it. -/
lemma components_join_dot (p : Path) : (p.join ⟨"."⟩).components = if p.text = "" then [.here] else p.components := by
  split
  · rename_i empty
    rw [join_of_text_eq empty]
    decide
  · rename_i nonempty
    rw [components_join nonempty (by decide), show (⟨"."⟩ : Path).steps = [] by decide, List.append_nil]

lemma fileName?_join_dot (nameless : p.fileName? = none) : (p.join ⟨"."⟩).fileName? = none := by
  refine Option.eq_none_iff_forall_ne_some.mpr fun s name => ?_
  rw [fileName?_eq_some_iff, components_join_dot] at name
  split at name
  · simp at name
  · rw [← fileName?_eq_some_iff, nameless] at name
    simp at name

lemma eq_of_components_join_dot_eq (neat : IsNeat p) (neat' : IsNeat q)
    (h : (p.join ⟨"."⟩).components = (q.join ⟨"."⟩).components) : p = q := by
  rw [components_join_dot, components_join_dot] at h
  split at h <;> split at h
  · rename_i empty empty'
    exact Path.mk.injEq _ _ ▸ empty.trans empty'.symm
  · exact absurd (h ▸ List.mem_singleton_self _) neat'.here_notMem
  · exact absurd (h ▸ List.mem_singleton_self _) neat.here_notMem
  · exact neat.eq_of_components_eq neat' h

/-- A path in normal form that gets an extension is neat and has a file name, unless a lone dot is added. -/
lemma extended_cases (normal : p.normalize = p) (noSlash : '/' ∉ extension.toList)
    (noDot : extension.toList.head? ≠ some '.') :
    (IsNeat (extended extension p) ∧ (extended extension p).fileName?.isSome) ∨
      (p.fileName? = none ∧ extended extension p = p.join ⟨"."⟩) := by
  have neat : IsNeat p := normal ▸ isNeat_normalize p
  cases name : p.fileName? with
  | some s =>
    have plain : Plain (s ++ "." ++ extension).toList := by
      have named : Plain s.toList := plain_of_fileName? name
      simpa using plain_name_extended named noSlash
    refine .inl ⟨?_, ?_⟩
    · rw [extended, withFileName, name, Option.isSome_some, if_pos rfl]
      exact neat.directory.join plain
    · rw [extended, name, Option.getD_some, fileName?_withFileName name plain]
      rfl
  | none =>
    have joined : extended extension p = p.join ⟨"." ++ extension⟩ := by
      rw [extended, withFileName, name]
      rfl
    rw [joined]
    cases e : extension.toList with
    | nil =>
      rw [String.toList_eq_nil_iff] at e
      subst e
      exact .inr ⟨rfl, rfl⟩
    | cons c cs =>
      rw [e] at noSlash noDot
      have plain : Plain ("." ++ extension).toList := by
        rw [String.toList_append, e]
        exact plain_dotted List.not_mem_nil (fun dot => noDot (congrArg some dot)) noSlash
      refine .inl ⟨neat.join plain, ?_⟩
      by_cases empty : p.text = ""
      · rw [join_of_text_eq empty, fileName?_of_plain plain]
        rfl
      · rw [fileName?_join empty (fileName?_of_plain plain)]
        rfl

/-- Two paths in normal form that have the same steps with an extension are written alike with it. -/
lemma extended_eq_of_components_eq (normal : p.normalize = p) (normal' : q.normalize = q)
    (noDot : extension.toList.head? ≠ some '.') (h : (extended extension p).components = (extended extension q).components) :
    extended extension p = extended extension q := by
  have simple {first : String} (noSlash : '/' ∉ first.toList) (noDot : first.toList.head? ≠ some '.')
      (h : (extended first p).components = (extended first q).components) : extended first p = extended first q := by
    obtain ⟨neat, named⟩ | ⟨nameless, e⟩ := extended_cases normal noSlash noDot
    · obtain ⟨neat', _⟩ | ⟨nameless', e'⟩ := extended_cases normal' noSlash noDot
      · exact neat.eq_of_components_eq neat' h
      · rw [fileName?_congr h, e', fileName?_join_dot nameless'] at named
        simp at named
    · obtain ⟨_, named'⟩ | ⟨nameless', e'⟩ := extended_cases normal' noSlash noDot
      · rw [← fileName?_congr h, e, fileName?_join_dot nameless] at named'
        simp at named'
      · rw [e, e'] at h
        rw [e, e', eq_of_components_join_dot_eq (normal ▸ isNeat_normalize p) (normal' ▸ isNeat_normalize q) h]
  by_cases slash : '/' ∈ extension.toList
  · -- What stands behind the first slash gives the same steps at the end of both paths.
    obtain ⟨first, rest, e, noSlash⟩ := List.eq_append_cons_of_mem slash
    have parts : extension = String.ofList first ++ ("/" ++ String.ofList rest) := by
      rw [← String.toList_inj, e]
      simp
    have noDot' : (String.ofList first).toList.head? ≠ some '.' := by
      rw [String.toList_ofList]
      cases first with
      | nil => simp
      | cons c cs => simpa [e] using noDot
    obtain ⟨written, comps⟩ := extended_slash (String.ofList first) (String.ofList rest) p
    obtain ⟨written', comps'⟩ := extended_slash (String.ofList first) (String.ofList rest) q
    rw [parts, comps, comps'] at h
    have same := simple (by rwa [String.toList_ofList]) noDot' (List.append_cancel_right h)
    rw [parts, written, written', same]
  · exact simple slash noDot h

/-- A path that has the extension of documents is not mistaken for one that gets it. -/
lemma eq_extended_of_components_eq (has : p.hasExtension extension) (normal : p.normalize = p) (normal' : q.normalize = q)
    (h : p.components = (extended (bareExtension extension) q).components) : p = extended (bareExtension extension) q := by
  have noSlash : '/' ∉ (bareExtension extension).toList := (notMem_of_hasExtension has).2
  obtain ⟨neat, _⟩ | ⟨nameless, e⟩ := extended_cases normal' noSlash (head?_bareExtension extension)
  · exact (normal ▸ isNeat_normalize p : IsNeat p).eq_of_components_eq neat h
  · obtain ⟨s, name, _⟩ := hasExtension_iff.mp has
    rw [fileName?_congr h, e, fileName?_join_dot nameless] at name
    simp at name

/-- Paths in normal form that have the same steps with the extension of documents are written alike with it. -/
lemma withExtension_eq_of_components_eq (normal : p.normalize = p) (normal' : q.normalize = q)
    (h : (withExtension extension p).components = (withExtension extension q).components) :
    withExtension extension p = withExtension extension q := by
  by_cases has : p.hasExtension extension
  · rw [show withExtension extension p = p from if_pos has] at h ⊢
    by_cases has' : q.hasExtension extension
    · rw [show withExtension extension q = q from if_pos has'] at h ⊢
      rw [← normal, ← normal', normalize_congr h]
    · rw [withExtension_of_not_has has'] at h ⊢
      exact eq_extended_of_components_eq has normal normal' h
  · rw [withExtension_of_not_has has] at h ⊢
    by_cases has' : q.hasExtension extension
    · rw [show withExtension extension q = q from if_pos has'] at h ⊢
      exact (eq_extended_of_components_eq has' normal' normal h.symm).symm
    · rw [withExtension_of_not_has has'] at h ⊢
      exact extended_eq_of_components_eq normal normal' (head?_bareExtension extension) h

variable {source other : Source} {options : Options} {start : Path}

/-- What is behind a start is the start or was included. -/
lemma eq_start_or_exists_of_reached (reached : (graph source options).Reached start p) :
    p = start ∨ ∃ q : Path, q.normalize = q ∧ p = withExtension options.extension q := by
  cases reached with
  | start _ => exact .inl rfl
  | step _ mem _ =>
    obtain ⟨reference, e⟩ := exists_of_mem_includes mem
    exact .inr ⟨_, normalize_resolveReference _ _ _, e⟩

/-- A start that exists is listed as it is. -/
lemma start_mem_walk (reachable : source.isReachable start.normalize) :
    start.normalize ∈ (walk source options start).documents := by
  obtain ⟨run, _⟩ := search_walk source options start
  cases run with
  | pass h _ =>
    obtain ⟨_, mem, _⟩ | absent := h
    · simp at mem
    · exact absurd reachable absent
  | enter _ _ below beside =>
    obtain ⟨found, e⟩ := below.extends
    obtain ⟨found', e'⟩ := beside.extends
    refine List.mem_reverse.mp ?_
    rw [e', e]
    simp

/-- In one list a document stands under one spelling. -/
lemma eq_of_mem_of_distinct {documents : List Path} (distinct : Distinct documents) (hp : p ∈ documents)
    (hq : q ∈ documents) (h : p.components = q.components) : p = q := by
  have symmetric : Std.Symm fun p q : Path => ¬ p.same q :=
    ⟨fun a b apart same => apart (same_iff.mpr (same_iff.mp same).symm)⟩
  by_contra ne
  exact distinct.forall hp hq ne (same_iff.mpr h)

/-- Walks over different sources list a document under the same spelling. -/
lemma eq_of_mem_walk (hp : p ∈ (walk source options start).documents) (hq : q ∈ (walk other options start).documents)
    (h : p.components = q.components) : p = q := by
  have reached := reached_of_mem_walk hp
  have reached' := reached_of_mem_walk hq
  obtain rfl | ⟨r, normal, rfl⟩ := eq_start_or_exists_of_reached reached
  · exact eq_of_mem_of_distinct (distinct_walk other options start) (start_mem_walk reached'.isReachable_start) hq h
  · obtain rfl | ⟨r', normal', rfl⟩ := eq_start_or_exists_of_reached reached'
    · exact eq_of_mem_of_distinct (distinct_walk source options start) hp (start_mem_walk reached.isReachable_start) h
    · exact withExtension_eq_of_components_eq normal normal' h

end FigureGallery.Include
