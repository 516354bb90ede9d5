import FigureGallery.Proofs.Exclusion.Lost
import FigureGallery.Proofs.FileTree.Location
import FigureGallery.Proofs.Root.Way
import Mathlib.Data.List.Induction

/-!
# Paths as rules see them

A project asks its rules about paths of locations, and about the empty path when it has no root. The rules see of them the
names that lead on from their directory. So of two paths, one below the other, the higher one is seen above the lower one.
-/

namespace FigureGallery

open FigureGallery.Path FileTree

/-- Plain names are a step each. -/
lemma Location.IsPlain.areSteps {names : Location} (plain : names.IsPlain) : AreSteps (names.map String.toList) :=
  List.forall_mem_map.mpr fun name mem => ⟨(plain name mem).no_slash, (plain name mem).not_idle⟩

/-- Paths as a project sees them are neat. -/
lemma FileTree.IsSeen.isNeat {p : Path} (seen : IsSeen p) : IsNeat p := by
  cases seen with
  | empty => exact ⟨.free, [], by simp, by simp [AreSteps], rfl⟩
  | @pathOf location plain => exact ⟨.root, location.map String.toList, by simp, plain.areSteps, rfl⟩

namespace Exclusion

variable {location names more : Location} {p q root : Path}

/-- The path of names from the directory that they start in. -/
def relativeOf (names : Location) : Path :=
  .ofSplit .free (names.map String.toList)

namespace RuleList

/-- From the directory of rules a path is seen as the names that lead on from there. -/
lemma localPath_pathOf_append (plain : Location.IsPlain (location ++ names)) (rules : List Rule) :
    (make (pathOf location) rules).localPath (pathOf (location ++ names)) = relativeOf names := by
  obtain ⟨above, below⟩ : location.IsPlain ∧ names.IsPlain := List.forall_mem_append.mp plain
  refine localPath_eq (IsSeen.pathOf plain).isNeat (IsSeen.pathOf above).isNeat ?_ below.areSteps ?_ rules
  · rw [pathOf, toList_ofSplit (by simp)]
    exact List.mem_cons_self
  · rw [pathOf, pathOf, List.map_append]
    exact toList_ofSplit_append (by simp) _ _

/-- For want of a directory a path is seen as its names. -/
lemma localPath_pathOf (plain : names.IsPlain) (rules : List Rule) :
    (make ⟨""⟩ rules).localPath (pathOf names) = relativeOf names := by
  refine localPath_eq (IsSeen.pathOf plain).isNeat IsSeen.empty.isNeat ?_ plain.areSteps (.inr ?_) rules
  · rw [pathOf, toList_ofSplit (by simp)]
    exact List.mem_cons_self
  · rw [pathOf, toList_ofSplit (by simp)]
    rfl

lemma localPath_empty (rules : List Rule) : (make ⟨""⟩ rules).localPath ⟨""⟩ = relativeOf [] :=
  localPath_of_notMem IsSeen.empty.isNeat (by simp) rules

/-- Names lead to a directory above what more names lead to. -/
lemma relativeOf_mem_ancestors (plain : Location.IsPlain (names ++ more)) (further : more ≠ []) :
    relativeOf names ∈ (relativeOf (names ++ more)).ancestors := by
  induction more using List.reverseRecOn with
  | nil => exact absurd rfl further
  | append_singleton more last ih =>
    rw [← List.append_assoc] at plain ⊢
    have parent : (relativeOf (names ++ more ++ [last])).parent? = some (relativeOf (names ++ more)) := by
      have steps := plain.areSteps
      rw [List.map_append] at steps
      rw [relativeOf, List.map_append]
      exact steps.parent?_ofSplit (by simp)
    rw [ancestors_of_parent?_eq_some parent, List.mem_cons]
    obtain rfl | rest := eq_or_ne more []
    · exact .inl (by rw [List.append_nil])
    · exact .inr (ih (List.forall_mem_append.mp plain).1 rest)

/-- Of two paths below the directory of rules, the higher one is seen above the lower one; or both are seen alike, being
equal or, for want of a directory, nothing and the top. -/
lemma localPath_of_isBelow (seenRoot : IsSeen root) (seen : IsSeen p) (seen' : IsSeen q) (inside : p.isBelow root)
    (below : q.isBelow p) (rules : List Rule) :
    (make root rules).localPath p ∈ ((make root rules).localPath q).ancestors ∨
      (make root rules).localPath q = (make root rules).localPath p ∧ (q = p ∨ p = ⟨""⟩) := by
  have names_cases (names more : Location) (plain : Location.IsPlain (names ++ more)) :
      relativeOf names ∈ (relativeOf (names ++ more)).ancestors ∨ more = [] := by
    obtain rfl | further := eq_or_ne more []
    · exact .inr rfl
    · exact .inl (relativeOf_mem_ancestors plain further)
  cases seenRoot with
  | empty =>
    cases seen with
    | empty =>
      cases seen' with
      | empty => exact .inr ⟨rfl, .inl rfl⟩
      | @pathOf names plain =>
        rw [localPath_empty, localPath_pathOf plain]
        obtain higher | rfl := names_cases [] names plain
        · exact .inl higher
        · exact .inr ⟨rfl, .inr rfl⟩
    | @pathOf names plain =>
      cases seen' with
      | empty => exact absurd below (not_isBelow_pathOf plain)
      | @pathOf lower plain' =>
        obtain ⟨more, rfl⟩ := (isBelow_pathOf_iff plain' plain).mp below
        rw [localPath_pathOf plain, localPath_pathOf plain']
        obtain higher | rfl := names_cases names more plain'
        · exact .inl higher
        · exact .inr (by simp)
  | @pathOf location plainRoot =>
    cases seen with
    | empty => exact absurd inside (not_isBelow_pathOf plainRoot)
    | @pathOf higher plain =>
      obtain ⟨names, rfl⟩ := (isBelow_pathOf_iff plain plainRoot).mp inside
      cases seen' with
      | empty => exact absurd below (not_isBelow_pathOf plain)
      | @pathOf lower plain' =>
        obtain ⟨more, rfl⟩ := (isBelow_pathOf_iff plain' plain).mp below
        rw [localPath_pathOf_append plain, List.append_assoc, localPath_pathOf_append (by rwa [← List.append_assoc])]
        obtain further | rfl := names_cases names more
          (List.forall_mem_append.mp (by rwa [List.append_assoc] at plain')).2
        · exact .inl further
        · exact .inr (by simp)

end RuleList

end Exclusion

end FigureGallery
