import FigureGallery.Exclusion.Filter
import FigureGallery.Proofs.Path.Neat
import Mathlib.Data.List.Basic

/-!
# Files that rules can be asked about

Rules take the writing of their directory off the writing of a path. A path below the directory that is written otherwise
is lost on them. Between a directory and a path that are both written neatly this does not happen, so a filter whose root
is in normal form can be asked about every neat path.
-/

namespace FigureGallery.Exclusion

open FigureGallery.Path

variable {start text rest : List Char} {p root : Path}

namespace RuleList

lemma dropStart_append (start rest : List Char) : dropStart start (start ++ rest) = rest := by
  rw [dropStart, List.isPrefixOf?_eq_some_iff_append_eq.mpr rfl, Option.getD_some]

lemma dropStart_of_not_prefix (other : ¬ start <+: text) : dropStart start text = text := by
  rw [dropStart]
  cases e : start.isPrefixOf? text with
  | none => rfl
  | some rest => exact absurd ⟨rest, List.isPrefixOf?_eq_some_iff_append_eq.mp e⟩ other

lemma dropStart_slash (h : text.head? ≠ some '/') : dropStart ['/'] text = text := by
  refine dropStart_of_not_prefix ?_
  rintro ⟨rest, rfl⟩
  exact h rfl

/-- A neat path does not start with a step that stays in place. -/
lemma dropStart_here (neat : IsNeat p) : dropStart ['.', '/'] p.text.toList = p.text.toList := by
  obtain ⟨lead, ss, notHere, steps, rfl⟩ := neat
  refine dropStart_of_not_prefix ?_
  rintro ⟨rest, e⟩
  rw [toList_ofSplit notHere] at e
  cases lead with
  | root => exact absurd (List.cons.inj e).1 (by decide)
  | here => exact absurd rfl notHere
  | free =>
    obtain rfl | below := eq_or_ne ss []
    · simp [Lead.start] at e
    · have parts : segments (['.'] ++ '/' :: rest) = ss := by
        rw [← segments_joinSegments below fun s mem => (steps s mem).1]
        exact congrArg segments e
      rw [segments_append_slash] at parts
      subst parts
      exact absurd (steps ['.'] (by simp [segments])).2 (by decide)

/-- Rules take the writing of a neat root off a neat path, with the slash behind it. -/
lemma localPath_eq (neat : IsNeat p) (neatRoot : IsNeat root) (slash : '/' ∈ p.text.toList) {ts : List (List Char)}
    (steps : AreSteps ts) (written : p.text.toList = root.text.toList ++ joinSegments ts ∨
      p.text.toList = root.text.toList ++ '/' :: joinSegments ts) (rules : List Rule) :
    (make root rules).localPath p = ofSplit .free ts := by
  have bound : (make root rules).root = root.text := by rw [make, dropStart_here neatRoot, String.ofList_toList]
  have notHere : (root.components == [.here]) = false := by
    refine beq_eq_false_iff_ne.mpr fun e => neatRoot.here_notMem ?_
    rw [e]
    exact List.mem_singleton_self _
  unfold localPath
  rw [bound, dropStart_here neat, notHere]
  dsimp only
  rw [Bool.false_or, if_neg (by simp [slash])]
  obtain e | e := written
  · rw [List.isPrefixOf?_eq_some_iff_append_eq.mpr e.symm]
    dsimp only
    rw [dropStart_slash steps.head?_joinSegments]
    rfl
  · rw [List.isPrefixOf?_eq_some_iff_append_eq.mpr e.symm]
    dsimp only
    rw [show '/' :: joinSegments ts = ['/'] ++ joinSegments ts from rfl, dropStart_append]
    rfl

/-- A neat path without slashes is seen as it is. -/
lemma localPath_of_notMem (neat : IsNeat p) (name : '/' ∉ p.text.toList) (rules : List Rule) :
    (make root rules).localPath p = p := by
  unfold localPath
  rw [dropStart_here neat]
  dsimp only
  rw [if_pos (by simp [name]), String.ofList_toList]

/-- Seen from a directory that it is below, a path is relative when both are neat. -/
lemma not_isAbsolute_localPath (neat : IsNeat p) (neatRoot : IsNeat root) (below : p.isBelow root) (rules : List Rule) :
    ¬ ((make root rules).localPath p).isAbsolute := by
  by_cases slash : '/' ∈ p.text.toList
  · obtain ⟨ts, steps, written⟩ := neat.exists_of_isBelow neatRoot below
    rw [localPath_eq neat neatRoot slash steps written]
    simpa [isAbsolute, ofSplit] using steps.head?_joinSegments
  · rw [localPath_of_notMem neat slash]
    simp only [isAbsolute, beq_iff_eq]
    exact fun first => slash (List.mem_of_mem_head? first)

lemma isLost_make (neat : IsNeat p) (neatRoot : IsNeat root) (below : p.isBelow root) (rules : List Rule) :
    (make root rules).isLost p = false := by
  have relative := not_isAbsolute_localPath neat neatRoot below rules
  rw [isLost, Bool.eq_false_iff.mpr relative, Bool.and_false]

end RuleList

namespace Filter

variable {tree : FileTree} {filter : Filter}

/-- A filter whose root is in normal form, or one that excludes nothing. -/
def IsSound (filter : Filter) : Prop :=
  (∃ root, filter = .empty root) ∨
    ∃ tree root patterns disableIgnoreFile, root.normalize = root ∧ make tree root patterns disableIgnoreFile = .ok filter

/-- Every neat path can be asked about. -/
lemma IsSound.isLost_eq_false (sound : filter.IsSound) (neat : IsNeat p) : filter.isLost tree p = false := by
  rw [isLost, Bool.and_eq_false_imp]
  intro below
  obtain ⟨root, rfl⟩ | ⟨tree, root, patterns, disableIgnoreFile, normal, made⟩ := sound
  · simp [empty, RuleList.isLost, RuleList.make]
  · unfold make at made
    cases rules : configuredRules patterns with
    | error e => simp [rules, Except.map] at made
    | ok rules' =>
      rw [rules] at made
      obtain rfl := Except.ok.inj made
      have neatRoot : IsNeat root := normal ▸ isNeat_normalize root
      simp only [RuleList.isLost_make neat neatRoot below, Bool.and_false, Bool.or_false]

end Filter

end FigureGallery.Exclusion
