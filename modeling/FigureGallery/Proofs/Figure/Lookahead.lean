import FigureGallery.Proofs.Figure.Label

/-!
# How far labels are looked for

A shorter lookahead cuts the text behind a call earlier. A label of which the closing bracket is cut off is lost as a whole:
the shape of a label leaves no way to read a shorter or a different one in its place. Nothing else in an extraction depends
on the lookahead.
-/

namespace FigureGallery.Extraction

open Markup Text

/-- What is recorded as the label of a call ends, with its closing bracket, within `reach` characters behind the call. -/
def EndsWithin (reach : Nat) (text : List Char) (place : Occurrence) (recorded : String) : Prop :=
  ∃ body lead post, Encloses text place body (lead ++ (recorded.toList ++ post)) ∧ IsLead lead ∧
    (lead ++ recorded.toList).length ≤ reach

/-- A figure that is recorded with a lookahead of `reach` is the one that is recorded for the call otherwise, but its label
may be cut off. -/
structure CutAt (reach : Nat) (text : List Char) (place : Occurrence) (short long : Figure) : Prop where
  eq : short = { long with label := short.label }
  lost_or_kept : short.label = "" ∨ short.label = long.label
  kept_iff : short.label ≠ "" ↔ long.label ≠ "" ∧ EndsWithin reach text place long.label

/-- What becomes of a call with a lookahead of `reach`, and what becomes of it otherwise. -/
inductive Narrowed (reach : Nat) (text : List Char) (place : Occurrence) : Outcome → Outcome → Prop where
  | omitted {d} :
    Narrowed reach text place (.omitted d) (.omitted d)
  | figure {short long} :
    CutAt reach text place short long →
    Narrowed reach text place (.figure short) (.figure long)

variable {n m reach : Nat} {text body rest : List Char} {place : Occurrence}

/-- A label that is found is found from further on as well. -/
lemma label?_take_mono (le : n ≤ m) {name : List Char} (found : label? (rest.take n) = some name) :
    label? (rest.take m) = some name := by
  obtain ⟨lead, label, post, e, leads, labels, within⟩ := label?_take_eq_some_iff.mp found
  exact label?_take_eq_some_iff.mpr ⟨lead, label, post, e, leads, labels, within.trans le⟩

/-- The label that is recorded is the one that is found, as it is written. -/
lemma labelOf_of_some {name : List Char} (found : label? (rest.take reach) = some name) :
    ∃ label, IsLabel name label ∧ labelOf reach rest = String.ofList label ∧ labelOf reach rest ≠ "" := by
  obtain ⟨_, label, _, _, _, labels, _⟩ := label?_take_eq_some_iff.mp found
  refine ⟨label, labels, ?_⟩
  obtain ⟨_, _, rfl⟩ := labels
  rw [labelOf, found]
  exact ⟨rfl, by simp⟩

/-- With a shorter lookahead the label behind a call is lost or stays. -/
lemma labelOf_eq_or_eq (le : n ≤ m) (rest : List Char) : labelOf n rest = "" ∨ labelOf n rest = labelOf m rest := by
  cases found : label? (rest.take n) with
  | none => exact .inl (by rw [labelOf, found])
  | some name => exact .inr (by rw [labelOf, labelOf, found, label?_take_mono le found])

/-- With a shorter lookahead the label behind a call stays just when all of it is within reach. -/
lemma labelOf_ne_empty_iff (call : IsCall text place) (encloses : Encloses text place body rest) (le : n ≤ m) :
    labelOf n rest ≠ "" ↔ labelOf m rest ≠ "" ∧ EndsWithin n text place (labelOf m rest) := by
  constructor
  · intro kept
    cases found : label? (rest.take n) with
    | none => exact absurd (by rw [labelOf, found]) kept
    | some name =>
      have same : labelOf n rest = labelOf m rest := (labelOf_eq_or_eq le rest).resolve_left kept
      obtain ⟨lead, label, post, rfl, leads, labels, within⟩ := label?_take_eq_some_iff.mp found
      obtain ⟨label', labels', e, _⟩ := labelOf_of_some found
      obtain rfl : label = label' := labels.2.2.trans labels'.2.2.symm
      refine ⟨same ▸ kept, body, lead, post, ?_, leads, ?_⟩
      · rwa [← same, e, String.toList_ofList]
      · rwa [← same, e, String.toList_ofList]
  · rintro ⟨recorded, body', lead, post, encloses', leads, within⟩
    obtain ⟨_, e⟩ := encloses.eq call encloses'
    cases found : label? (rest.take m) with
    | none => exact absurd (by rw [labelOf, found]) recorded
    | some name =>
      obtain ⟨label, labels, written, _⟩ := labelOf_of_some found
      rw [written, String.toList_ofList] at e within
      have near : label? (rest.take n) = some name :=
        label?_take_eq_some_iff.mpr ⟨lead, label, post, e, leads, labels, within⟩
      obtain ⟨_, _, _, nonempty⟩ := labelOf_of_some near
      exact nonempty

variable {tree : FileTree} {root : Option Path} {document : Path}

/-- A call has with a shorter lookahead the outcome that it has with a longer one, its label aside. -/
lemma Decided.exists_narrowed (call : IsCall text place) (le : n ≤ m) {o : Outcome}
    (decided : Decided tree ⟨m, root⟩ document text place o) :
    ∃ o', Decided tree ⟨n, root⟩ document text place o' ∧ Narrowed n text place o' o := by
  cases decided with
  | commentedOut commented => exact ⟨_, .commentedOut commented, .omitted⟩
  | unbalanced live none => exact ⟨_, .unbalanced live none, .omitted⟩
  | missingImage live encloses none => exact ⟨_, .missingImage live encloses none, .omitted⟩
  | imageNotFound live encloses first notFile => exact ⟨_, .imageNotFound live encloses first notFile, .omitted⟩
  | @figure _ rest _ live encloses first isFile =>
    -- Where the image is looked for does not depend on the lookahead.
    exact ⟨_, .figure live encloses first isFile,
      .figure ⟨rfl, labelOf_eq_or_eq le rest, labelOf_ne_empty_iff call encloses le⟩⟩

/-- The outcomes of a text with a shorter lookahead are those with a longer one, labels aside. -/
lemma forall₂_outcomes (le : n ≤ m) (tree : FileTree) (root : Option Path) (document : Path) (text : List Char) :
    List.Forall₂ (fun o o' => ∃ place, (place ∈ occurrences text ∧ Decided tree ⟨n, root⟩ document text place o ∧
        Decided tree ⟨m, root⟩ document text place o') ∧ Narrowed n text place o o')
      (outcomes tree ⟨n, root⟩ document text) (outcomes tree ⟨m, root⟩ document text) := by
  rw [outcomes, outcomes, List.forall₂_map_left_iff, List.forall₂_map_right_iff, List.forall₂_same]
  intro place mem
  have call := mem_occurrences_iff.mp mem
  have long : Decided tree ⟨m, root⟩ document text place (outcome tree ⟨m, root⟩ document text _ place) :=
    decided_outcome call
  obtain ⟨o, short, narrowed⟩ := long.exists_narrowed call le
  obtain rfl := short.eq_outcome call
  exact ⟨place, ⟨mem, short, long⟩, narrowed⟩

/-- Two lists of outcomes that agree but for labels have the same diagnostics, and figures that agree but for labels. -/
lemma forall₂_figures {R : Occurrence → Outcome → Outcome → Prop} {os os' : List Outcome}
    (narrowed : List.Forall₂ (fun o o' => ∃ place, R place o o' ∧ Narrowed n text place o o') os os') :
    os.filterMap Outcome.diagnostic? = os'.filterMap Outcome.diagnostic? ∧
      List.Forall₂ (fun f g => ∃ place, R place (.figure f) (.figure g) ∧ CutAt n text place f g)
        (os.filterMap Outcome.figure?) (os'.filterMap Outcome.figure?) := by
  induction narrowed with
  | nil => exact ⟨rfl, .nil⟩
  | @cons o o' os os' head _ ih =>
    obtain ⟨diagnostics, figures⟩ := ih
    obtain ⟨place, both, narrowed⟩ := head
    cases narrowed with
    | @omitted d => exact ⟨congrArg (d :: ·) diagnostics, figures⟩
    | figure cut => exact ⟨diagnostics, .cons ⟨place, both, cut⟩ figures⟩

/-- A document has the same diagnostics however far labels are looked for, and the same figures, one for each of the same
calls. They agree in everything but their labels. A label that is found with the shorter lookahead is the one that is found
with the longer one, and it is found just when its closing bracket is among the characters behind the call that the
shorter lookahead leaves. -/
theorem lookahead_cuts_labels (le : n ≤ m) (tree : FileTree) (root : Option Path) (document : Path) (text : List Char) :
    (ofText tree ⟨n, root⟩ document text).diagnostics = (ofText tree ⟨m, root⟩ document text).diagnostics ∧
    List.Forall₂ (fun f g => ∃ place, (place ∈ occurrences text ∧ Decided tree ⟨n, root⟩ document text place (.figure f) ∧
        Decided tree ⟨m, root⟩ document text place (.figure g)) ∧ CutAt n text place f g)
      (ofText tree ⟨n, root⟩ document text).figures (ofText tree ⟨m, root⟩ document text).figures := by
  rw [ofText_eq, ofText_eq]
  exact forall₂_figures (R := fun place o o' => place ∈ occurrences text ∧
    Decided tree ⟨n, root⟩ document text place o ∧ Decided tree ⟨m, root⟩ document text place o')
    (forall₂_outcomes le tree root document text)

/-- A label of three characters with a wide blank and a hash in front of it: these are eight bytes, and they are within
reach of a lookahead of five characters, but not of four. -/
theorem lookahead_cuts_labels_wide :
    let tree : FileTree := ⟨[(["w"], .directory), (["w", "p.png"], .file "".toUTF8)], []⟩
    let text := "figure(image(\"p.png\"))\u3000#<é> ".toList
    let labels (lookahead : Nat) := (ofText tree ⟨lookahead, none⟩ ⟨"/w/a.typ"⟩ text).figures.map Figure.label
    labels 4 = [""] ∧ labels 5 = ["<é>"] ∧ labels 6 = ["<é>"] ∧
      EndsWithin 5 text ⟨0, 7⟩ "<é>" ∧ ¬ EndsWithin 4 text ⟨0, 7⟩ "<é>" := by
  intro tree text labels
  have none : labels 4 = [""] := by decide +kernel
  have some : labels 5 = ["<é>"] := by decide +kernel
  have some' : labels 6 = ["<é>"] := by decide +kernel
  have calls : occurrences text = [⟨0, 7⟩] := by decide +kernel
  have cut {n : Nat} {a b : String} (le : n ≤ 6) (short : labels n = [a]) (long : labels 6 = [b]) :
      a ≠ "" ↔ b ≠ "" ∧ EndsWithin n text ⟨0, 7⟩ b := by
    obtain ⟨_, figures⟩ := lookahead_cuts_labels le tree Option.none ⟨"/w/a.typ"⟩ text
    obtain ⟨f, e, rfl⟩ := List.map_eq_singleton_iff.mp short
    obtain ⟨g, e', rfl⟩ := List.map_eq_singleton_iff.mp long
    rw [e, e', List.forall₂_cons] at figures
    obtain ⟨⟨place, ⟨mem, _⟩, cut⟩, _⟩ := figures
    rw [calls, List.mem_singleton] at mem
    exact mem ▸ cut.kept_iff
  refine ⟨none, some, some', ((cut (by decide) some some').mp (by decide)).2, fun within => ?_⟩
  exact absurd rfl ((cut (by decide) none some').mpr ⟨by decide, within⟩)

end FigureGallery.Extraction
