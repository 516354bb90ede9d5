import FigureGallery.Proofs.Figure.Occurrence
import FigureGallery.Proofs.Figure.Outcome
import FigureGallery.Proofs.Markup.Delimiter
import FigureGallery.Proofs.Text.Lines
import Mathlib.Data.List.Forall2

/-!
# What becomes of a figure call

Five rules say what becomes of a call, in terms of how the text is written and not of how it is searched. Each call has
exactly one outcome by them, the one that is computed: `decided_outcome` and `Decided.eq_outcome` say so. The outcome of
a call rests on the text and the place alone, whatever becomes of the calls around it or inside it.
-/

namespace FigureGallery.Extraction

open Markup Text

/-- The body of a call and what stands behind its closing parenthesis. -/
def Encloses (text : List Char) (place : Occurrence) (body rest : List Char) : Prop :=
  ∃ pre, text = pre ++ (body ++ ')' :: rest) ∧ place.body = byteLength pre ∧ Delimiters.parentheses.Balanced body

/-- A text holds a reference to an image. -/
def HasReference (body : List Char) : Prop :=
  ∃ pre path reference post, body = pre ++ (reference ++ post) ∧ IsReference path reference

/-- A text holds a reference to an image with a path, and none starts further left. -/
def FirstReference (body path : List Char) : Prop :=
  ∃ pre reference post, body = pre ++ (reference ++ post) ∧ IsReference path reference ∧
    ∀ pre' path' reference' post', body = pre' ++ (reference' ++ post') → IsReference path' reference' →
      pre.length ≤ pre'.length

/-- The image that a reference in a document leads to. -/
def imageAt (options : Options) (document : Path) (path : List Char) : Path :=
  Path.resolveReference document.directory (String.ofList path) options.projectRoot

/-- What becomes of a call at a place of a text. The line of each outcome is one more than the line feeds before the
keyword. -/
inductive Decided (tree : FileTree) (options : Options) (document : Path) (text : List Char) (place : Occurrence) :
    Outcome → Prop where
  | commentedOut {comment} :
    Comment.at? text place.keyword = some comment →
    Decided tree options document text place
      (.omitted ⟨document, .commentedOut comment, 1 + lineFeeds (before place.keyword text)⟩)
  | unbalanced :
    Comment.at? text place.keyword = none →
    (∀ body rest, ¬ Encloses text place body rest) →
    Decided tree options document text place
      (.omitted ⟨document, .unbalancedBlock, 1 + lineFeeds (before place.keyword text)⟩)
  | missingImage {body rest} :
    Comment.at? text place.keyword = none →
    Encloses text place body rest →
    ¬ HasReference body →
    Decided tree options document text place
      (.omitted ⟨document, .missingImage, 1 + lineFeeds (before place.keyword text)⟩)
  | imageNotFound {body rest path} :
    Comment.at? text place.keyword = none →
    Encloses text place body rest →
    FirstReference body path →
    ¬ tree.isFile (imageAt options document path) →
    Decided tree options document text place
      (.omitted ⟨document, .imageNotFound (imageAt options document path),
        1 + lineFeeds (before place.keyword text)⟩)
  | figure {body rest path} :
    Comment.at? text place.keyword = none →
    Encloses text place body rest →
    FirstReference body path →
    tree.isFile (imageAt options document path) →
    Decided tree options document text place
      (.figure {
        imagePath := String.ofList path
        resolvedImage := imageAt options document path
        caption := captionOf body
        line := 1 + lineFeeds (before place.keyword text)
        sourceFile := document.shortName
        sourcePath := document
        label := labelOf options.labelLookahead rest
        ordinal := 0 })

/-- The search for an image reference finds the first one. -/
lemma firstMatch?_imageReference?_eq_some_iff {body path : List Char} :
    firstMatch? imageReference? body = some path ↔ FirstReference body path :=
  firstMatch?_eq_some_iff_first imageReference?_eq_some_iff

/-- The search for an image reference fails when there is none. -/
lemma firstMatch?_imageReference?_eq_none_iff {body : List Char} :
    firstMatch? imageReference? body = none ↔ ¬ HasReference body :=
  firstMatch?_eq_none_iff_not_holds imageReference?_eq_some_iff

/-- What a call encloses is known from the cut behind its opening. -/
lemma encloses_iff {pre post body rest : List Char} {place : Occurrence} (cut : place.body = byteLength pre) :
    Encloses (pre ++ post) place body rest ↔ post = body ++ ')' :: rest ∧ Delimiters.parentheses.Balanced body := by
  constructor
  · rintro ⟨pre', e, cut', balanced⟩
    obtain ⟨_, rfl⟩ := eq_of_byteLength_eq e (cut.symm.trans cut')
    exact ⟨rfl, balanced⟩
  · rintro ⟨rfl, balanced⟩
    exact ⟨pre, rfl, cut, balanced⟩

section Call

variable {text : List Char} {place : Occurrence}

/-- The block of a call is what the call encloses. -/
lemma block_eq_ok_iff_encloses (call : IsCall text place) {block : Block} :
    Delimiters.parentheses.block text place.body = .ok block ↔
      ∃ body rest, Encloses text place body rest ∧ block = ⟨place.body, place.body + byteLength body, body⟩ := by
  obtain ⟨pre, opening, post, rfl, _, rfl⟩ := call
  rw [Delimiters.block_eq_ok_iff (by decide)]
  refine exists₂_congr fun body rest => ?_
  rw [encloses_iff (by rfl), and_assoc]
  rfl

/-- What a call encloses is its block. -/
lemma Encloses.block_eq (call : IsCall text place) {body rest : List Char} (encloses : Encloses text place body rest) :
    Delimiters.parentheses.block text place.body = .ok ⟨place.body, place.body + byteLength body, body⟩ :=
  (block_eq_ok_iff_encloses call).mpr ⟨body, rest, encloses, rfl⟩

/-- A call that encloses nothing has no block. -/
lemma block_eq_error_iff_encloses (call : IsCall text place) :
    (∃ e, Delimiters.parentheses.block text place.body = .error e) ↔ ∀ body rest, ¬ Encloses text place body rest := by
  obtain ⟨pre, opening, post, rfl, _, rfl⟩ := call
  constructor
  · rintro ⟨e, h⟩ body rest encloses
    obtain ⟨e', balanced⟩ := (encloses_iff rfl).mp encloses
    exact ((Delimiters.block_eq_error_iff (by decide)).mp h).1 body rest e' balanced
  · intro none
    refine ⟨_, (Delimiters.block_eq_error_iff (by decide)).mpr ⟨fun body rest e balanced => ?_, rfl⟩⟩
    exact none body rest ((encloses_iff rfl).mpr ⟨e, balanced⟩)

/-- The label of a call is looked for right behind its closing parenthesis. -/
lemma Encloses.after_close {body rest : List Char} (encloses : Encloses text place body rest) :
    after (place.body + byteLength body + 1) text = rest := by
  obtain ⟨pre, rfl, hs, _⟩ := encloses
  have e : place.body + byteLength body + 1 = byteLength (pre ++ body ++ [')']) := by
    rw [byteLength_append, byteLength_append, hs]
    rfl
  have cut : pre ++ (body ++ ')' :: rest) = pre ++ body ++ [')'] ++ rest := by simp
  rw [e, cut, after_byteLength]

variable {tree : FileTree} {options : Options} {document : Path}

/-- The outcome of a call is the one that the rules give. -/
lemma decided_outcome (call : IsCall text place) :
    Decided tree options document text place
      (outcome tree options document text (LineTable.ofText text) place) := by
  rw [outcome, LineTable.lineOf_ofText]
  split
  · rename_i comment commented
    exact .commentedOut commented
  · rename_i live
    split
    · rename_i e unbalanced
      exact .unbalanced live ((block_eq_error_iff_encloses call).mp ⟨e, unbalanced⟩)
    · rename_i block balanced
      obtain ⟨body, rest, encloses, rfl⟩ := (block_eq_ok_iff_encloses call).mp balanced
      split
      · rename_i none
        exact .missingImage live encloses (firstMatch?_imageReference?_eq_none_iff.mp none)
      · rename_i path found
        have first := firstMatch?_imageReference?_eq_some_iff.mp found
        dsimp only
        split
        · rename_i isFile
          rw [encloses.after_close]
          exact .figure live encloses first isFile
        · rename_i notFile
          exact .imageNotFound live encloses first notFile

/-- The rules give one outcome. -/
lemma Decided.eq_outcome (call : IsCall text place) {o : Outcome}
    (decided : Decided tree options document text place o) :
    o = outcome tree options document text (LineTable.ofText text) place := by
  rw [outcome, LineTable.lineOf_ofText]
  cases decided with
  | commentedOut commented => simp only [commented]
  | unbalanced live none =>
    obtain ⟨e, unbalanced⟩ := (block_eq_error_iff_encloses call).mpr none
    simp only [live, unbalanced]
  | missingImage live encloses none =>
    have balanced := encloses.block_eq call
    simp only [live, balanced, firstMatch?_imageReference?_eq_none_iff.mpr none]
  | imageNotFound live encloses first notFile =>
    have balanced := encloses.block_eq call
    have found := firstMatch?_imageReference?_eq_some_iff.mpr first
    simp only [live, balanced, found]
    exact (if_neg notFile).symm
  | figure live encloses first isFile =>
    have balanced := encloses.block_eq call
    have found := firstMatch?_imageReference?_eq_some_iff.mpr first
    simp only [live, balanced, found, encloses.after_close]
    exact (if_pos isFile).symm

end Call

/-- Every place where a call starts is an occurrence, they are listed from left to right, and each has one outcome by
the rules. What is extracted are these outcomes in the order of the places, sorted into figures and diagnostics. -/
theorem extraction_decides_each_call (tree : FileTree) (options : Options) (document : Path) (text : List Char) :
    (∀ place, place ∈ occurrences text ↔ IsCall text place) ∧
    (occurrences text).Pairwise (fun a b => a.keyword < b.keyword) ∧
    (∀ place, IsCall text place → ∃! o, Decided tree options document text place o) ∧
    ∃ os, List.Forall₂ (Decided tree options document text) (occurrences text) os ∧
      (ofText tree options document text).figures = os.filterMap Outcome.figure? ∧
      (ofText tree options document text).diagnostics = os.filterMap Outcome.diagnostic? := by
  refine ⟨fun place => mem_occurrences_iff, pairwise_occurrences text, fun place call => ?_,
    outcomes tree options document text, ?_, ?_, ?_⟩
  · exact ⟨_, decided_outcome call, fun o decided => decided.eq_outcome call⟩
  · rw [outcomes, List.forall₂_map_right_iff, List.forall₂_same]
    exact fun place mem => decided_outcome (mem_occurrences_iff.mp mem)
  · rw [ofText_eq]
  · rw [ofText_eq]

/-- A call inside another one whose parenthesis is never closed. -/
theorem extraction_decides_each_call_nested :
    IsCall "figure(é figure (image(\"a\")".toList ⟨10, 18⟩ ∧
      ∃! o, Decided ⟨[], []⟩ ⟨200, none⟩ ⟨"a.typ"⟩ "figure(é figure (image(\"a\")".toList ⟨10, 18⟩ o := by
  have call : IsCall "figure(é figure (image(\"a\")".toList ⟨10, 18⟩ :=
    ⟨"figure(é ".toList, "figure (".toList, "image(\"a\")".toList, by decide, ⟨[' '], by decide, by decide⟩, by decide⟩
  obtain ⟨_, _, decided, _⟩ :=
    extraction_decides_each_call ⟨[], []⟩ ⟨200, none⟩ ⟨"a.typ"⟩ "figure(é figure (image(\"a\")".toList
  exact ⟨call, decided _ call⟩

end FigureGallery.Extraction
