import FigureGallery.Proofs.Figure.Extraction
import FigureGallery.Proofs.Text.LineBreak

/-!
# Lines of figures

Figure calls are looked for in texts with unified line breaks, but people see the stored ones. The calls of a unified text
are those of the stored text in the same order: a keyword holds no line break, and blanks stay blanks. So the line of an
outcome can be counted in the stored text, up to the keyword that stands there.
-/

namespace FigureGallery.Extraction

open Markup Text

/-- The place of a call of a stored text in the unified text. -/
def Occurrence.unified (text : List Char) (place : Occurrence) : Occurrence where
  keyword := byteLength (unifyLineBreaks (before place.keyword text))
  body := byteLength (unifyLineBreaks (before place.body text))

variable {text opening blanks : List Char} {place : Occurrence}

/-- Line breaks are blank, however they are written. -/
lemma isBlank_unifyLineBreaks_iff : IsBlank (unifyLineBreaks blanks) ↔ IsBlank blanks := by
  have feed : Text.isBlank '\n' = true := rfl
  have carriageReturn : Text.isBlank '\r' = true := rfl
  fun_induction unifyLineBreaks blanks with
  | case1 => rfl
  | case2 cs ih => simpa [IsBlank, feed, carriageReturn] using ih
  | case3 c cs _ ih =>
    by_cases h : c = '\r'
    · simpa [IsBlank, h, feed, carriageReturn] using ih
    · simpa [IsBlank, h] using fun _ => ih

/-- Nothing is unified in a keyword. -/
lemma unifyLineBreaks_keyword (rest : List Char) :
    unifyLineBreaks ("figure".toList ++ rest) = "figure".toList ++ unifyLineBreaks rest := rfl

/-- The opening of a call is unified for itself, to the opening of a call. -/
lemma IsFigureOpening.unified (opens : IsFigureOpening opening) :
    IsFigureOpening (unifyLineBreaks opening) ∧
      ∀ post, unifyLineBreaks (opening ++ post) = unifyLineBreaks opening ++ unifyLineBreaks post := by
  obtain ⟨blanks, blank, rfl⟩ := opens
  have cut (post : List Char) : unifyLineBreaks ("figure".toList ++ blanks ++ ['('] ++ post) =
      "figure".toList ++ unifyLineBreaks blanks ++ ['('] ++ unifyLineBreaks post := by
    have parenthesis : unifyLineBreaks ('(' :: post) = '(' :: unifyLineBreaks post :=
      unifyLineBreaks_of_ne (by decide) post
    rw [List.append_assoc, List.append_assoc, unifyLineBreaks_keyword, List.singleton_append,
      unifyLineBreaks_append blanks (by simp), parenthesis]
    simp
  have alone := cut []
  rw [List.append_nil] at alone
  refine ⟨⟨unifyLineBreaks blanks, isBlank_unifyLineBreaks_iff.mpr blank, ?_⟩, fun post => ?_⟩
  · rw [alone]
    simp [unifyLineBreaks]
  · rw [cut, alone]
    simp [unifyLineBreaks]

/-- What is unified to the opening of a call is the opening of a call. -/
lemma isFigureOpening_of_unified (opens : IsFigureOpening (unifyLineBreaks opening)) : IsFigureOpening opening := by
  obtain ⟨blanks, blank, e⟩ := opens
  obtain ⟨start, last, rfl, e', hl⟩ := exists_of_unifyLineBreaks_eq_append e
  obtain ⟨keyword, blanks', rfl, hk, rfl⟩ := exists_of_unifyLineBreaks_eq_append e'
  obtain rfl := eq_of_unifyLineBreaks_eq hk (by decide)
  obtain rfl := eq_of_unifyLineBreaks_eq hl (by decide)
  exact ⟨blanks', isBlank_unifyLineBreaks_iff.mp blank, rfl⟩

/-- A call of a stored text is a call of the unified one, and what stands before its keyword is unified for itself. -/
lemma IsCall.unified (call : IsCall text place) :
    IsCall (unifyLineBreaks text) (place.unified text) ∧
      before (place.unified text).keyword (unifyLineBreaks text) = unifyLineBreaks (before place.keyword text) := by
  obtain ⟨pre, opening, post, rfl, opens, rfl⟩ := call
  obtain ⟨opens', cut⟩ := opens.unified
  have uncut (rest : List Char) : (opening ++ rest).head? ≠ some '\n' := by
    obtain ⟨tail, rfl, _⟩ := opens.eq_cons
    simp
  have start : unifyLineBreaks (pre ++ opening) = unifyLineBreaks pre ++ unifyLineBreaks opening := by
    have h := unifyLineBreaks_append pre (uncut [])
    rwa [List.append_nil] at h
  have whole : unifyLineBreaks (pre ++ opening ++ post) =
      unifyLineBreaks pre ++ unifyLineBreaks opening ++ unifyLineBreaks post := by
    rw [List.append_assoc, unifyLineBreaks_append pre (uncut post), cut, List.append_assoc]
  have keyword : before (byteLength pre) (pre ++ opening ++ post) = pre := by
    rw [List.append_assoc, before_byteLength]
  constructor
  · refine ⟨unifyLineBreaks pre, unifyLineBreaks opening, unifyLineBreaks post, whole, opens', ?_⟩
    simp only [Occurrence.unified, keyword, before_byteLength, start]
  · simp only [Occurrence.unified, keyword]
    rw [whole, List.append_assoc, before_byteLength]

/-- Every call of a unified text is one of the stored text. -/
lemma exists_isCall_of_unified (call : IsCall (unifyLineBreaks text) place) :
    ∃ stored, IsCall text stored ∧ stored.unified text = place := by
  obtain ⟨pre, opening, post, e, opens, rfl⟩ := call
  obtain ⟨start, post', rfl, e', rfl⟩ := exists_of_unifyLineBreaks_eq_append e
  obtain ⟨pre', opening', rfl, rfl, rfl⟩ := exists_of_unifyLineBreaks_eq_append e'
  refine ⟨⟨byteLength pre', byteLength (pre' ++ opening')⟩,
    ⟨pre', opening', post', rfl, isFigureOpening_of_unified opens, rfl⟩, ?_⟩
  have keyword : before (byteLength pre') (pre' ++ opening' ++ post') = pre' := by
    rw [List.append_assoc, before_byteLength]
  simp only [Occurrence.unified, keyword, before_byteLength, e']

/-- Unifying keeps the order of calls. -/
lemma keyword_unified_lt {next : Occurrence} (call : IsCall text place) (call' : IsCall text next)
    (lt : place.keyword < next.keyword) : (place.unified text).keyword < (next.unified text).keyword := by
  obtain ⟨pre, opening, post, rfl, opens, rfl⟩ := call
  obtain ⟨pre', opening', post', e, _, rfl⟩ := call'
  obtain ⟨tail, rfl, _⟩ := opens.eq_cons
  change byteLength pre < byteLength pre' at lt
  rw [List.append_assoc, List.append_assoc] at e
  have stands : before (byteLength pre) (pre ++ (('f' :: tail) ++ post)) = pre := before_byteLength pre _
  have stands' : before (byteLength pre') (pre ++ (('f' :: tail) ++ post)) = pre' := by rw [e, before_byteLength]
  simp only [Occurrence.unified, List.append_assoc, stands, stands']
  obtain ⟨c, between, rfl, h⟩ := exists_eq_append_of_byteLength_lt e lt
  -- What lies between the keywords starts with the first one.
  obtain rfl := (List.cons.inj h).1
  have pos := 'f'.utf8Size_pos
  rw [unifyLineBreaks_append pre (by simp), byteLength_append, unifyLineBreaks_of_ne (by decide), byteLength_cons]
  omega

/-- The calls of a unified text are those of the stored text, in the same order. -/
lemma occurrences_unifyLineBreaks (text : List Char) :
    occurrences (unifyLineBreaks text) = (occurrences text).map (Occurrence.unified text) := by
  apply occurrences_eq
  · rw [List.pairwise_map]
    refine (pairwise_occurrences text).imp_of_mem fun mem mem' lt => ?_
    exact keyword_unified_lt (mem_occurrences_iff.mp mem) (mem_occurrences_iff.mp mem') lt
  · intro place
    rw [List.mem_map]
    constructor
    · rintro ⟨stored, mem, rfl⟩
      exact (mem_occurrences_iff.mp mem).unified.1
    · intro call
      obtain ⟨stored, call', e⟩ := exists_isCall_of_unified call
      exact ⟨stored, mem_occurrences_iff.mpr call', e⟩

/-- The line that an outcome is reported on. -/
def Outcome.line : Outcome → Nat
  | .figure f => f.line
  | .omitted d => d.line

variable {tree : FileTree} {options : Options} {document : Path}

/-- By the rules, the line of an outcome is one more than the line feeds before the keyword. -/
lemma Decided.line_eq {o : Outcome} (decided : Decided tree options document text place o) :
    o.line = 1 + lineFeeds (before place.keyword text) := by
  cases decided <;> rfl

/-- The outcome of a call in the unified text is on the line that the keyword stands on in the stored text. -/
lemma decided_outcome_unified (call : IsCall text place) :
    let found := outcome tree options document (unifyLineBreaks text) (LineTable.ofText (unifyLineBreaks text))
      (place.unified text)
    Decided tree options document (unifyLineBreaks text) (place.unified text) found ∧
      found.line = 1 + lineBreaks (before place.keyword text) := by
  intro found
  obtain ⟨call', stands⟩ := call.unified
  have decided : Decided tree options document (unifyLineBreaks text) (place.unified text) found := decided_outcome call'
  exact ⟨decided, by rw [decided.line_eq, stands, lineFeeds_unifyLineBreaks]⟩

/-- The outcomes of a unified text are those of the calls of the stored text, in the same order. -/
lemma forall₂_outcomes_unifyLineBreaks (tree : FileTree) (options : Options) (document : Path) (text : List Char) :
    List.Forall₂
      (fun place o => Decided tree options document (unifyLineBreaks text) (place.unified text) o ∧
        o.line = 1 + lineBreaks (before place.keyword text))
      (occurrences text) (outcomes tree options document (unifyLineBreaks text)) := by
  rw [outcomes, occurrences_unifyLineBreaks, List.map_map, List.forall₂_map_right_iff, List.forall₂_same]
  exact fun place mem => decided_outcome_unified (mem_occurrences_iff.mp mem)

/-- Each figure that is extracted from a unified text is the outcome of a call of the stored one. -/
lemma exists_isCall_of_mem_figures {f : Figure} (mem : f ∈ (ofText tree options document (unifyLineBreaks text)).figures) :
    ∃ place, IsCall text place ∧
      Decided tree options document (unifyLineBreaks text) (place.unified text) (.figure f) ∧
      f.line = 1 + lineBreaks (before place.keyword text) := by
  rw [ofText_eq, outcomes, occurrences_unifyLineBreaks, List.map_map] at mem
  obtain ⟨o, listed, isFigure⟩ := List.mem_filterMap.mp mem
  obtain ⟨place, here, e⟩ := List.mem_map.mp listed
  have call := mem_occurrences_iff.mp here
  obtain ⟨decided, line⟩ : Decided tree options document (unifyLineBreaks text) (place.unified text) o ∧
      o.line = 1 + lineBreaks (before place.keyword text) := e ▸ decided_outcome_unified call
  cases o with
  | figure g =>
    obtain rfl := Option.some.inj isFigure
    exact ⟨place, call, decided, line⟩
  | omitted d => exact absurd isFigure (by simp [Outcome.figure?])

end FigureGallery.Extraction
