import FigureGallery.Proofs.Figure.Extraction
import FigureGallery.Proofs.Markup.Comment

/-!
# Text in front of figures

A text with no figure call and no block comment in it, behind which a line starts, has no bearing on the figures of what
follows: every call is found where it was, as far behind as the text is long, it becomes what it was, and its line moves
down by the line feeds of the text. Parentheses, quotes, closing markers and labels in front do not reach across.
-/

namespace FigureGallery

open Markup Text

/-- A figure so many lines further down. -/
def Figure.lowered (lines : Nat) (f : Figure) : Figure :=
  { f with line := f.line + lines }

/-- A diagnostic so many lines further down. -/
def Diagnostic.lowered (lines : Nat) (d : Diagnostic) : Diagnostic :=
  { d with line := d.line + lines }

namespace Extraction

/-- What a document yields, so many lines further down. -/
def lowered (lines : Nat) (extraction : Extraction) : Extraction :=
  ⟨extraction.figures.map (Figure.lowered lines), extraction.diagnostics.map (Diagnostic.lowered lines)⟩

/-- An outcome so many lines further down. -/
def Outcome.lowered (lines : Nat) : Outcome → Outcome
  | .figure f => .figure (f.lowered lines)
  | .omitted d => .omitted (d.lowered lines)

/-- The place of a call behind a text. -/
def Occurrence.behind (front : List Char) (place : Occurrence) : Occurrence where
  keyword := byteLength front + place.keyword
  body := byteLength front + place.body

/-- Places behind two texts. -/
lemma map_behind (front text : List Char) (places : List Occurrence) :
    (places.map (Occurrence.behind text)).map (Occurrence.behind front) =
      places.map (Occurrence.behind (front ++ text)) := by
  simp [Occurrence.behind, Nat.add_assoc]

section Behind

variable {front text : List Char} {place : Occurrence}

/-- A call is one behind any text. -/
lemma IsCall.behind (front : List Char) (call : IsCall text place) : IsCall (front ++ text) (place.behind front) := by
  obtain ⟨pre, opening, post, rfl, opens, rfl⟩ := call
  exact ⟨front ++ pre, opening, post, by simp, opens, by simp [Occurrence.behind]⟩

/-- A call that stands in the text is one of the calls behind the front. -/
lemma exists_behind_eq {pre opening post : List Char} (opens : IsFigureOpening opening)
    (e : text = pre ++ (opening ++ post)) :
    ∃ place ∈ occurrences text, place.behind front = ⟨byteLength (front ++ pre), byteLength (front ++ pre ++ opening)⟩ :=
  ⟨_, mem_occurrences_iff.mpr ⟨pre, opening, post, by simp [e], opens, rfl⟩, by simp [Occurrence.behind]⟩

/-- The calls of a text keep their order behind another one. -/
lemma pairwise_behind (front text : List Char) :
    ((occurrences text).map (Occurrence.behind front)).Pairwise fun a b => a.keyword < b.keyword := by
  rw [List.pairwise_map]
  exact (pairwise_occurrences text).imp fun lt => Nat.add_lt_add_left lt _

/-- Behind a text in which no call starts there are no other calls. -/
lemma occurrences_append (lacks : Lacks IsFigureOpening front) (text : List Char) :
    occurrences (front ++ text) = (occurrences text).map (Occurrence.behind front) := by
  apply occurrences_eq (pairwise_behind front text)
  intro place
  rw [List.mem_map]
  constructor
  · rintro ⟨inner, mem, rfl⟩
    exact (mem_occurrences_iff.mp mem).behind front
  · rintro ⟨pre, opening, post, e, opens, rfl⟩
    rw [List.append_assoc] at e
    obtain ⟨mid, rfl, here⟩ | ⟨mid, rfl, here⟩ := List.append_eq_append_iff.mp e
    · exact exists_behind_eq opens here
    · by_cases empty : mid = []
      · subst empty
        have atStart : text = [] ++ (opening ++ post) := here.symm
        simpa using exists_behind_eq opens atStart
      · exact absurd ⟨post, here⟩ (lacks pre mid text opening rfl empty opens)

/-- At the start of a text stands the opening of a call, and the other calls are behind it. -/
lemma occurrences_opening {opening : List Char} (opens : IsFigureOpening opening) (text : List Char) :
    occurrences (opening ++ text) = ⟨0, byteLength opening⟩ :: (occurrences text).map (Occurrence.behind opening) := by
  have first : IsCall (opening ++ text) ⟨0, byteLength opening⟩ := ⟨[], opening, text, rfl, opens, rfl⟩
  apply occurrences_eq
  · refine .cons (fun place mem => ?_) (pairwise_behind opening text)
    obtain ⟨inner, _, rfl⟩ := List.mem_map.mp mem
    exact Nat.add_pos_left first.keyword_lt_body _
  · intro place
    rw [List.mem_cons, List.mem_map]
    constructor
    · rintro (rfl | ⟨inner, mem, rfl⟩)
      · exact first
      · exact (mem_occurrences_iff.mp mem).behind opening
    · rintro ⟨pre, other, post, e, opens', rfl⟩
      rw [List.append_assoc] at e
      obtain rfl | ⟨between, rfl, here⟩ := opens.behind opens' e
      · obtain ⟨rfl, rfl⟩ := opens.eq opens' e
        exact .inl rfl
      · exact .inr (exists_behind_eq opens' here)

/-- A call encloses what it encloses behind any text. -/
lemma IsCall.encloses_behind_iff (call : IsCall text place) {body rest : List Char} :
    Encloses (front ++ text) (place.behind front) body rest ↔ Encloses text place body rest := by
  obtain ⟨pre, opening, post, rfl, _, rfl⟩ := call
  have cut : front ++ (pre ++ opening ++ post) = front ++ (pre ++ opening) ++ post := by simp
  rw [cut, encloses_iff (by simp [Occurrence.behind]), encloses_iff rfl]

variable {tree : FileTree} {options : Options} {document : Path}

/-- Behind a text without a comment in it each rule gives what it gives without this text, so many lines further down. -/
lemma Decided.behind (uncommented : Comment.Uncommented front) (call : IsCall text place) {o : Outcome}
    (decided : Decided tree options document text place o) :
    Decided tree options document (front ++ text) (place.behind front) (o.lowered (lineFeeds front)) := by
  have comment : Comment.at? (front ++ text) (place.behind front).keyword = Comment.at? text place.keyword :=
    uncommented.at?_append text place.keyword
  have line : 1 + lineFeeds (before (place.behind front).keyword (front ++ text)) =
      1 + lineFeeds (before place.keyword text) + lineFeeds front := by
    rw [Occurrence.behind, before_append, lineFeeds_append]
    omega
  cases decided with
  | commentedOut commented =>
    rw [Outcome.lowered, Diagnostic.lowered, ← line]
    exact .commentedOut (comment.trans commented)
  | unbalanced live none =>
    rw [Outcome.lowered, Diagnostic.lowered, ← line]
    exact .unbalanced (comment.trans live) fun body rest => mt call.encloses_behind_iff.mp (none body rest)
  | missingImage live encloses none =>
    rw [Outcome.lowered, Diagnostic.lowered, ← line]
    exact .missingImage (comment.trans live) (call.encloses_behind_iff.mpr encloses) none
  | imageNotFound live encloses first notFile =>
    rw [Outcome.lowered, Diagnostic.lowered, ← line]
    exact .imageNotFound (comment.trans live) (call.encloses_behind_iff.mpr encloses) first notFile
  | figure live encloses first isFile =>
    rw [Outcome.lowered, Figure.lowered, ← line]
    exact .figure (comment.trans live) (call.encloses_behind_iff.mpr encloses) first isFile

/-- The outcome of a call behind a text without a comment in it. -/
lemma outcome_behind (uncommented : Comment.Uncommented front) (call : IsCall text place) :
    outcome tree options document (front ++ text) (LineTable.ofText (front ++ text)) (place.behind front) =
      (outcome tree options document text (LineTable.ofText text) place).lowered (lineFeeds front) :=
  (((decided_outcome call).behind uncommented call).eq_outcome (call.behind front)).symm

/-- The calls of a text become behind another one what they become without it. -/
lemma map_outcome_behind (tree : FileTree) (options : Options) (document : Path)
    (uncommented : Comment.Uncommented front) (text : List Char) :
    ((occurrences text).map (Occurrence.behind front)).map
        (outcome tree options document (front ++ text) (LineTable.ofText (front ++ text))) =
      (outcomes tree options document text).map (Outcome.lowered (lineFeeds front)) := by
  rw [outcomes, List.map_map, List.map_map]
  exact List.map_congr_left fun place mem => outcome_behind uncommented (mem_occurrences_iff.mp mem)

/-- Outcomes that are further down, sorted by kind. -/
lemma lowered_filterMap (lines : Nat) (os : List Outcome) :
    Extraction.lowered lines ⟨os.filterMap Outcome.figure?, os.filterMap Outcome.diagnostic?⟩ =
      ⟨(os.map (Outcome.lowered lines)).filterMap Outcome.figure?,
        (os.map (Outcome.lowered lines)).filterMap Outcome.diagnostic?⟩ := by
  rw [lowered, List.filterMap_map, List.filterMap_map, List.map_filterMap, List.map_filterMap]
  congr 2
  · funext o
    cases o <;> rfl
  · funext o
    cases o <;> rfl

end Behind

/-- A text behind which a line starts, and in which neither the keyword of a figure nor the marker that opens a block
comment stands. -/
structure IsPreamble (front : List Char) : Prop where
  ends : front = [] ∨ ['\n'] <:+ front
  keyword : ¬ "figure".toList <:+: front
  comment : ¬ "/*".toList <:+: front

namespace IsPreamble

variable {front : List Char}

/-- No word without a line feed starts in a preamble in which it does not stand: the line feed at its end stops it. -/
lemma lacks (preamble : IsPreamble front) {word : List Char} (unbroken : '\n' ∉ word) (absent : ¬ word <:+: front) :
    Lacks (· = word) front := by
  obtain rfl | ⟨lines, rfl⟩ := preamble.ends
  · exact lacks_nil
  · apply lacks_concat
    · rintro _ rfl
      exact unbroken
    · rintro _ rfl holds
      exact absent (holds.trans (List.prefix_append lines ['\n']).isInfix)

/-- No comment reaches out of a preamble. -/
lemma uncommented (preamble : IsPreamble front) : Comment.Uncommented front :=
  ⟨preamble.ends, preamble.lacks (by decide) preamble.comment⟩

/-- No call starts in a preamble. -/
lemma lacks_isFigureOpening (preamble : IsPreamble front) : Lacks IsFigureOpening front :=
  (preamble.lacks (by decide) preamble.keyword).isOpening

end IsPreamble

/-- A preamble has no bearing on what is extracted from the text behind it, but for the lines, which are so many further
down. -/
theorem ofText_append_preamble (tree : FileTree) (options : Options) (document : Path) {front : List Char}
    (preamble : IsPreamble front) (text : List Char) :
    ofText tree options document (front ++ text) =
      (ofText tree options document text).lowered (lineFeeds front) := by
  have calls := occurrences_append preamble.lacks_isFigureOpening text
  rw [ofText_eq, ofText_eq, lowered_filterMap, ← map_outcome_behind tree options document preamble.uncommented,
    ← calls, outcomes]

/-- Parentheses, a quote, a closing marker, a line comment and a label in front of a figure. -/
theorem ofText_append_preamble_two_lines :
    let tree : FileTree := ⟨[(["w"], .directory), (["w", "p.png"], .file "".toUTF8)], []⟩
    let front := "(image(\"é */\n// [ \" <l>\n".toList
    let text := "#figure(image(\"p.png\"), caption: [x]) <a> /* figure()".toList
    IsPreamble front ∧
      ofText tree ⟨200, none⟩ ⟨"/w/a.typ"⟩ (front ++ text) =
        (ofText tree ⟨200, none⟩ ⟨"/w/a.typ"⟩ text).lowered 2 ∧
      (ofText tree ⟨200, none⟩ ⟨"/w/a.typ"⟩ text).figures.map Figure.line = [1] ∧
      (ofText tree ⟨200, none⟩ ⟨"/w/a.typ"⟩ text).diagnostics.map Diagnostic.line = [1] := by
  intro tree front text
  have preamble : IsPreamble front :=
    ⟨.inr ⟨"(image(\"é */\n// [ \" <l>".toList, rfl⟩, by decide, by decide⟩
  refine ⟨preamble, ?_, by decide +kernel, by decide +kernel⟩
  have moved := ofText_append_preamble tree ⟨200, none⟩ ⟨"/w/a.typ"⟩ preamble text
  exact moved

end Extraction

end FigureGallery
