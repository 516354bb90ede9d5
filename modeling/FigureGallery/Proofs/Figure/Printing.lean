import FigureGallery.Proofs.Figure.Label
import FigureGallery.Proofs.Figure.Preamble

/-!
# Figures that are written line by line

A figure can be written as a line of its own, with its path in quotes, its caption in brackets and its label in angle
brackets. What is extracted from a text of such lines is what was written, as long as no field holds a parenthesis, a line
feed, a comment or what closes it. Nothing that starts in a field then reaches beyond it: what closes the field bars the
way.
-/

namespace FigureGallery.Extraction

open Markup Text

/-- A figure as it is written on a line of its own. -/
structure FigureLine where
  path : List Char
  caption : List Char
  label : List Char

/-- A text without line feeds, parentheses and openings of block comments. -/
structure IsInline (cs : List Char) : Prop where
  feed : '\n' ∉ cs
  opening : '(' ∉ cs
  closing : ')' ∉ cs
  comment : ¬ "/*".toList <:+: cs

instance (cs : List Char) : Decidable (IsInline cs) :=
  decidable_of_iff ('\n' ∉ cs ∧ '(' ∉ cs ∧ ')' ∉ cs ∧ ¬ "/*".toList <:+: cs)
    ⟨fun ⟨feed, opening, closing, comment⟩ => ⟨feed, opening, closing, comment⟩,
      fun h => ⟨h.feed, h.opening, h.closing, h.comment⟩⟩

/-- No call starts with a line feed. -/
lemma occurrences_lineFeed (rest : List Char) :
    occurrences ('\n' :: rest) = (occurrences rest).map (Occurrence.behind ['\n']) := by
  have feed : Lacks IsFigureOpening ['\n'] := lacks_of_notMem (fun _ opens => opens.head?_eq) (by decide)
  exact occurrences_append feed rest

namespace FigureLine

/-- The body of the call. -/
def body (l : FigureLine) : List Char :=
  "image(\"".toList ++ (l.path ++ ['"']) ++ "), caption: [".toList ++ (l.caption ++ [']'])

/-- What is written behind the opening of the call. -/
def inside (l : FigureLine) : List Char :=
  l.body ++ ") <".toList ++ (l.label ++ ['>'])

/-- The line, without a line feed. -/
def written (l : FigureLine) : List Char :=
  "#figure(image(\"".toList ++ l.path ++ "\"), caption: [".toList ++ l.caption ++ "]) <".toList ++ l.label ++ ">".toList

/-- A figure that can be read back from its line: the image is there, nothing in a field closes it, no caption starts in the
path, and the label is within reach. -/
structure Printable (tree : FileTree) (options : Options) (document : Path) (l : FigureLine) : Prop where
  path : IsInline l.path
  caption : IsInline l.caption
  label : IsInline l.label
  path_ne_nil : l.path ≠ []
  quote : '"' ∉ l.path
  keyword : ¬ "caption:".toList <:+: l.path
  isFile : tree.isFile (imageAt options document l.path)
  bracket : ']' ∉ l.caption
  label_ne_nil : l.label ≠ []
  angle : '>' ∉ l.label
  reach : l.label.length + 3 ≤ options.labelLookahead

instance (tree : FileTree) (options : Options) (document : Path) (l : FigureLine) :
    Decidable (l.Printable tree options document) :=
  decidable_of_iff
    (IsInline l.path ∧ IsInline l.caption ∧ IsInline l.label ∧ l.path ≠ [] ∧ '"' ∉ l.path ∧
      ¬ "caption:".toList <:+: l.path ∧ tree.isFile (imageAt options document l.path) ∧ ']' ∉ l.caption ∧ l.label ≠ [] ∧
      '>' ∉ l.label ∧ l.label.length + 3 ≤ options.labelLookahead)
    ⟨fun ⟨path, caption, label, nonempty, quote, keyword, isFile, bracket, nonempty', angle, reach⟩ =>
      ⟨path, caption, label, nonempty, quote, keyword, isFile, bracket, nonempty', angle, reach⟩,
      fun h => ⟨h.path, h.caption, h.label, h.path_ne_nil, h.quote, h.keyword, h.isFile, h.bracket, h.label_ne_nil,
        h.angle, h.reach⟩⟩

/-- The figure that is written on a line. -/
def figure (options : Options) (document : Path) (l : FigureLine) (line : Nat) : Figure where
  imagePath := String.ofList l.path
  resolvedImage := imageAt options document l.path
  caption := String.ofList (Text.trim l.caption)
  line
  sourceFile := document.shortName
  sourcePath := document
  label := String.ofList ('<' :: l.label ++ ['>'])
  ordinal := 0

variable {tree : FileTree} {options : Options} {document : Path} {l : FigureLine}

lemma written_eq (l : FigureLine) : l.written = "#figure(".toList ++ l.inside := by
  unfold written inside body
  simp only [List.append_assoc]
  rfl

lemma inside_eq (l : FigureLine) : l.inside = l.body ++ ')' :: ([' '] ++ ('<' :: (l.label ++ ['>']))) := by
  simp only [inside, List.append_assoc]
  rfl

/-- What starts with a character that is not written between the fields, and ends before what closes them, starts nowhere
behind the opening, if it does not stand in a field. -/
lemma lacks_inside {shape : List Char → Prop} {c : Char} (starts : ∀ construct, shape construct → construct.head? = some c)
    (notMem : c ∉ "image(\"".toList ∧ c ∉ "), caption: [".toList ∧ c ∉ ") <".toList)
    (bars : ∀ construct, shape construct → '"' ∉ construct ∧ ']' ∉ construct ∧ '>' ∉ construct)
    (absent : ∀ construct, shape construct →
      ¬ construct <:+: l.path ∧ ¬ construct <:+: l.caption ∧ ¬ construct <:+: l.label) :
    Lacks shape l.inside := by
  have call : Lacks shape "image(\"".toList := lacks_of_notMem starts notMem.1
  have path : Lacks shape (l.path ++ ['"']) :=
    lacks_concat (fun _ is => (bars _ is).1) fun _ is => (absent _ is).1
  have comma : Lacks shape "), caption: [".toList := lacks_of_notMem starts notMem.2.1
  have caption : Lacks shape (l.caption ++ [']']) :=
    lacks_concat (fun _ is => (bars _ is).2.1) fun _ is => (absent _ is).2.1
  have close : Lacks shape ") <".toList := lacks_of_notMem starts notMem.2.2
  have label : Lacks shape (l.label ++ ['>']) :=
    lacks_concat (fun _ is => (bars _ is).2.2) fun _ is => (absent _ is).2.2
  exact ((((call.append path).append comma).append caption).append close).append label

namespace Printable

variable (printable : Printable tree options document l)
include printable

/-- No call starts behind the opening of a line. -/
lemma lacks_isFigureOpening : Lacks IsFigureOpening l.inside := by
  refine lacks_inside (fun _ opens => opens.head?_eq) (by decide) (fun opening opens => ⟨?_, ?_, ?_⟩) fun _ opens => ?_
  · exact opens.notMem (by decide) (by decide)
  · exact opens.notMem (by decide) (by decide)
  · exact opens.notMem (by decide) (by decide)
  · obtain ⟨blanks, _, rfl⟩ := opens
    have parenthesis : '(' ∈ "figure".toList ++ blanks ++ ['('] := List.mem_append_right _ List.mem_cons_self
    exact ⟨fun holds => printable.path.opening (holds.subset parenthesis),
      fun holds => printable.caption.opening (holds.subset parenthesis),
      fun holds => printable.label.opening (holds.subset parenthesis)⟩

/-- No comment starts on a line. -/
lemma uncommented : Comment.Uncommented (l.written ++ ['\n']) := by
  have starts : ∀ construct, construct = Comment.Reader.outside.marker → construct.head? = some '/' := by
    rintro _ rfl
    rfl
  have inside : Lacks (· = Comment.Reader.outside.marker) l.inside := by
    apply lacks_inside starts
    · decide
    · rintro _ rfl
      decide
    · rintro _ rfl
      exact ⟨printable.path.comment, printable.caption.comment, printable.label.comment⟩
  have opening : Lacks (· = Comment.Reader.outside.marker) "#figure(".toList := lacks_of_notMem starts (by decide)
  have whole := (opening.append inside).append (lacks_of_notMem starts (by decide : '/' ∉ ['\n']))
  rw [← written_eq] at whole
  exact ⟨.inr (List.suffix_append l.written ['\n']), whole⟩

/-- A line is one line. -/
lemma lineFeeds_written : lineFeeds l.written = 0 := by
  have path := lineFeeds_eq_zero.mpr printable.path.feed
  have caption := lineFeeds_eq_zero.mpr printable.caption.feed
  have label := lineFeeds_eq_zero.mpr printable.label.feed
  unfold written
  simp only [lineFeeds_append, path, caption, label]
  rfl

/-- What is written in the parentheses of the call is balanced. -/
lemma balanced : Delimiters.parentheses.Balanced l.body := by
  have plain {text : List Char} (opening : '(' ∉ text) (closing : ')' ∉ text) : Delimiters.parentheses.Balanced text :=
    Delimiters.balanced_of_notMem opening closing
  have path := printable.path
  have caption := printable.caption
  have call : Delimiters.parentheses.Balanced ('(' :: ('"' :: (l.path ++ ['"']) ++ [')'])) :=
    Delimiters.Balanced.enclosed (by decide) (plain (by simp [path.opening]) (by simp [path.closing]))
  have keyword : Delimiters.parentheses.Balanced "image".toList := plain (by decide) (by decide)
  have comma : Delimiters.parentheses.Balanced ", caption: [".toList := plain (by decide) (by decide)
  have content : Delimiters.parentheses.Balanced (l.caption ++ [']']) :=
    plain (by simp [caption.opening]) (by simp [caption.closing])
  have cut : l.body = "image".toList ++ ('(' :: ('"' :: (l.path ++ ['"']) ++ [')'])) ++
      (", caption: [".toList ++ (l.caption ++ [']'])) := by
    unfold body
    simp only [List.append_assoc, List.cons_append]
    rfl
  rw [cut]
  exact (keyword.append call).append (comma.append content)

/-- The image of a call is the one that is written first in it. -/
lemma firstReference : FirstReference l.body l.path := by
  have opens : IsOpening "image".toList '(' "image(".toList := ⟨[], by decide, rfl⟩
  have refers : IsReference l.path ("image(".toList ++ [] ++ '"' :: l.path ++ ['"']) :=
    ⟨_, [], opens, by decide, printable.path_ne_nil, printable.quote, rfl⟩
  have cut : l.body = [] ++ ("image(".toList ++ [] ++ '"' :: l.path ++ ['"'] ++
      ("), caption: [".toList ++ (l.caption ++ [']']))) := by
    unfold body
    simp only [List.append_assoc]
    rfl
  exact ⟨[], _, _, cut, refers, fun _ _ _ _ _ _ => Nat.zero_le _⟩

/-- The caption of a call is the one that is written in it. -/
lemma captionOf_body : captionOf l.body = String.ofList (Text.trim l.caption) := by
  have starts : ∀ construct, construct = "caption:".toList → construct.head? = some 'c' := by
    rintro _ rfl
    rfl
  -- In front of the caption the keyword does not start: not in the path, and not across the quote that closes it.
  have call : Lacks (· = "caption:".toList) "image(\"".toList := lacks_of_notMem starts (by decide)
  have path : Lacks (· = "caption:".toList) (l.path ++ ['"']) := by
    apply lacks_concat
    · rintro _ rfl
      decide
    · rintro _ rfl
      exact printable.keyword
  have comma : Lacks (· = "caption:".toList) "), ".toList := lacks_of_notMem starts (by decide)
  have front : Lacks (IsOpening "caption:".toList '[') ("image(\"".toList ++ (l.path ++ ['"']) ++ "), ".toList) :=
    ((call.append path).append comma).isOpening
  have cut : l.body = "image(\"".toList ++ (l.path ++ ['"']) ++ "), ".toList ++
      ("caption: [".toList ++ (l.caption ++ [']'])) := by
    unfold body
    simp only [List.append_assoc]
    rfl
  have here : bracketCaption? ("caption: [".toList ++ (l.caption ++ [']'])) = some l.caption :=
    bracketCaption?_eq_some_iff.mpr ⟨"caption: [".toList, [], ⟨[' '], by decide, rfl⟩, printable.bracket, rfl⟩
  have found : firstMatch? bracketCaption? l.body = some l.caption := by
    rw [cut, front.firstMatch?_append]
    · exact firstMatch?_eq_some_iff.mpr ⟨[], _, rfl, here, fun _ _ _ lt => absurd lt (Nat.not_lt_zero _)⟩
    · intro text content found
      obtain ⟨opening, rest, opens, _, rfl⟩ := bracketCaption?_eq_some_iff.mp found
      exact ⟨opening, opens, List.prefix_append _ _⟩
  rw [captionOf, found]
  rfl

/-- The label of a call is the one that is written behind it. -/
lemma labelOf_inside (rest : List Char) :
    labelOf options.labelLookahead ([' '] ++ ('<' :: (l.label ++ ['>']) ++ rest)) =
      String.ofList ('<' :: l.label ++ ['>']) := by
  have found : label? (([' '] ++ ('<' :: (l.label ++ ['>']) ++ rest)).take options.labelLookahead) = some l.label := by
    have isLabel : IsLabel l.label ('<' :: (l.label ++ ['>'])) := ⟨printable.label_ne_nil, printable.angle, rfl⟩
    have reach := printable.reach
    rw [label?_take_eq_some_iff]
    refine ⟨[' '], '<' :: (l.label ++ ['>']), rest, rfl, .blank (by decide), isLabel, ?_⟩
    simp only [List.length_append, List.length_cons, List.length_nil]
    omega
  rw [labelOf, found]

/-- The call of a line is a figure, whatever follows the line. -/
lemma decided_written (rest : List Char) :
    Decided tree options document (l.written ++ rest) ⟨1, 8⟩ (.figure (l.figure options document 1)) := by
  have hash : before 1 (l.written ++ rest) = ['#'] := by
    rw [written_eq, List.append_assoc]
    exact before_byteLength ['#'] ("figure(".toList ++ (l.inside ++ rest))
  have live : Comment.at? (l.written ++ rest) (Occurrence.mk 1 8).keyword = none := by
    have notLine : ¬ Comment.EndsInLine ['#'] := by
      rw [← Comment.holds_lastLine_iff]
      decide
    rw [Comment.at?, hash]
    exact Comment.ends_iff.mp (.live notLine rfl)
  have encloses : Encloses (l.written ++ rest) ⟨1, 8⟩ l.body ([' '] ++ ('<' :: (l.label ++ ['>']) ++ rest)) := by
    rw [written_eq, List.append_assoc, encloses_iff rfl, inside_eq]
    exact ⟨by simp, printable.balanced⟩
  have decided := Decided.figure live encloses printable.firstReference printable.isFile
  rw [hash, printable.captionOf_body, printable.labelOf_inside] at decided
  exact decided

/-- The calls of a text that starts with a line: the one on the line, and those behind it. -/
lemma occurrences_written (rest : List Char) :
    occurrences (l.written ++ rest) = ⟨1, 8⟩ :: (occurrences rest).map (Occurrence.behind l.written) := by
  have hash : Lacks IsFigureOpening ['#'] := lacks_of_notMem (fun _ opens => opens.head?_eq) (by decide)
  have opens : IsFigureOpening "figure(".toList := ⟨[], by decide, rfl⟩
  have cut : l.written ++ rest = ['#'] ++ ("figure(".toList ++ (l.inside ++ rest)) := by
    rw [written_eq, List.append_assoc]
    rfl
  rw [cut, occurrences_append hash, occurrences_opening opens, occurrences_append printable.lacks_isFigureOpening,
    List.map_cons, map_behind, map_behind, written_eq]
  rfl

/-- The outcomes of a text that starts with a line: its figure, and what comes out behind the line, one line further
down. -/
lemma outcomes_written {rest : List Char} (ends : rest = [] ∨ ∃ more, rest = '\n' :: more) :
    outcomes tree options document (l.written ++ rest) =
      .figure (l.figure options document 1) :: (outcomes tree options document rest.tail).map (Outcome.lowered 1) := by
  have call : IsCall (l.written ++ rest) ⟨1, 8⟩ := by
    rw [← mem_occurrences_iff, printable.occurrences_written]
    exact List.mem_cons_self
  have first := (printable.decided_written rest).eq_outcome call
  have behind : ((occurrences rest).map (Occurrence.behind l.written)).map
      (outcome tree options document (l.written ++ rest) (LineTable.ofText (l.written ++ rest))) =
      (outcomes tree options document rest.tail).map (Outcome.lowered 1) := by
    obtain rfl | ⟨more, rfl⟩ := ends
    · rw [List.tail_nil, outcomes, occurrences_nil]
      rfl
    · have one : lineFeeds (l.written ++ ['\n']) = 1 := by
        rw [lineFeeds_append, printable.lineFeeds_written]
        rfl
      have below := map_outcome_behind tree options document printable.uncommented more
      have cut : l.written ++ '\n' :: more = l.written ++ ['\n'] ++ more := by simp
      rw [one] at below
      rw [List.tail_cons, ← below, cut, occurrences_lineFeed, map_behind]
  rw [outcomes, printable.occurrences_written, List.map_cons, ← first, behind]

end Printable

end FigureLine

variable {tree : FileTree} {options : Options} {document : Path} {lines : List FigureLine} {ending : List Char}

/-- Nothing comes out of an empty line. -/
lemma outcomes_ending (ends : ending = [] ∨ ending = ['\n']) : outcomes tree options document ending = [] := by
  obtain rfl | rfl := ends
  · rw [outcomes, occurrences_nil, List.map_nil]
  · rw [outcomes, occurrences_lineFeed, occurrences_nil, List.map_nil, List.map_nil]

/-- The outcomes of lines are the figures that are written on them. -/
lemma outcomes_lines (printable : ∀ l ∈ lines, l.Printable tree options document)
    (ends : ending = [] ∨ ending = ['\n']) :
    outcomes tree options document (['\n'].intercalate (lines.map FigureLine.written) ++ ending) =
      (lines.mapIdx fun i l => l.figure options document (i + 1)).map Outcome.figure := by
  induction lines with
  | nil =>
    rw [List.map_nil, List.intercalate_nil, List.nil_append, outcomes_ending ends]
    rfl
  | cons l lines ih =>
    have first := printable l List.mem_cons_self
    replace ih := ih fun l' mem => printable l' (List.mem_cons_of_mem l mem)
    -- The figures behind the first line are those of the other lines, one line further down.
    have step {rest : List Char} (starts : rest = [] ∨ ∃ more, rest = '\n' :: more)
        (others : outcomes tree options document rest.tail =
          (lines.mapIdx fun i l => l.figure options document (i + 1)).map Outcome.figure) :
        outcomes tree options document (l.written ++ rest) =
          ((l :: lines).mapIdx fun i l => l.figure options document (i + 1)).map Outcome.figure := by
      rw [first.outcomes_written starts, others, List.mapIdx_cons, List.map_cons]
      simp only [List.mapIdx_eq_zipIdx_map, List.map_map]
      rfl
    cases lines with
    | nil =>
      rw [List.map_cons, List.map_nil, List.intercalate_singleton]
      obtain rfl | rfl := ends
      · exact step (.inl rfl) (outcomes_ending (.inl rfl))
      · exact step (.inr ⟨[], rfl⟩) (outcomes_ending (.inl rfl))
    | cons l' lines =>
      rw [List.map_cons, List.map_cons, List.intercalate_cons_cons, ← List.map_cons, List.append_assoc,
        List.append_assoc]
      exact step (.inr ⟨_, rfl⟩) ih

/-- What is extracted from a text of lines on which figures are written are these figures, in the order of the lines and
with their numbers, and nothing else. -/
theorem ofText_lines (printable : ∀ l ∈ lines, l.Printable tree options document)
    (ends : ending = [] ∨ ending = ['\n']) :
    ofText tree options document (['\n'].intercalate (lines.map FigureLine.written) ++ ending) =
      ⟨lines.mapIdx fun i l => l.figure options document (i + 1), []⟩ := by
  rw [ofText_eq, outcomes_lines printable ends, List.filterMap_map, List.filterMap_map]
  congr 1
  · exact List.filterMap_some
  · exact List.filterMap_eq_nil_iff.mpr fun _ _ => rfl

/-- Two lines whose fields hold a keyword, an opening bracket, a line comment and a closing marker. -/
theorem ofText_lines_two :
    let tree : FileTree := ⟨[(["w"], .directory), (["w", "p.png"], .file "".toUTF8)], []⟩
    let options : Options := ⟨9, none⟩
    let lines : List FigureLine :=
      [⟨"p.png".toList, " figure [ // ".toList, "figure".toList⟩, ⟨"./p.png".toList, [], "*/ é".toList⟩]
    let text := "#figure(image(\"p.png\"), caption: [ figure [ // ]) <figure>\n" ++
      "#figure(image(\"./p.png\"), caption: []) <*/ é>\n"
    (∀ l ∈ lines, l.Printable tree options ⟨"/w/a.typ"⟩) ∧
      (ofText tree options ⟨"/w/a.typ"⟩ text.toList).figures.map (fun f => (f.caption, f.label, f.line)) =
        [("figure [ //", "<figure>", 1), ("", "<*/ é>", 2)] ∧
      (ofText tree options ⟨"/w/a.typ"⟩ text.toList).diagnostics = [] := by
  intro tree options lines text
  have printable : ∀ l ∈ lines, l.Printable tree options ⟨"/w/a.typ"⟩ := by decide +kernel
  have written : text.toList = ['\n'].intercalate (lines.map FigureLine.written) ++ ['\n'] := by decide +kernel
  rw [written, ofText_lines printable (.inr rfl)]
  exact ⟨printable, by decide +kernel, rfl⟩

end FigureGallery.Extraction
