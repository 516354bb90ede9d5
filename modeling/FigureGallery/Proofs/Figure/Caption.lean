import FigureGallery.Figure.Extraction
import FigureGallery.Proofs.Markup.Shape

/-!
# Captions

A caption is written in brackets or in quotes. The first one in brackets counts, wherever those in quotes stand; only if
there is none, the first one in quotes; and a body with neither has the caption of all figures without one. What is shown is
the text between the brackets or quotes without the blanks at either end.
-/

namespace FigureGallery.Extraction

open Markup Text

/-- What is shown of a text: what is left of it without the blanks at either end. -/
def IsTrimmed (text shown : List Char) : Prop :=
  ∃ before behind, IsBlank before ∧ IsBlank behind ∧ text = before ++ (shown ++ behind) ∧
    (∀ c ∈ shown.head?, ¬ isBlank c) ∧ ∀ c ∈ shown.getLast?, ¬ isBlank c

/-- A caption in brackets with its content, up to the first closing bracket. -/
def IsBracketed (content caption : List Char) : Prop :=
  ∃ opening, IsOpening "caption:".toList '[' opening ∧ ']' ∉ content ∧ caption = opening ++ (content ++ [']'])

/-- A caption in quotes with its content, which is not empty. -/
def IsQuoted (content caption : List Char) : Prop :=
  ∃ opening, IsOpening "caption:".toList '"' opening ∧ content ≠ [] ∧ '"' ∉ content ∧
    caption = opening ++ (content ++ ['"'])

/-- The caption that is shown for a body. -/
inductive Captioned (body : List Char) : List Char → Prop where
  | bracketed {content shown} :
    First IsBracketed body content →
    IsTrimmed content shown →
    Captioned body shown
  | quoted {content shown} :
    ¬ Holds IsBracketed body →
    First IsQuoted body content →
    IsTrimmed content shown →
    Captioned body shown
  | absent :
    ¬ Holds IsBracketed body →
    ¬ Holds IsQuoted body →
    Captioned body noCaption.toList

variable {text body content shown : List Char}

/-- A text is trimmed in one way. -/
lemma trim_eq_iff : trim text = shown ↔ IsTrimmed text shown := by
  have reversed (cs : List Char) : trimEnd cs = shown ↔ trimStart cs.reverse = shown.reverse := by
    rw [trimEnd, trimStart, List.reverse_eq_iff]
  rw [trim, reversed]
  constructor
  · intro trimmed
    obtain ⟨before, blank, e, head⟩ := trimStart_eq_iff.mp (rfl : trimStart text = trimStart text)
    obtain ⟨behind, blank', e', last⟩ := trimStart_eq_iff.mp trimmed
    have inside : trimStart text = shown ++ behind.reverse := by
      rw [List.reverse_eq_iff] at e'
      simpa using e'
    rw [inside] at e head
    rw [List.head?_reverse] at last
    refine ⟨before, behind.reverse, blank, fun c mem => blank' c (List.mem_reverse.mp mem), e, ?_, last⟩
    cases shown with
    | nil => simp
    | cons c cs => exact head
  · rintro ⟨before, behind, blank, blank', e, head, last⟩
    cases shown with
    | nil =>
      have all : IsBlank text := by
        rw [e]
        exact List.forall_mem_append.mpr ⟨blank, blank'⟩
      rw [trimStart_eq_iff.mpr ⟨text, all, (List.append_nil text).symm, by simp⟩]
      rfl
    | cons c cs =>
      rw [trimStart_eq_iff.mpr ⟨before, blank, e, head⟩, List.reverse_append]
      refine trimStart_eq_iff.mpr ⟨behind.reverse, fun d mem => blank' d (List.mem_reverse.mp mem), rfl, ?_⟩
      rwa [List.head?_reverse]

/-- The shape of a caption in brackets yields the content of the one that a text starts with. -/
lemma bracketCaption?_eq_some_iff_isBracketed :
    bracketCaption? text = some content ↔ ∃ caption rest, IsBracketed content caption ∧ text = caption ++ rest := by
  rw [bracketCaption?_eq_some_iff]
  constructor
  · intro ⟨opening, rest, opens, bare, e⟩
    exact ⟨_, rest, ⟨opening, opens, bare, rfl⟩, by simpa using e⟩
  · intro ⟨_, rest, ⟨opening, opens, bare, rfl⟩, e⟩
    exact ⟨opening, rest, opens, bare, by simpa using e⟩

/-- The shape of a caption in quotes yields the content of the one that a text starts with. -/
lemma quotedCaption?_eq_some_iff_isQuoted :
    quotedCaption? text = some content ↔ ∃ caption rest, IsQuoted content caption ∧ text = caption ++ rest := by
  rw [quotedCaption?, Option.bind_eq_some_iff]
  constructor
  · intro ⟨quoted, opened, closed⟩
    obtain ⟨opening, opens, rfl⟩ := (keywordThen?_eq_some_iff (by decide)).mp opened
    obtain ⟨⟨run, rest⟩, closes, rfl⟩ := Option.map_eq_some_iff.mp closed
    obtain ⟨nonempty, bare, rfl⟩ := runUntil?_eq_some_iff.mp closes
    exact ⟨_, rest, ⟨opening, opens, nonempty, bare, rfl⟩, by simp⟩
  · intro ⟨_, rest, ⟨opening, opens, nonempty, bare, rfl⟩, e⟩
    refine ⟨content ++ '"' :: rest, (keywordThen?_eq_some_iff (by decide)).mpr ⟨opening, opens, by simpa using e⟩, ?_⟩
    rw [runUntil?_eq_some_iff.mpr ⟨nonempty, bare, rfl⟩]
    rfl

/-- The caption that is computed is the one that is shown. -/
lemma captioned_captionOf (body : List Char) : Captioned body (captionOf body).toList := by
  rw [captionOf]
  cases bracketed : firstMatch? bracketCaption? body with
  | some content =>
    rw [Option.some_or, String.toList_ofList]
    exact .bracketed ((firstMatch?_eq_some_iff_first bracketCaption?_eq_some_iff_isBracketed).mp bracketed)
      (trim_eq_iff.mp rfl)
  | none =>
    have unbracketed := (firstMatch?_eq_none_iff_not_holds bracketCaption?_eq_some_iff_isBracketed).mp bracketed
    rw [Option.none_or]
    cases quoted : firstMatch? quotedCaption? body with
    | some content =>
      rw [String.toList_ofList]
      exact .quoted unbracketed ((firstMatch?_eq_some_iff_first quotedCaption?_eq_some_iff_isQuoted).mp quoted)
        (trim_eq_iff.mp rfl)
    | none =>
      exact .absent unbracketed ((firstMatch?_eq_none_iff_not_holds quotedCaption?_eq_some_iff_isQuoted).mp quoted)

/-- A body has one caption. -/
lemma Captioned.eq (captioned : Captioned body shown) : (captionOf body).toList = shown := by
  rw [captionOf]
  cases captioned with
  | bracketed first trimmed =>
    rw [(firstMatch?_eq_some_iff_first bracketCaption?_eq_some_iff_isBracketed).mpr first, Option.some_or,
      String.toList_ofList, trim_eq_iff.mpr trimmed]
  | quoted unbracketed first trimmed =>
    rw [(firstMatch?_eq_none_iff_not_holds bracketCaption?_eq_some_iff_isBracketed).mpr unbracketed,
      (firstMatch?_eq_some_iff_first quotedCaption?_eq_some_iff_isQuoted).mpr first, Option.none_or,
      String.toList_ofList, trim_eq_iff.mpr trimmed]
  | absent unbracketed unquoted =>
    rw [(firstMatch?_eq_none_iff_not_holds bracketCaption?_eq_some_iff_isBracketed).mpr unbracketed,
      (firstMatch?_eq_none_iff_not_holds quotedCaption?_eq_some_iff_isQuoted).mpr unquoted, Option.none_or]

/-- An opening bracket of a caption with a closing bracket somewhere behind it makes a caption in brackets. -/
lemma holds_isBracketed_iff : Holds IsBracketed body ↔
    ∃ pre opening rest, body = pre ++ (opening ++ rest) ∧ IsOpening "caption:".toList '[' opening ∧ ']' ∈ rest := by
  constructor
  · rintro ⟨pre, content, _, post, e, opening, opens, _, rfl⟩
    exact ⟨pre, opening, content ++ ']' :: post, by simpa using e, opens, by simp⟩
  · intro ⟨pre, opening, rest, e, opens, closed⟩
    obtain ⟨content, post, rfl, bare⟩ := List.eq_append_cons_of_mem closed
    exact ⟨pre, content, opening ++ (content ++ [']']), post, by simpa using e, opening, opens, bare, rfl⟩

lemma IsTrimmed.mem {c : Char} (trimmed : IsTrimmed content shown) (mem : c ∈ shown) : c ∈ content := by
  obtain ⟨before, behind, _, _, rfl, _⟩ := trimmed
  simp [mem]

/-- No caption starts or ends with a blank. -/
lemma Captioned.visible (captioned : Captioned body shown) :
    (∀ c ∈ shown.head?, ¬ isBlank c) ∧ ∀ c ∈ shown.getLast?, ¬ isBlank c := by
  cases captioned with
  | bracketed _ trimmed =>
    obtain ⟨_, _, _, _, _, visible⟩ := trimmed
    exact visible
  | quoted _ _ trimmed =>
    obtain ⟨_, _, _, _, _, visible⟩ := trimmed
    exact visible
  | absent _ _ =>
    have first : noCaption.toList.head? = some 'N' := by decide
    have last : noCaption.toList.getLast? = some 'n' := by decide
    rw [first, last]
    refine ⟨fun c mem => ?_, fun c mem => ?_⟩
    · obtain rfl := Option.some.inj mem
      decide
    · obtain rfl := Option.some.inj mem
      decide

/-- The caption of a body is the one that three rules give: the first one in brackets, or else the first one in quotes, or
else that of figures without one, each without the blanks at either end. When some `caption:` and opening bracket have a
closing bracket behind them, wherever they stand, the caption is one in brackets and has no closing bracket; otherwise one
in quotes has no quote. No caption starts or ends with a blank. -/
theorem caption_by_form (body : List Char) :
    (∀ shown, Captioned body shown ↔ (captionOf body).toList = shown) ∧
    (∀ pre opening rest, body = pre ++ (opening ++ rest) → IsOpening "caption:".toList '[' opening → ']' ∈ rest →
      ∃ content, First IsBracketed body content ∧ IsTrimmed content (captionOf body).toList ∧
        ']' ∉ (captionOf body).toList) ∧
    ((∀ pre opening rest, body = pre ++ (opening ++ rest) → IsOpening "caption:".toList '[' opening → ']' ∉ rest) →
      (Holds IsQuoted body → ∃ content, First IsQuoted body content ∧ IsTrimmed content (captionOf body).toList ∧
        '"' ∉ (captionOf body).toList) ∧
      (¬ Holds IsQuoted body → captionOf body = noCaption)) ∧
    (∀ c ∈ (captionOf body).toList.head?, ¬ isBlank c) ∧ ∀ c ∈ (captionOf body).toList.getLast?, ¬ isBlank c := by
  have captioned := captioned_captionOf body
  refine ⟨fun shown => ⟨Captioned.eq, fun e => e ▸ captioned⟩, fun pre opening rest e opens closed => ?_, fun none => ?_,
    captioned.visible⟩
  · have bracketed : Holds IsBracketed body := holds_isBracketed_iff.mpr ⟨pre, opening, rest, e, opens, closed⟩
    generalize (captionOf body).toList = shown at captioned ⊢
    cases captioned with
    | @bracketed content _ first trimmed =>
      obtain ⟨_, _, _, _, ⟨_, _, bare, _⟩, _⟩ := id first
      exact ⟨content, first, trimmed, fun mem => bare (trimmed.mem mem)⟩
    | quoted unbracketed _ _ => exact absurd bracketed unbracketed
    | absent unbracketed _ => exact absurd bracketed unbracketed
  · have unbracketed : ¬ Holds IsBracketed body := by
      rw [holds_isBracketed_iff]
      intro ⟨pre, opening, rest, e, opens, closed⟩
      exact none pre opening rest e opens closed
    constructor
    · intro quoted
      generalize (captionOf body).toList = shown at captioned ⊢
      cases captioned with
      | bracketed first _ =>
        obtain ⟨pre, caption, post, e, is, _⟩ := first
        exact absurd ⟨pre, _, caption, post, e, is⟩ unbracketed
      | @quoted content _ _ first trimmed =>
        obtain ⟨_, _, _, _, ⟨_, _, _, bare, _⟩, _⟩ := id first
        exact ⟨content, first, trimmed, fun mem => bare (trimmed.mem mem)⟩
      | absent _ unquoted => exact absurd quoted unquoted
    · intro unquoted
      exact String.toList_inj.mp (Captioned.absent unbracketed unquoted).eq

/-- A caption in brackets over two lines, between one in quotes and an opening bracket that is never closed. -/
theorem caption_by_form_between :
    let body := "caption: \"q\", caption:\n[ a\n\"b\" ], caption: [c".toList
    Holds IsQuoted body ∧ ']' ∈ " a\n\"b\" ], caption: [c".toList ∧ captionOf body = "a\n\"b\"" ∧
      ∃ content, First IsBracketed body content ∧ IsTrimmed content (captionOf body).toList ∧
        ']' ∉ (captionOf body).toList := by
  intro body
  obtain ⟨_, bracketed, _⟩ := caption_by_form body
  have quoted : Holds IsQuoted body :=
    ⟨[], ['q'], "caption: \"q\"".toList, ", caption:\n[ a\n\"b\" ], caption: [c".toList, rfl,
      "caption: \"".toList, ⟨[' '], by decide, rfl⟩, by simp, by decide, rfl⟩
  refine ⟨quoted, by decide, by decide +kernel,
    bracketed "caption: \"q\", ".toList "caption:\n[".toList " a\n\"b\" ], caption: [c".toList rfl ?_ (by decide)⟩
  exact ⟨['\n'], by decide, rfl⟩

end FigureGallery.Extraction
