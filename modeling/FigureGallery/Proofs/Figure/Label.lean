import FigureGallery.Proofs.Figure.Extraction
import FigureGallery.Proofs.Markup.Nesting

/-!
# Labels of figures

A label belongs to the call whose closing parenthesis it follows, with nothing but blanks and a hash between the two. As
no parenthesis closes two calls, no label belongs to two of them, however far it is looked for.
-/

namespace FigureGallery.Extraction

open Markup Text

/-- A label at its place in a text. -/
structure Label where
  /-- The offset of its opening bracket. -/
  offset : Nat
  name : List Char

/-- A label as it is written, with its brackets. -/
def Label.written (l : Label) : String :=
  String.ofList ('<' :: l.name ++ ['>'])

/-- The label of a call: it follows the closing parenthesis, and all of it is read within `lookahead` characters. -/
def Labelled (lookahead : Nat) (text : List Char) (place : Occurrence) (l : Label) : Prop :=
  ∃ body lead label post, Encloses text place body (lead ++ (label ++ post)) ∧ IsLead lead ∧ IsLabel l.name label ∧
    (lead ++ label).length ≤ lookahead ∧ l.offset = place.body + byteLength body + 1 + byteLength lead

/-- What is recorded as the label of a call: the one label it has, or nothing when it has none. -/
def CarriesLabel (lookahead : Nat) (text : List Char) (place : Occurrence) (recorded : String) : Prop :=
  (recorded = "" ∧ ∀ l, ¬ Labelled lookahead text place l) ∨
    ∃ l, recorded = l.written ∧ Labelled lookahead text place l ∧ ∀ l', Labelled lookahead text place l' → l' = l

/-- A label is found when all of it is within reach. -/
lemma label?_take_eq_some_iff {lookahead : Nat} {text name : List Char} :
    label? (text.take lookahead) = some name ↔
      ∃ lead label post, text = lead ++ (label ++ post) ∧ IsLead lead ∧ IsLabel name label ∧
        (lead ++ label).length ≤ lookahead := by
  rw [label?_eq_some_iff]
  constructor
  · rintro ⟨lead, label, post, leads, labels, e⟩
    refine ⟨lead, label, post ++ text.drop lookahead, ?_, leads, labels, ?_⟩
    · calc text = text.take lookahead ++ text.drop lookahead := (List.take_append_drop lookahead text).symm
        _ = lead ++ (label ++ (post ++ text.drop lookahead)) := by rw [e]; simp
    · have := congrArg List.length e
      rw [← List.append_assoc, List.length_append, List.length_take] at this
      omega
  · rintro ⟨lead, label, post, rfl, leads, labels, le⟩
    refine ⟨lead, label, post.take (lookahead - (lead ++ label).length), leads, labels, ?_⟩
    rw [← List.append_assoc, List.take_append, List.take_of_length_le le, List.append_assoc]

/-- A text that starts with a label starts with one only. -/
lemma eq_of_isLabel {lead lead' label label' name name' post post' : List Char} (leads : IsLead lead)
    (leads' : IsLead lead') (labels : IsLabel name label) (labels' : IsLabel name' label')
    (e : lead ++ (label ++ post) = lead' ++ (label' ++ post')) : lead = lead' ∧ name = name' := by
  obtain ⟨nonempty, none, rfl⟩ := labels
  obtain ⟨nonempty', none', rfl⟩ := labels'
  simp only [List.cons_append, List.nil_append, List.append_assoc] at e
  have same := (behindLead_eq_cons_iff.mpr ⟨lead, leads, rfl⟩).symm.trans (behindLead_eq_cons_iff.mpr ⟨lead', leads', e⟩)
  have run := runUntil?_eq_some_iff.mpr ⟨nonempty, none, Eq.refl (name ++ '>' :: post)⟩
  have run' := runUntil?_eq_some_iff.mpr ⟨nonempty', none', (List.cons.inj same).2⟩
  refine ⟨?_, (Prod.mk.inj (Option.some.inj (run.symm.trans run'))).1⟩
  rw [same] at e
  exact List.append_cancel_right e

section Call

variable {text : List Char} {place place' : Occurrence}

/-- A call is known by the place of its parenthesis. -/
lemma IsCall.eq_of_body (call : IsCall text place) (call' : IsCall text place') (e : place.body = place'.body) :
    place = place' := by
  obtain ⟨pre, opening, post, rfl, opens, rfl⟩ := call
  obtain ⟨pre', opening', post', cut, opens', rfl⟩ := call'
  obtain ⟨tail, rfl, once⟩ := opens.eq_cons
  obtain ⟨tail', rfl, once'⟩ := opens'.eq_cons
  obtain ⟨upTo, _⟩ := eq_of_byteLength_eq cut e
  obtain ⟨rfl, rfl⟩ := eq_of_append_cons_eq upTo once once'
  rfl

/-- The block of a call stands in the text from parenthesis to parenthesis. -/
lemma IsCall.spans (call : IsCall text place) {b : Block} (found : Delimiters.parentheses.block text place.body = .ok b) :
    b.start = place.body ∧ b.Spans text := by
  obtain ⟨body, rest, encloses, rfl⟩ := (block_eq_ok_iff_encloses call).mp found
  refine ⟨rfl, ?_⟩
  obtain ⟨pre, _, post, rfl, ⟨blanks, _, rfl⟩, rfl⟩ := call
  obtain ⟨_, e, start, balanced⟩ := encloses
  obtain ⟨rfl, rfl⟩ := eq_of_byteLength_eq e start
  refine ⟨pre ++ ("figure".toList ++ blanks), rest, by simp, balanced, ?_, rfl⟩
  simp only [byteLength_append]
  rfl

/-- The blocks of two calls are nested, and no parenthesis closes both. -/
lemma IsCall.nested (call : IsCall text place) (call' : IsCall text place') (ne : place ≠ place') {a b : Block}
    (found : Delimiters.parentheses.block text place.body = .ok a)
    (found' : Delimiters.parentheses.block text place'.body = .ok b) :
    (a.Apart b ∨ a.Within b ∨ b.Within a) ∧ a.close ≠ b.close := by
  obtain ⟨start, spans⟩ := call.spans found
  obtain ⟨start', spans'⟩ := call'.spans found'
  exact spans.nested spans' fun same => ne (call.eq_of_body call' (by rw [← start, ← start', same]))

/-- A call encloses one text. -/
lemma Encloses.eq (call : IsCall text place) {body body' rest rest' : List Char} (encloses : Encloses text place body rest)
    (encloses' : Encloses text place body' rest') : body = body' ∧ rest = rest' := by
  have same := (encloses.block_eq call).symm.trans (encloses'.block_eq call)
  obtain rfl : body = body' := congrArg Block.body (Except.ok.inj same)
  exact ⟨rfl, encloses.after_close.symm.trans encloses'.after_close⟩

variable {lookahead lookahead' : Nat} {l l' : Label}

/-- A call has one label at most. -/
lemma Labelled.eq (call : IsCall text place) (labelled : Labelled lookahead text place l)
    (labelled' : Labelled lookahead' text place l') : l = l' := by
  obtain ⟨offset, name⟩ := l
  obtain ⟨offset', name'⟩ := l'
  obtain ⟨body, lead, label, post, encloses, leads, labels, _, rfl⟩ := labelled
  obtain ⟨body', lead', label', post', encloses', leads', labels', _, rfl⟩ := labelled'
  obtain ⟨rfl, rest⟩ := encloses.eq call encloses'
  obtain ⟨rfl, rfl⟩ := eq_of_isLabel leads leads' labels labels' rest
  rfl

/-- The last closing parenthesis before the label of a call is the one that closes the call. -/
lemma Labelled.exists_before (labelled : Labelled lookahead text place l) :
    ∃ body rest front lead, Encloses text place body rest ∧ before l.offset text = front ++ ')' :: lead ∧ ')' ∉ lead ∧
      place.body + byteLength body = byteLength front := by
  obtain ⟨body, lead, label, post, encloses, leads, _, _, offset⟩ := labelled
  have ⟨pre, written, start, _⟩ := encloses
  refine ⟨body, lead ++ (label ++ post), pre ++ body, lead, encloses, ?_, leads.notMem (by decide) (by decide),
    by rw [byteLength_append, start]⟩
  have size : ')'.utf8Size = 1 := rfl
  have e : l.offset = byteLength (pre ++ body ++ ')' :: lead) := by
    rw [offset, start, byteLength_append, byteLength_append, byteLength_cons]
    omega
  have cut : pre ++ (body ++ ')' :: (lead ++ (label ++ post))) = pre ++ body ++ ')' :: lead ++ (label ++ post) := by simp
  rw [e, written, cut, before_byteLength]

/-- No label belongs to two calls. -/
lemma Labelled.eq_of_offset_eq (call : IsCall text place) (call' : IsCall text place')
    (labelled : Labelled lookahead text place l) (labelled' : Labelled lookahead' text place' l')
    (same : l.offset = l'.offset) : place = place' := by
  obtain ⟨body, rest, front, lead, encloses, stands, last, close⟩ := labelled.exists_before
  obtain ⟨body', rest', front', lead', encloses', stands', last', close'⟩ := labelled'.exists_before
  rw [same, stands'] at stands
  obtain ⟨rfl, rfl⟩ := eq_of_append_cons_eq stands last' last
  by_contra ne
  obtain ⟨_, closes⟩ := call.nested call' ne (encloses.block_eq call) (encloses'.block_eq call')
  exact closes (close.trans close'.symm)

/-- The label that is read behind a call is the label it has. -/
lemma carriesLabel_labelOf (call : IsCall text place) {body rest : List Char} (encloses : Encloses text place body rest) :
    CarriesLabel lookahead text place (labelOf lookahead rest) := by
  rw [labelOf]
  split
  · rename_i name found
    obtain ⟨lead, label, post, rfl, leads, labels, le⟩ := label?_take_eq_some_iff.mp found
    have labelled : Labelled lookahead text place ⟨_, name⟩ := ⟨body, lead, label, post, encloses, leads, labels, le, rfl⟩
    exact .inr ⟨_, rfl, labelled, fun _ labelled' => labelled'.eq call labelled⟩
  · rename_i none
    refine .inl ⟨rfl, ?_⟩
    rintro l ⟨body', lead, label, post, encloses', leads, labels, le, _⟩
    obtain ⟨_, rfl⟩ := encloses.eq call encloses'
    rw [label?_take_eq_some_iff.mpr ⟨lead, label, post, rfl, leads, labels, le⟩] at none
    simp at none

/-- A recorded figure carries the label of its call. -/
lemma Decided.carriesLabel {tree : FileTree} {options : Options} {document : Path} {f : Figure} (call : IsCall text place)
    (decided : Decided tree options document text place (.figure f)) :
    CarriesLabel options.labelLookahead text place f.label := by
  cases decided with
  | figure _ encloses _ _ => exact carriesLabel_labelOf call encloses

end Call

/-- The figures among outcomes have their places among those of the outcomes, in the same order. -/
lemma exists_recorded {R : Occurrence → Outcome → Prop} {places : List Occurrence} {os : List Outcome}
    (decided : List.Forall₂ R places os) :
    ∃ recorded, recorded.Sublist places ∧
      List.Forall₂ (fun place f => R place (.figure f)) recorded (os.filterMap Outcome.figure?) := by
  induction decided with
  | nil => exact ⟨[], .slnil, .nil⟩
  | @cons place o places os head _ ih =>
    obtain ⟨recorded, sublist, figures⟩ := ih
    cases o with
    | figure f => exact ⟨place :: recorded, sublist.cons_cons place, .cons head figures⟩
    | omitted d => exact ⟨recorded, sublist.cons place, figures⟩

/-- The calls of a text whose parentheses balance are nested: from parenthesis to parenthesis, two of them have no
character in common, or one lies within the other, and no parenthesis closes both. Each recorded figure carries the label
of its call, which is the label of no other recorded call, however far labels are looked for. -/
theorem spans_nested_and_labels_exclusive (tree : FileTree) (options : Options) (document : Path) (text : List Char) :
    (∀ place ∈ occurrences text, ∀ b, Delimiters.parentheses.block text place.body = .ok b →
      (after b.opening text).head? = some '(' ∧ (after b.close text).head? = some ')') ∧
    (∀ place ∈ occurrences text, ∀ place' ∈ occurrences text, place ≠ place' → ∀ a b,
      Delimiters.parentheses.block text place.body = .ok a → Delimiters.parentheses.block text place'.body = .ok b →
      (a.Apart b ∨ a.Within b ∨ b.Within a) ∧ a.close ≠ b.close) ∧
    ∃ recorded, recorded.Sublist (occurrences text) ∧
      List.Forall₂ (fun place f => Decided tree options document text place (.figure f) ∧
        CarriesLabel options.labelLookahead text place f.label) recorded (ofText tree options document text).figures ∧
      recorded.Pairwise fun place place' => ∀ lookahead lookahead' l l',
        Labelled lookahead text place l → Labelled lookahead' text place' l' → l.offset ≠ l'.offset := by
  have call {place : Occurrence} (mem : place ∈ occurrences text) : IsCall text place := mem_occurrences_iff.mp mem
  refine ⟨fun place mem b found => ((call mem).spans found).2.parentheses,
    fun place mem place' mem' ne a b found found' => (call mem).nested (call mem') ne found found', ?_⟩
  have decided : List.Forall₂ (fun place o => place ∈ occurrences text ∧ Decided tree options document text place o)
      (occurrences text) (outcomes tree options document text) := by
    rw [outcomes, List.forall₂_map_right_iff, List.forall₂_same]
    exact fun place mem => ⟨mem, decided_outcome (call mem)⟩
  obtain ⟨recorded, sublist, figures⟩ := exists_recorded decided
  refine ⟨recorded, sublist, ?_, ?_⟩
  · rw [ofText_eq]
    refine figures.imp fun place f figure => ?_
    obtain ⟨mem, decided⟩ := figure
    exact ⟨decided, decided.carriesLabel (call mem)⟩
  · refine ((pairwise_occurrences text).sublist sublist).imp_of_mem fun mem mem' lt lookahead lookahead' l l' labelled
      labelled' same => ?_
    have one := labelled.eq_of_offset_eq (call (sublist.subset mem)) (call (sublist.subset mem')) labelled' same
    rw [one] at lt
    exact Nat.lt_irrefl _ lt

/-- A call inside another one, each with a label of its own. -/
theorem spans_nested_and_labels_exclusive_inside :
    let tree : FileTree := ⟨[(["w"], .directory), (["w", "p.png"], .file "".toUTF8)], []⟩
    let text := "figure(é figure(image(\"p.png\")) #<a> ) <b>".toList
    let extraction := ofText tree ⟨200, none⟩ ⟨"/w/a.typ"⟩ text
    occurrences text = [⟨0, 7⟩, ⟨10, 17⟩] ∧ extraction.figures.map Figure.label = ["<b>", "<a>"] ∧
      (∃ a b, Delimiters.parentheses.block text 7 = .ok a ∧ Delimiters.parentheses.block text 17 = .ok b ∧ b.Within a ∧
        a.close ≠ b.close) ∧
      ∃ l l', "<b>" = l.written ∧ Labelled 200 text ⟨0, 7⟩ l ∧ "<a>" = l'.written ∧ Labelled 200 text ⟨10, 17⟩ l' ∧
        l.offset ≠ l'.offset := by
  intro tree text extraction
  have calls : occurrences text = [⟨0, 7⟩, ⟨10, 17⟩] := by decide +kernel
  have labels : extraction.figures.map Figure.label = ["<b>", "<a>"] := by decide +kernel
  have found : Delimiters.parentheses.block text 7 = .ok ⟨7, 38, "é figure(image(\"p.png\")) #<a> ".toList⟩ := by
    decide +kernel
  have found' : Delimiters.parentheses.block text 17 = .ok ⟨17, 31, "image(\"p.png\")".toList⟩ := by decide +kernel
  obtain ⟨_, nested, recorded, sublist, figures, apart⟩ :=
    spans_nested_and_labels_exclusive tree ⟨200, none⟩ ⟨"/w/a.typ"⟩ text
  have closes := (nested ⟨0, 7⟩ (by simp [calls]) ⟨10, 17⟩ (by simp [calls]) (by decide) _ _ found found').2
  refine ⟨calls, labels, ⟨_, _, found, found', by simp [Block.Within, Block.opening], closes⟩, ?_⟩
  -- Both calls are recorded.
  have both : recorded = [⟨0, 7⟩, ⟨10, 17⟩] := by
    have length := congrArg List.length labels
    rw [List.length_map, ← figures.length_eq] at length
    rw [calls] at sublist
    exact sublist.eq_of_length length
  subst both
  obtain ⟨f, _, ⟨_, carries⟩, more, e⟩ := List.forall₂_cons_left_iff.mp figures
  obtain ⟨g, _, ⟨_, carries'⟩, ends, rfl⟩ := List.forall₂_cons_left_iff.mp more
  obtain rfl := List.forall₂_nil_left_iff.mp ends
  obtain ⟨label, label'⟩ : f.label = "<b>" ∧ g.label = "<a>" := by simpa [extraction, e] using labels
  rw [label] at carries
  rw [label'] at carries'
  obtain ⟨none, _⟩ | ⟨l, written, labelled, _⟩ := carries
  · exact absurd none (by decide)
  · obtain ⟨none, _⟩ | ⟨l', written', labelled', _⟩ := carries'
    · exact absurd none (by decide)
    · have differ := (List.pairwise_cons.mp apart).1 _ List.mem_cons_self 200 200 l l' labelled labelled'
      exact ⟨l, l', written, labelled, written', labelled', differ⟩

end FigureGallery.Extraction
