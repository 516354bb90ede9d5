import FigureGallery.Markup.Shape
import FigureGallery.Proofs.Markup.Marker
import Mathlib.Data.List.TakeWhile

/-!
# Shapes as grammars

Each function that recognises a construct at the start of a text is a grammar: it succeeds exactly on the texts that
are written in one way, and says what stands where. The first place at which a shape starts is the place with the
shortest text before it.
-/

namespace FigureGallery.Markup

/-- A text of blanks only. -/
def IsBlank (blanks : List Char) : Prop :=
  ∀ c ∈ blanks, Text.isBlank c

instance (blanks : List Char) : Decidable (IsBlank blanks) :=
  List.decidableBAll (fun c => Text.isBlank c) blanks

/-- A keyword, blanks and one more character. -/
def IsOpening (keyword : List Char) (last : Char) (opening : List Char) : Prop :=
  ∃ blanks, IsBlank blanks ∧ opening = keyword ++ blanks ++ [last]

/-- An image reference with a path: the opening of a call, blanks, and the path in quotes. -/
def IsReference (path reference : List Char) : Prop :=
  ∃ opening blanks, IsOpening "image".toList '(' opening ∧ IsBlank blanks ∧ path ≠ [] ∧ '"' ∉ path ∧
    reference = opening ++ blanks ++ '"' :: path ++ ['"']

/-- What may stand before a label: blanks, and among them at most one hash. -/
inductive IsLead : List Char → Prop where
  | blank {blanks} :
    IsBlank blanks →
    IsLead blanks
  | hashed {blanks blanks'} :
    IsBlank blanks →
    IsBlank blanks' →
    IsLead (blanks ++ '#' :: blanks')

/-- A name in angle brackets. -/
def IsLabel (name label : List Char) : Prop :=
  name ≠ [] ∧ '>' ∉ name ∧ label = '<' :: (name ++ ['>'])

/-- A text starts with blanks, and what is left when they are dropped does not start with one. -/
lemma trimStart_eq_iff {text rest : List Char} :
    Text.trimStart text = rest ↔ ∃ blanks, IsBlank blanks ∧ text = blanks ++ rest ∧ ∀ c ∈ rest.head?, ¬ Text.isBlank c := by
  constructor
  · rintro rfl
    refine ⟨text.takeWhile Text.isBlank, fun c mem => List.mem_takeWhile_imp mem, ?_, ?_⟩
    · exact List.takeWhile_append_dropWhile.symm
    · intro c mem
      have := List.head?_dropWhile_not Text.isBlank text
      rw [Text.trimStart] at mem
      rw [mem] at this
      simpa using this
  · rintro ⟨blanks, blank, rfl, h⟩
    rw [Text.trimStart, List.dropWhile_append_of_pos blank]
    cases rest with
    | nil => rfl
    | cons c cs => exact List.dropWhile_cons_of_neg (h c rfl)

/-- The search for a keyword finds its openings. -/
lemma keywordThen?_eq_some_iff {keyword : List Char} {c : Char} (visible : ¬ Text.isBlank c) {text rest : List Char} :
    keywordThen? keyword c text = some rest ↔ ∃ opening, IsOpening keyword c opening ∧ text = opening ++ rest := by
  constructor
  · intro h
    simp only [keywordThen?] at h
    split at h
    · simp at h
    · rename_i r hr
      split at h
      · simp at h
      · rename_i d ds hd
        split at h
        · rename_i hc
          obtain ⟨blanks, blank, e, _⟩ := trimStart_eq_iff.mp hd
          refine ⟨keyword ++ blanks ++ [c], ⟨blanks, blank, rfl⟩, ?_⟩
          rw [eq_append_of_isPrefixOf? hr, e, hc, Option.some.inj h]
          simp
        · simp at h
  · rintro ⟨_, ⟨blanks, blank, rfl⟩, rfl⟩
    have start : keyword.isPrefixOf? (keyword ++ blanks ++ [c] ++ rest) = some (blanks ++ c :: rest) := by
      rw [List.append_assoc, List.append_assoc, isPrefixOf?_append, List.singleton_append]
    have trimmed : Text.trimStart (blanks ++ c :: rest) = c :: rest :=
      trimStart_eq_iff.mpr ⟨blanks, blank, rfl, by simpa using visible⟩
    simp only [keywordThen?, start, trimmed]
    simp

/-- A closed run is a non-empty text without the closing character, which comes next. -/
lemma runUntil?_eq_some_iff {closing : Char} {text run rest : List Char} :
    runUntil? closing text = some (run, rest) ↔ run ≠ [] ∧ closing ∉ run ∧ text = run ++ closing :: rest := by
  constructor
  · intro h
    simp only [runUntil?] at h
    split at h
    · rename_i c cs d ds taken dropped
      obtain ⟨rfl, rfl⟩ := Prod.mk.inj (Option.some.inj h)
      have closes : d = closing := by
        have := List.head?_dropWhile_not (· != closing) text
        rw [dropped] at this
        simpa using this
      refine ⟨List.cons_ne_nil c cs, ?_, ?_⟩
      · intro mem
        rw [← taken] at mem
        simpa using List.mem_takeWhile_imp mem
      · subst closes
        rw [← taken, ← dropped, List.takeWhile_append_dropWhile]
    · simp at h
  · rintro ⟨nonempty, none, rfl⟩
    have inside : ∀ c ∈ run, (c != closing) = true := by
      intro c mem
      simpa using fun e : c = closing => none (e ▸ mem)
    obtain ⟨c, cs, rfl⟩ := List.exists_cons_of_ne_nil nonempty
    simp only [runUntil?, List.takeWhile_append_of_pos inside, List.dropWhile_append_of_pos inside]
    simp

/-- The shape of an image reference yields the path of the reference that a text starts with. -/
lemma imageReference?_eq_some_iff {text path : List Char} :
    imageReference? text = some path ↔ ∃ reference rest, IsReference path reference ∧ text = reference ++ rest := by
  rw [imageReference?, Option.bind_eq_some_iff]
  constructor
  · rintro ⟨inside, hi, h⟩
    obtain ⟨opening, opens, rfl⟩ := (keywordThen?_eq_some_iff (by decide)).mp hi
    split at h
    · rename_i quoted hq
      obtain ⟨⟨run, rest⟩, hr, rfl⟩ := Option.map_eq_some_iff.mp h
      obtain ⟨nonempty, none, rfl⟩ := runUntil?_eq_some_iff.mp hr
      obtain ⟨blanks, blank, rfl, _⟩ := trimStart_eq_iff.mp hq
      refine ⟨opening ++ blanks ++ '"' :: run ++ ['"'], rest, ⟨opening, blanks, opens, blank, nonempty, none, rfl⟩, ?_⟩
      simp
    · simp at h
  · rintro ⟨_, rest, ⟨opening, blanks, opens, blank, nonempty, none, rfl⟩, rfl⟩
    refine ⟨blanks ++ '"' :: (path ++ '"' :: rest), (keywordThen?_eq_some_iff (by decide)).mpr ⟨opening, opens, ?_⟩, ?_⟩
    · simp
    · have trimmed : Text.trimStart (blanks ++ '"' :: (path ++ '"' :: rest)) = '"' :: (path ++ '"' :: rest) :=
        trimStart_eq_iff.mpr ⟨blanks, blank, rfl, by simp; decide⟩
      have run : runUntil? '"' (path ++ '"' :: rest) = some (path, rest) :=
        runUntil?_eq_some_iff.mpr ⟨nonempty, none, rfl⟩
      simp only [trimmed, run, Option.map_some]

/-- The shape of a caption in brackets yields the text up to the first closing bracket. -/
lemma bracketCaption?_eq_some_iff {text content : List Char} :
    bracketCaption? text = some content ↔
      ∃ opening rest, IsOpening "caption:".toList '[' opening ∧ ']' ∉ content ∧
        text = opening ++ (content ++ ']' :: rest) := by
  have upTo {run rest : List Char} (none : ']' ∉ run) : (run ++ ']' :: rest).takeWhile (· != ']') = run := by
    have inside : ∀ c ∈ run, (c != ']') = true := by
      intro c mem
      simpa using fun e : c = ']' => none (e ▸ mem)
    rw [List.takeWhile_append_of_pos inside]
    simp
  rw [bracketCaption?, Option.bind_eq_some_iff]
  constructor
  · rintro ⟨quoted, hq, h⟩
    obtain ⟨opening, opens, rfl⟩ := (keywordThen?_eq_some_iff (by decide)).mp hq
    split at h
    · rename_i closed
      obtain ⟨run, rest, rfl, none⟩ := List.eq_append_cons_of_mem (List.contains_iff_mem.mp closed)
      rw [upTo none] at h
      obtain rfl := Option.some.inj h
      exact ⟨opening, rest, opens, none, rfl⟩
    · simp at h
  · rintro ⟨opening, rest, opens, none, rfl⟩
    refine ⟨_, (keywordThen?_eq_some_iff (by decide)).mpr ⟨opening, opens, rfl⟩, ?_⟩
    rw [if_pos (by simp), upTo none]

/-- An opening holds the characters of its keyword, blanks and its last character. -/
lemma IsOpening.notMem {keyword opening : List Char} {last c : Char} (opens : IsOpening keyword last opening)
    (visible : ¬ Text.isBlank c) (notMem : c ∉ keyword ++ [last]) : c ∉ opening := by
  obtain ⟨blanks, blank, rfl⟩ := opens
  have notBlank : c ∉ blanks := fun mem => visible (blank c mem)
  rw [List.mem_append, not_or] at notMem
  simp [notBlank, notMem.1, List.ne_of_not_mem_cons notMem.2]

/-- Before a label stands neither an angle bracket nor a parenthesis. -/
lemma IsLead.notMem {lead : List Char} (leads : IsLead lead) {c : Char} (visible : ¬ Text.isBlank c) (ne : c ≠ '#') :
    c ∉ lead := by
  have notBlank {blanks : List Char} (blank : IsBlank blanks) : c ∉ blanks := fun mem => visible (blank c mem)
  cases leads with
  | blank blank => exact notBlank blank
  | hashed blank blank' => simp [notBlank blank, notBlank blank', ne]

/-- What follows the blanks and the hash that may stand before a label. -/
def behindLead (text : List Char) : List Char :=
  match Text.trimStart text with
  | '#' :: rest => Text.trimStart rest
  | rest => rest

/-- The search for a label passes over what may stand before it. -/
lemma behindLead_eq_cons_iff {text quoted : List Char} :
    behindLead text = '<' :: quoted ↔ ∃ lead, IsLead lead ∧ text = lead ++ '<' :: quoted := by
  rw [behindLead]
  constructor
  · intro h
    split at h
    · rename_i rest hashed
      obtain ⟨blanks, blank, rfl, _⟩ := trimStart_eq_iff.mp hashed
      obtain ⟨blanks', blank', rfl, _⟩ := trimStart_eq_iff.mp h
      exact ⟨blanks ++ '#' :: blanks', .hashed blank blank', by simp⟩
    · obtain ⟨blanks, blank, rfl, _⟩ := trimStart_eq_iff.mp h
      exact ⟨blanks, .blank blank, rfl⟩
  · have trimmed {blanks rest : List Char} (blank : IsBlank blanks) {c : Char} (visible : ¬ Text.isBlank c) :
        Text.trimStart (blanks ++ c :: rest) = c :: rest :=
      trimStart_eq_iff.mpr ⟨blanks, blank, rfl, by simpa using visible⟩
    rintro ⟨lead, leads, rfl⟩
    cases leads with
    | blank blank =>
      rw [trimmed blank (by decide)]
      rfl
    | hashed blank blank' =>
      rw [List.append_assoc, List.cons_append, trimmed blank (by decide)]
      exact trimmed blank' (by decide)

/-- The shape of a label yields the name of the label that a text starts with. -/
lemma label?_eq_some_iff {text name : List Char} :
    label? text = some name ↔ ∃ lead label rest, IsLead lead ∧ IsLabel name label ∧ text = lead ++ (label ++ rest) := by
  constructor
  · intro h
    rw [label?] at h
    split at h
    · rename_i quoted hq
      obtain ⟨lead, leads, rfl⟩ := behindLead_eq_cons_iff.mp hq
      obtain ⟨⟨run, rest⟩, hr, rfl⟩ := Option.map_eq_some_iff.mp h
      obtain ⟨nonempty, none, rfl⟩ := runUntil?_eq_some_iff.mp hr
      exact ⟨lead, '<' :: (run ++ ['>']), rest, leads, ⟨nonempty, none, rfl⟩, by simp⟩
    · simp at h
  · rintro ⟨lead, _, rest, leads, ⟨nonempty, none, rfl⟩, rfl⟩
    have quoted := behindLead_eq_cons_iff.mpr ⟨lead, leads, (by simp :
      lead ++ ('<' :: (name ++ ['>']) ++ rest) = lead ++ '<' :: (name ++ '>' :: rest))⟩
    have run : runUntil? '>' (name ++ '>' :: rest) = some (name, rest) :=
      runUntil?_eq_some_iff.mpr ⟨nonempty, none, rfl⟩
    rw [label?]
    split
    · rename_i quoted' hq
      obtain rfl := (List.cons.inj (quoted.symm.trans hq)).2
      rw [run, Option.map_some]
    · rename_i other
      exact absurd quoted (other _)

end FigureGallery.Markup
