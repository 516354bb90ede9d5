import FigureGallery.Markup.Comment
import FigureGallery.Markup.Directive
import FigureGallery.Proofs.Markup.Shape
import FigureGallery.Proofs.Text.Cut

/-!
# Live and commented-out directives

The search for directives pays no attention to comments: a directive counts wherever its hash stands. Here each directive
is found together with the place of its hash, which divides the targets of a text into those that live directives name
and those that commented-out ones name.
-/

namespace FigureGallery.Markup.Directive

open Text

/-- The start of a directive, from its hash to the opening quote. -/
def IsStart (start : List Char) : Prop :=
  ∃ keyword c blanks, (keyword = "#include".toList ∨ keyword = "#import".toList) ∧ isBlank c ∧ IsBlank blanks ∧
    start = keyword ++ c :: blanks ++ ['"']

/-- A keyword, at least one blank and a quote are found in front of what follows them. -/
lemma opening?_eq_some_iff {text quoted : List Char} :
    opening? text = some quoted ↔ ∃ start, IsStart start ∧ text = start ++ quoted := by
  constructor
  · intro h
    simp only [opening?] at h
    split at h
    · rename_i c rest found
      split at h
      · rename_i blank
        split at h
        · rename_i quote
          obtain rfl := Option.some.inj h
          obtain ⟨blanks, blank', e, _⟩ := trimStart_eq_iff.mp quote
          have keyword : ∃ keyword, (keyword = "#include".toList ∨ keyword = "#import".toList) ∧
              text = keyword ++ c :: rest := by
            split at found
            · rename_i starts
              exact ⟨_, .inl rfl, (Option.some.inj found) ▸ eq_append_of_isPrefixOf? starts⟩
            · exact ⟨_, .inr rfl, eq_append_of_isPrefixOf? found⟩
          obtain ⟨keyword, is, rfl⟩ := keyword
          exact ⟨_, ⟨keyword, c, blanks, is, blank, blank', rfl⟩, by simp [e]⟩
        · simp at h
      · simp at h
    · simp at h
  · rintro ⟨_, ⟨keyword, c, blanks, is, blank, blank', rfl⟩, rfl⟩
    have trimmed : trimStart (blanks ++ '"' :: quoted) = '"' :: quoted :=
      trimStart_eq_iff.mpr ⟨blanks, blank', rfl, by simp [show isBlank '"' = false from rfl]⟩
    have written : keyword ++ c :: blanks ++ ['"'] ++ quoted = keyword ++ c :: (blanks ++ '"' :: quoted) := by simp
    rw [written]
    obtain rfl | rfl := is
    · simp only [opening?, isPrefixOf?_append, blank, if_true, trimmed]
    · -- Two keywords differ, so an import is no include.
      have other : "#include".toList.isPrefixOf? ("#import".toList ++ c :: (blanks ++ '"' :: quoted)) = none := rfl
      simp only [opening?, other, isPrefixOf?_append, blank, if_true, trimmed]

/-- A directive is its start, a target and a closing quote. -/
lemma directive?_eq_some_iff {text target rest : List Char} :
    directive? text = some (target, rest) ↔
      ∃ start, IsStart start ∧ target ≠ [] ∧ '"' ∉ target ∧ text = start ++ target ++ '"' :: rest := by
  rw [directive?, Option.bind_eq_some_iff]
  constructor
  · rintro ⟨quoted, opens, closes⟩
    obtain ⟨start, is, rfl⟩ := opening?_eq_some_iff.mp opens
    obtain ⟨nonempty, bare, rfl⟩ := runUntil?_eq_some_iff.mp closes
    exact ⟨start, is, nonempty, bare, by simp⟩
  · rintro ⟨start, is, nonempty, bare, rfl⟩
    refine ⟨target ++ '"' :: rest, ?_, runUntil?_eq_some_iff.mpr ⟨nonempty, bare, rfl⟩⟩
    exact opening?_eq_some_iff.mpr ⟨start, is, by simp⟩

/-- A directive of a text. -/
structure Place where
  /-- The offset of the hash. -/
  hash : Nat
  target : List Char
deriving DecidableEq

/-- The directives of a text that itself starts at `offset`, found in the same order as the targets. -/
def placesFrom (offset : Nat) (text : List Char) : List Place :=
  match _found : directive? text with
  | some (target, rest) => ⟨offset, target⟩ :: placesFrom (offset + (byteLength text - byteLength rest)) rest
  | none => match text with
    | [] => []
    | c :: cs => placesFrom (offset + c.utf8Size) cs
  termination_by text.length
  decreasing_by
    · exact length_directive?_lt _found
    · simp

/-- The directives of a text. -/
def places (text : List Char) : List Place :=
  placesFrom 0 text

lemma targets_of_some {text target rest : List Char} (found : directive? text = some (target, rest)) :
    targets text = target :: targets rest := by
  rw [targets.eq_def text]
  split
  · rename_i e
    obtain ⟨rfl, rfl⟩ := Prod.mk.inj (Option.some.inj (found.symm.trans e))
    rfl
  · rename_i e
    exact absurd (found.symm.trans e) (Option.some_ne_none _)

lemma targets_nil : targets [] = [] := by
  have none : directive? [] = none := rfl
  rw [targets.eq_def]
  split
  · rename_i e
    exact absurd (none.symm.trans e).symm (Option.some_ne_none _)
  · rfl

lemma targets_cons {c : Char} {cs : List Char} (none : directive? (c :: cs) = none) : targets (c :: cs) = targets cs := by
  rw [targets.eq_def]
  split
  · rename_i e
    exact absurd (none.symm.trans e).symm (Option.some_ne_none _)
  · rfl

lemma map_target_placesFrom (offset : Nat) (text : List Char) : (placesFrom offset text).map Place.target = targets text := by
  fun_induction placesFrom offset text with
  | case1 offset text target rest found ih => rw [List.map_cons, ih, targets_of_some found]
  | case2 => rw [targets_nil, List.map_nil]
  | case3 offset c cs none ih => rw [ih, targets_cons none]

/-- A directive stands where its hash is said to be. -/
lemma exists_cut_of_mem_placesFrom {offset : Nat} {text : List Char} {place : Place}
    (mem : place ∈ placesFrom offset text) :
    ∃ pre post rest, text = pre ++ post ∧ directive? post = some (place.target, rest) ∧
      place.hash = offset + byteLength pre := by
  fun_induction placesFrom offset text with
  | case1 offset text target rest found ih =>
    obtain rfl | mem := List.mem_cons.mp mem
    · exact ⟨[], text, rest, rfl, found, rfl⟩
    · obtain ⟨pre, post, rest', rfl, there, hash⟩ := ih mem
      obtain ⟨start, _, _, _, rfl⟩ := directive?_eq_some_iff.mp found
      refine ⟨start ++ target ++ '"' :: pre, post, rest', by simp, there, ?_⟩
      rw [hash]
      simp only [byteLength_append, byteLength_cons]
      omega
  | case2 => simp at mem
  | case3 offset c cs none ih =>
    obtain ⟨pre, post, rest, rfl, there, hash⟩ := ih mem
    refine ⟨c :: pre, post, rest, rfl, there, ?_⟩
    rw [hash, byteLength_cons, Nat.add_assoc]

/-- The targets that the directives of a text name outside of comments. -/
def liveTargets (text : List Char) : List (List Char) :=
  ((places text).filter fun place => (Comment.at? text place.hash).isNone).map Place.target

/-- The targets that the directives of a text name in comments. -/
def commentedTargets (text : List Char) : List (List Char) :=
  ((places text).filter fun place => (Comment.at? text place.hash).isSome).map Place.target

/-- Every target is named by a directive that is live or by one that is commented out. -/
lemma mem_targets_iff {text target : List Char} :
    target ∈ targets text ↔ target ∈ liveTargets text ∨ target ∈ commentedTargets text := by
  rw [← map_target_placesFrom 0, ← places, liveTargets, commentedTargets]
  simp only [List.mem_map, List.mem_filter]
  constructor
  · rintro ⟨place, mem, rfl⟩
    cases e : Comment.at? text place.hash with
    | none => exact .inl ⟨place, ⟨mem, by rw [e]; rfl⟩, rfl⟩
    | some comment => exact .inr ⟨place, ⟨mem, by rw [e]; rfl⟩, rfl⟩
  · rintro (⟨place, ⟨mem, _⟩, rfl⟩ | ⟨place, ⟨mem, _⟩, rfl⟩) <;> exact ⟨place, mem, rfl⟩

/-- A target that is listed for the comment around its directive, or for want of one, is that of a directive whose hash
lies in such a comment, or in none. -/
lemma exists_cut_of_mem_filter_places {kept : Option Comment → Bool} {text target : List Char}
    (mem : target ∈ ((places text).filter fun place => kept (Comment.at? text place.hash)).map Place.target) :
    ∃ pre post rest, text = pre ++ post ∧ directive? post = some (target, rest) ∧
      kept (Comment.at? text (byteLength pre)) := by
  obtain ⟨place, listed, rfl⟩ := List.mem_map.mp mem
  obtain ⟨found, here⟩ := List.mem_filter.mp listed
  obtain ⟨pre, post, rest, rfl, there, hash⟩ := exists_cut_of_mem_placesFrom found
  rw [hash, Nat.zero_add] at here
  exact ⟨pre, post, rest, rfl, there, here⟩

/-- Whether a directive starts anywhere in a text outside of comments. -/
def startsLiveIn (text : List Char) : Bool :=
  (List.range (byteLength text)).any fun offset =>
    (opening? (after offset text)).isSome && (Comment.at? text offset).isNone

/-- A directive starts in a text when it starts at one of its places. -/
lemma startsIn_iff {text : List Char} : startsIn text ↔ ∃ pre post, text = pre ++ post ∧ (opening? post).isSome := by
  rw [startsIn, ← not_iff_not, Option.not_isSome_iff_eq_none, firstMatch?_eq_none_iff]
  simp

/-- A directive starts live in a text when it starts at a place that is in no comment. -/
lemma startsLiveIn_iff {text : List Char} :
    startsLiveIn text ↔ ∃ pre post, text = pre ++ post ∧ (opening? post).isSome ∧ Comment.atEnd? pre = none := by
  rw [startsLiveIn, List.any_eq_true]
  constructor
  · rintro ⟨offset, _, h⟩
    obtain ⟨opens, live⟩ := Bool.and_eq_true_iff.mp h
    exact ⟨before offset text, after offset text, (before_append_after offset text).symm, opens,
      Option.isNone_iff_eq_none.mp live⟩
  · rintro ⟨pre, post, rfl, opens, live⟩
    have nonempty : 0 < byteLength post := by
      cases post with
      | nil => exact absurd opens (by decide)
      | cons c cs =>
        have := c.utf8Size_pos
        rw [byteLength_cons]
        omega
    refine ⟨byteLength pre, List.mem_range.mpr (by rw [byteLength_append]; omega), ?_⟩
    rw [after_byteLength, Comment.at?, before_byteLength, opens, live]
    rfl

lemma startsIn_of_startsLiveIn {text : List Char} (live : startsLiveIn text) : startsIn text := by
  obtain ⟨pre, post, e, opens, _⟩ := startsLiveIn_iff.mp live
  exact startsIn_iff.mpr ⟨pre, post, e, opens⟩

end FigureGallery.Markup.Directive
