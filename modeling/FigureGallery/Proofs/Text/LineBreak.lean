import FigureGallery.Text.LineBreak
import Mathlib.Data.List.Count
import Mathlib.Data.List.Forall2
import Mathlib.Tactic.Lemma

/-!
# Line breaks as they are stored

A stored text is a sequence of characters and line breaks, and there are three ways to write a line break. Read from left
to right, a text is the writing of one such sequence only, since a carriage return with a line feed behind it is one line
break and not two. Unifying line breaks writes this sequence with one line feed for each line break. What is cut off a
unified text was cut off the stored text in one place.
-/

namespace FigureGallery.Text

/-- The ways in which a line break is written. -/
inductive LineBreak where
  | feed
  | carriageReturn
  | pair
deriving DecidableEq

/-- A piece of a stored text. -/
inductive Piece where
  | character (c : Char)
  | lineBreak (way : LineBreak)
deriving DecidableEq

/-- The characters that a piece is stored as. -/
def Piece.written : Piece → List Char
  | .character c => [c]
  | .lineBreak .feed => ['\n']
  | .lineBreak .carriageReturn => ['\r']
  | .lineBreak .pair => ['\r', '\n']

/-- The character that a piece is read as. -/
def Piece.unified : Piece → Char
  | .character c => c
  | .lineBreak _ => '\n'

/-- Pieces that differ at most in how a line break is written. -/
inductive Piece.Alike : Piece → Piece → Prop where
  | character {c} :
    Alike (.character c) (.character c)
  | lineBreak {way way'} :
    Alike (.lineBreak way) (.lineBreak way')

/-- The pieces of a text, read from left to right. -/
inductive Spells : List Char → List Piece → Prop where
  | nil :
    Spells [] []
  | pair {cs ps} :
    Spells cs ps →
    Spells ('\r' :: '\n' :: cs) (.lineBreak .pair :: ps)
  | carriageReturn {cs ps} :
    cs.head? ≠ some '\n' →
    Spells cs ps →
    Spells ('\r' :: cs) (.lineBreak .carriageReturn :: ps)
  | feed {cs ps} :
    Spells cs ps →
    Spells ('\n' :: cs) (.lineBreak .feed :: ps)
  | character {c cs ps} :
    c ≠ '\r' →
    c ≠ '\n' →
    Spells cs ps →
    Spells (c :: cs) (.character c :: ps)

/-- Two texts that differ at most in how their line breaks are written. -/
def Respelled (text other : List Char) : Prop :=
  ∃ ps qs, Spells text ps ∧ Spells other qs ∧ List.Forall₂ Piece.Alike ps qs

/-- Writes each pair of a carriage return and a line feed as one line feed. -/
def joinPairs : List Char → List Char
  | [] => []
  | '\r' :: '\n' :: cs => '\n' :: joinPairs cs
  | c :: cs => c :: joinPairs cs

/-- The number of line breaks of a stored text; a carriage return with a line feed counts once. -/
def lineBreaks : List Char → Nat
  | [] => 0
  | '\r' :: '\n' :: cs => lineBreaks cs + 1
  | c :: cs => if c = '\r' ∨ c = '\n' then lineBreaks cs + 1 else lineBreaks cs

/-- The number of carriage returns of a text that have no line feed behind them. -/
def loneReturns : List Char → Nat
  | [] => 0
  | '\r' :: '\n' :: cs => loneReturns cs
  | c :: cs => if c = '\r' then loneReturns cs + 1 else loneReturns cs

variable {text pre post : List Char} {ps qs : List Piece}

/-- Two replacements, one after the other, unify line breaks. -/
lemma unifyLineBreaks_eq_map (text : List Char) :
    unifyLineBreaks text = (joinPairs text).map fun c => if c = '\r' then '\n' else c := by
  fun_induction unifyLineBreaks text with
  | case1 => rfl
  | case2 cs ih => rw [ih]; rfl
  | case3 c cs notPair ih => rw [joinPairs, List.map_cons, ih]; exact notPair

@[simp]
lemma unifyLineBreaks_unifyLineBreaks (text : List Char) : unifyLineBreaks (unifyLineBreaks text) = unifyLineBreaks text :=
  unifyLineBreaks_of_not_mem (not_mem_unifyLineBreaks text)

/-- A carriage return stands alone when no line feed follows. -/
lemma unifyLineBreaks_carriageReturn {cs : List Char} (alone : cs.head? ≠ some '\n') :
    unifyLineBreaks ('\r' :: cs) = '\n' :: unifyLineBreaks cs := by
  rw [unifyLineBreaks, if_pos rfl]
  rintro cs - rfl
  exact alone rfl

lemma unifyLineBreaks_of_ne {c : Char} (ne : c ≠ '\r') (cs : List Char) :
    unifyLineBreaks (c :: cs) = c :: unifyLineBreaks cs := by
  rw [unifyLineBreaks, if_neg ne]
  intro _ isReturn _
  exact ne isReturn

lemma exists_spells (text : List Char) : ∃ ps, Spells text ps := by
  fun_induction unifyLineBreaks text with
  | case1 => exact ⟨_, .nil⟩
  | case2 cs ih =>
    obtain ⟨ps, spells⟩ := ih
    exact ⟨_, .pair spells⟩
  | case3 c cs notPair ih =>
    obtain ⟨ps, spells⟩ := ih
    by_cases carriageReturn : c = '\r'
    · subst carriageReturn
      refine ⟨_, .carriageReturn (fun feed => ?_) spells⟩
      obtain ⟨rest, rfl⟩ := List.head?_eq_some_iff.mp feed
      exact notPair rest rfl rfl
    · by_cases feed : c = '\n'
      · subst feed
        exact ⟨_, .feed spells⟩
      · exact ⟨_, .character carriageReturn feed spells⟩

namespace Spells

/-- A text is read in one way. -/
lemma unique (spells : Spells text ps) (spells' : Spells text qs) : ps = qs := by
  induction spells generalizing qs with
  | nil => cases spells'; rfl
  | pair _ ih =>
    cases spells' with
    | pair rest => rw [ih rest]
    | carriageReturn alone _ => exact absurd rfl alone
    | character ne _ _ => exact absurd rfl ne
  | carriageReturn alone _ ih =>
    cases spells' with
    | pair _ => exact absurd rfl alone
    | carriageReturn _ rest => rw [ih rest]
    | character ne _ _ => exact absurd rfl ne
  | feed _ ih =>
    cases spells' with
    | feed rest => rw [ih rest]
    | character _ ne _ => exact absurd rfl ne
  | character notReturn notFeed _ ih =>
    cases spells' with
    | pair _ => exact absurd rfl notReturn
    | carriageReturn _ _ => exact absurd rfl notReturn
    | feed _ => exact absurd rfl notFeed
    | character _ _ rest => rw [ih rest]

lemma eq_written (spells : Spells text ps) : text = ps.flatMap Piece.written := by
  induction spells with
  | nil => rfl
  | pair _ ih => rw [List.flatMap_cons, ← ih]; rfl
  | carriageReturn _ _ ih => rw [List.flatMap_cons, ← ih]; rfl
  | feed _ ih => rw [List.flatMap_cons, ← ih]; rfl
  | character _ _ _ ih => rw [List.flatMap_cons, ← ih]; rfl

/-- Unifying writes each line break as one line feed, and leaves the other characters as they are. -/
lemma unifyLineBreaks_eq (spells : Spells text ps) : unifyLineBreaks text = ps.map Piece.unified := by
  induction spells with
  | nil => rfl
  | pair _ ih => rw [unifyLineBreaks, ih]; rfl
  | carriageReturn alone _ ih => rw [unifyLineBreaks_carriageReturn alone, ih]; rfl
  | feed _ ih => rw [unifyLineBreaks_of_ne (by decide), ih]; rfl
  | character notReturn _ _ ih => rw [unifyLineBreaks_of_ne notReturn, ih]; rfl

/-- The first pieces of a text are those of a start of it. -/
lemma split (spells : Spells text (ps ++ qs)) : ∃ pre post, text = pre ++ post ∧ Spells pre ps ∧ Spells post qs := by
  induction ps generalizing text with
  | nil => exact ⟨[], text, rfl, .nil, spells⟩
  | cons p ps ih =>
    cases spells with
    | pair rest =>
      obtain ⟨pre, post, rfl, first, second⟩ := ih rest
      exact ⟨_, post, rfl, .pair first, second⟩
    | carriageReturn alone rest =>
      obtain ⟨pre, post, rfl, first, second⟩ := ih rest
      refine ⟨'\r' :: pre, post, rfl, .carriageReturn (fun feed => alone ?_) first, second⟩
      rw [List.head?_append, feed]
      rfl
    | feed rest =>
      obtain ⟨pre, post, rfl, first, second⟩ := ih rest
      exact ⟨_, post, rfl, .feed first, second⟩
    | character notReturn notFeed rest =>
      obtain ⟨pre, post, rfl, first, second⟩ := ih rest
      exact ⟨_, post, rfl, .character notReturn notFeed first, second⟩

/-- Pieces that are read as the same characters differ at most in how line breaks are written. -/
lemma alike {other : List Char} (spells : Spells text ps) (spells' : Spells other qs)
    (e : ps.map Piece.unified = qs.map Piece.unified) : List.Forall₂ Piece.Alike ps qs := by
  induction spells generalizing other qs with
  | nil =>
    obtain rfl := List.map_eq_nil_iff.mp e.symm
    exact .nil
  | pair _ ih | carriageReturn _ _ ih | feed _ ih =>
    cases spells' with
    | nil => exact absurd e (by simp)
    | pair rest => exact .cons .lineBreak (ih rest (List.tail_eq_of_cons_eq e))
    | carriageReturn _ rest => exact .cons .lineBreak (ih rest (List.tail_eq_of_cons_eq e))
    | feed rest => exact .cons .lineBreak (ih rest (List.tail_eq_of_cons_eq e))
    | character _ notFeed _ => exact absurd (List.head_eq_of_cons_eq e).symm notFeed
  | character _ notFeed _ ih =>
    cases spells' with
    | nil => exact absurd e (by simp)
    | pair _ => exact absurd (List.head_eq_of_cons_eq e) notFeed
    | carriageReturn _ _ => exact absurd (List.head_eq_of_cons_eq e) notFeed
    | feed _ => exact absurd (List.head_eq_of_cons_eq e) notFeed
    | character _ _ rest =>
      obtain rfl := List.head_eq_of_cons_eq e
      exact .cons .character (ih rest (List.tail_eq_of_cons_eq e))

end Spells

/-- Texts differ at most in how line breaks are written just when unifying makes them equal. -/
lemma respelled_iff {other : List Char} : Respelled text other ↔ unifyLineBreaks text = unifyLineBreaks other := by
  constructor
  · rintro ⟨ps, qs, spells, spells', alike⟩
    rw [spells.unifyLineBreaks_eq, spells'.unifyLineBreaks_eq]
    clear spells spells'
    induction alike with
    | nil => rfl
    | cons first _ ih =>
      rw [List.map_cons, List.map_cons, ih]
      cases first <;> rfl
  · intro e
    obtain ⟨ps, spells⟩ := exists_spells text
    obtain ⟨qs, spells'⟩ := exists_spells other
    rw [spells.unifyLineBreaks_eq, spells'.unifyLineBreaks_eq] at e
    exact ⟨ps, qs, spells, spells', spells.alike spells' e⟩

/-- A cut of a unified text is a cut of the stored text, with no pair on both sides of it. -/
lemma exists_of_unifyLineBreaks_eq_append (e : unifyLineBreaks text = pre ++ post) :
    ∃ pre' post', text = pre' ++ post' ∧ unifyLineBreaks pre' = pre ∧ unifyLineBreaks post' = post := by
  obtain ⟨all, spells⟩ := exists_spells text
  rw [spells.unifyLineBreaks_eq] at e
  obtain ⟨ps, qs, rfl, rfl, rfl⟩ := List.map_eq_append_iff.mp e
  obtain ⟨pre', post', rfl, first, second⟩ := spells.split
  exact ⟨pre', post', rfl, first.unifyLineBreaks_eq, second.unifyLineBreaks_eq⟩

/-- A text that is cut in front of something else than a line feed is unified part by part. -/
lemma unifyLineBreaks_append (pre : List Char) {post : List Char} (uncut : post.head? ≠ some '\n') :
    unifyLineBreaks (pre ++ post) = unifyLineBreaks pre ++ unifyLineBreaks post := by
  fun_induction unifyLineBreaks pre with
  | case1 => rfl
  | case2 cs ih => rw [List.cons_append, List.cons_append, unifyLineBreaks, ih]; rfl
  | case3 c cs notPair ih =>
    rw [List.cons_append, unifyLineBreaks, ih]
    · rfl
    · intro rest isReturn e
      cases cs with
      | nil => exact uncut (by rw [← List.nil_append post, e]; rfl)
      | cons d cs => exact notPair cs isReturn (by rw [(List.cons.inj e).1])

/-- What is read without line breaks is stored as it is read. -/
lemma eq_of_unifyLineBreaks_eq (e : unifyLineBreaks text = post) (unbroken : '\n' ∉ post) : text = post := by
  obtain ⟨ps, spells⟩ := exists_spells text
  rw [spells.unifyLineBreaks_eq] at e
  subst e
  induction spells with
  | nil => rfl
  | pair _ _ => simp [Piece.unified] at unbroken
  | carriageReturn _ _ _ => simp [Piece.unified] at unbroken
  | feed _ _ => simp [Piece.unified] at unbroken
  | character _ _ _ ih =>
    rw [List.map_cons, List.mem_cons, not_or] at unbroken
    rw [List.map_cons, ← ih unbroken.2]
    rfl

/-- The line feeds of a unified text are the line breaks of the stored one. -/
lemma lineFeeds_unifyLineBreaks (text : List Char) : lineFeeds (unifyLineBreaks text) = lineBreaks text := by
  fun_induction lineBreaks text with
  | case1 => rfl
  | case2 cs ih => rw [← ih, unifyLineBreaks, lineFeeds, List.count_cons_self]; rfl
  | case3 c cs notPair isBreak ih =>
    have feed : (if c = '\r' then '\n' else c) = '\n' := by
      obtain rfl | rfl := isBreak <;> rfl
    rw [unifyLineBreaks, feed, lineFeeds, List.count_cons_self, ← lineFeeds, ih]
    exact notPair
  | case4 c cs notPair noBreak ih =>
    obtain ⟨notReturn, notFeed⟩ := not_or.mp noBreak
    rw [unifyLineBreaks_of_ne notReturn, lineFeeds, List.count_cons_of_ne notFeed, ← lineFeeds, ih]

/-- A line break is a line feed, alone or in a pair, or a lone carriage return. -/
lemma lineBreaks_eq (text : List Char) : lineBreaks text = lineFeeds text + loneReturns text := by
  fun_induction lineBreaks text with
  | case1 => rfl
  | case2 cs ih =>
    rw [ih, loneReturns, lineFeeds, lineFeeds, List.count_cons_of_ne (by decide), List.count_cons_self]
    omega
  | case3 c cs notPair isBreak ih =>
    obtain rfl | rfl := isBreak
    · rw [loneReturns, if_pos rfl, ih, lineFeeds, lineFeeds, List.count_cons_of_ne (by decide)]
      · rfl
      · exact notPair
    · rw [loneReturns, if_neg (by decide), ih, lineFeeds, lineFeeds, List.count_cons_self]
      · omega
      · exact notPair
  | case4 c cs notPair noBreak ih =>
    obtain ⟨notReturn, notFeed⟩ := not_or.mp noBreak
    rw [loneReturns, if_neg notReturn, ih, lineFeeds, lineFeeds, List.count_cons_of_ne notFeed]
    exact notPair

/-- No carriage return is alone exactly if a line feed follows each. -/
lemma loneReturns_eq_zero_iff :
    loneReturns text = 0 ↔ ∀ pre post, text = pre ++ '\r' :: post → post.head? = some '\n' := by
  fun_induction loneReturns text with
  | case1 => simp
  | case2 cs ih =>
    rw [ih]
    constructor
    · intro paired pre post e
      match pre with
      | [] => rw [← (List.cons.inj e).2]; rfl
      | [c] => simp at e
      | c :: d :: pre => exact paired pre post (List.cons.inj (List.cons.inj e).2).2
    · intro paired pre post e
      exact paired ('\r' :: '\n' :: pre) post (by rw [e]; rfl)
  | case3 cs notPair ih =>
    refine iff_of_false (Nat.succ_ne_zero _) fun paired => ?_
    obtain ⟨rest, rfl⟩ := List.head?_eq_some_iff.mp (paired [] cs rfl)
    exact notPair rest rfl rfl
  | case4 c cs notPair notReturn ih =>
    rw [ih]
    constructor
    · intro paired pre post e
      cases pre with
      | nil => exact absurd (List.cons.inj e).1 notReturn
      | cons d pre => exact paired pre post (List.cons.inj e).2
    · intro paired pre post e
      exact paired (c :: pre) post (by rw [e]; rfl)

end FigureGallery.Text
