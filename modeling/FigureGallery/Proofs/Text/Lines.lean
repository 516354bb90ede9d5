import FigureGallery.Proofs.Text.Bytes
import FigureGallery.Text.LineBreak
import FigureGallery.Text.LineTable
import Mathlib.Data.List.Count

/-!
# Lines of offsets

The search in a line table counts the line feeds before an offset. The table is ascending, so the starts at or before
an offset are the first ones of the table, and halving finds where they end. It says so in two ways: a start that was met
is counted with the others, an index to insert at is their number as it stands. That no line is counted as zero is because
the first one starts at zero.
-/

namespace FigureGallery.Text.LineTable

/-- An offset stands in a table as a result says. -/
inductive Stands (starts : Array Nat) (offset : Nat) : SearchResult → Prop where
  | found {index} :
    index < starts.size →
    starts.getD index 0 = offset →
    Stands starts offset (.found index)
  | absent {index} :
    index ≤ starts.size →
    (∀ i < index, starts.getD i 0 < offset) →
    (∀ i, index ≤ i → i < starts.size → offset < starts.getD i 0) →
    Stands starts offset (.absent index)

variable {starts : Array Nat} {offset low high n : Nat}

/-- Of two starts in an ascending table, the first lies before the second. -/
lemma getD_lt_getD (ascending : starts.toList.Pairwise (· < ·)) {i j : Nat} (lt : i < j) (inside : j < starts.size) :
    starts.getD i 0 < starts.getD j 0 := by
  have lower := List.pairwise_iff_getElem.mp ascending i j (Nat.lt_trans lt inside) inside lt
  simpa [Array.getD_eq_getD_getElem?, inside, Nat.lt_trans lt inside] using lower

lemma getD_le_getD (ascending : starts.toList.Pairwise (· < ·)) {i j : Nat} (le : i ≤ j) (inside : j < starts.size) :
    starts.getD i 0 ≤ starts.getD j 0 := by
  obtain lt | rfl := Nat.lt_or_eq_of_le le
  · exact Nat.le_of_lt (getD_lt_getD ascending lt inside)
  · exact Nat.le_refl _

/-- What the search says is how the offset stands in the table, if the starts before the range lie before the offset and
those behind the range lie behind it. -/
lemma stands_search (ascending : starts.toList.Pairwise (· < ·)) (le : low ≤ high) (size : high ≤ starts.size)
    (below : ∀ i < low, starts.getD i 0 < offset)
    (above : ∀ i, high ≤ i → i < starts.size → offset < starts.getD i 0) :
    Stands starts offset (search starts offset low high) := by
  fun_induction search starts offset low high with
  | case1 low high lt middle start here => exact .found (by omega) here
  | case2 low high lt middle start _ before ih =>
    -- The starts up to the middle one lie before the offset, as that one does.
    refine ih (by omega) size (fun i h => ?_) above
    exact Nat.lt_of_le_of_lt (getD_le_getD ascending (Nat.le_of_lt_succ h) (by omega)) before
  | case3 low high lt middle start other notBefore ih =>
    -- The starts from the middle one on lie behind the offset, as that one does.
    have behind : offset < starts.getD middle 0 := by omega
    refine ih (by omega) (by omega) below (fun i h inside => ?_)
    exact Nat.lt_of_lt_of_le behind (getD_le_getD ascending h inside)
  | case4 low high empty => exact .absent (by omega) below (fun i h => above i (by omega))

/-- A cut of a table of starts: those before it lie at or before the offset, those behind it do not. -/
def CutsAt (starts : Array Nat) (offset n : Nat) : Prop :=
  (∀ i < n, starts.getD i 0 ≤ offset) ∧ ∀ i, n ≤ i → i < starts.size → offset < starts.getD i 0

/-- A table has one cut at an offset. -/
lemma CutsAt.eq {m : Nat} (cut : CutsAt starts offset n) (cut' : CutsAt starts offset m) (size : n ≤ starts.size)
    (size' : m ≤ starts.size) : n = m := by
  have le {n m : Nat} (cut : CutsAt starts offset n) (cut' : CutsAt starts offset m) (size : n ≤ starts.size) : n ≤ m := by
    by_contra lt
    have := cut.1 m (by omega)
    have := cut'.2 m (Nat.le_refl m) (by omega)
    omega
  exact Nat.le_antisymm (le cut cut' size) (le cut' cut size')

/-- The two ways of standing in an ascending table are counted differently, and either line cuts the table at the offset. -/
lemma Stands.cutsAt (ascending : starts.toList.Pairwise (· < ·)) {result : SearchResult}
    (stands : Stands starts offset result) : CutsAt starts offset result.line ∧ result.line ≤ starts.size := by
  cases stands with
  | @found index inside here =>
    -- The start that was found is the last one before the cut.
    refine ⟨⟨fun i h => ?_, fun i h inside' => ?_⟩, inside⟩
    · exact here ▸ getD_le_getD ascending (Nat.le_of_lt_succ h) inside
    · exact here ▸ getD_lt_getD ascending h inside'
  | absent size below above => exact ⟨⟨fun i h => Nat.le_of_lt (below i h), above⟩, size⟩

/-- The starts after the line feeds of a text lie behind the offset of the text. -/
lemma lt_of_mem_startsAfter {offset n : Nat} {cs : List Char} (h : n ∈ startsAfter offset cs) : offset < n := by
  fun_induction startsAfter offset cs with
  | case1 => simp at h
  | case2 offset cs ih =>
    rcases List.mem_cons.mp h with rfl | h
    · omega
    · have := ih h; omega
  | case3 offset c cs _ ih => have := ih h; omega

/-- The starts are in ascending order. -/
lemma pairwise_startsAfter (offset : Nat) (cs : List Char) : (startsAfter offset cs).Pairwise (· < ·) := by
  fun_induction startsAfter offset cs with
  | case1 => exact .nil
  | case2 offset cs ih => exact .cons (fun n h => lt_of_mem_startsAfter h) ih
  | case3 offset c cs _ ih => exact ih

/-- No start lies at or before an offset in front of all of them. -/
lemma countP_le_eq_zero {starts : List Nat} {offset : Nat} (behind : ∀ m ∈ starts, offset < m) :
    starts.countP (· ≤ offset) = 0 := by
  simp only [List.countP_eq_zero, decide_eq_true_eq, Nat.not_le]
  exact behind

/-- The starts at or before an offset are as many as the line feeds before it. -/
lemma countP_startsAfter (offset n : Nat) (cs : List Char) :
    (startsAfter offset cs).countP (· ≤ offset + n) = lineFeeds (before n cs) := by
  fun_induction startsAfter offset cs generalizing n with
  | case1 => simp [before, lineFeeds]
  | case2 offset cs ih =>
    have size : '\n'.utf8Size = 1 := rfl
    rcases n with _ | n
    · -- The offset is that of the line feed, and all starts lie behind it.
      have none_le : (startsAfter (offset + 1) cs).countP (· ≤ offset) = 0 :=
        countP_le_eq_zero fun m h => Nat.lt_of_succ_lt (lt_of_mem_startsAfter h)
      simp [none_le, lineFeeds]
    · have e : offset + (n + 1) = offset + 1 + n := by omega
      have h := ih n
      simp only [lineFeeds] at h
      simp only [List.countP_cons, e, h, before, size, lineFeeds]
      simp
  | case3 offset c cs hc ih =>
    by_cases hn : c.utf8Size ≤ n
    · have e : offset + n = offset + c.utf8Size + (n - c.utf8Size) := by omega
      have h := ih (n - c.utf8Size)
      simp only [lineFeeds] at h
      rw [e, h, lineFeeds, before, if_pos hn, List.count_cons_of_ne (by simpa using hc)]
    · have none_le : (startsAfter (offset + c.utf8Size) cs).countP (· ≤ offset + n) = 0 := by
        refine countP_le_eq_zero fun m h => ?_
        have := lt_of_mem_startsAfter h
        omega
      rw [none_le, before, if_neg hn]
      rfl

/-- The starts at or before an offset come first in an ascending table. -/
lemma cutsAt_countP {starts : List Nat} (sorted : starts.Pairwise (· < ·)) (offset : Nat) :
    CutsAt starts.toArray offset (starts.countP (· ≤ offset)) := by
  induction starts with
  | nil => exact ⟨by simp, by simp⟩
  | cons s starts ih =>
    obtain ⟨least, sorted⟩ := List.pairwise_cons.mp sorted
    obtain ⟨low, high⟩ := ih sorted
    by_cases hs : s ≤ offset
    · rw [List.countP_cons_of_pos (by simpa using hs)]
      refine ⟨fun i h => ?_, fun i h hi => ?_⟩
      · cases i with
        | zero => simpa using hs
        | succ i => simpa using low i (by omega)
      · cases i with
        | zero => omega
        | succ i => simpa using high i (by omega) (by simpa using hi)
    · have none_le : starts.countP (· ≤ offset) = 0 := by
        refine countP_le_eq_zero fun m h => ?_
        have := least m h
        omega
      rw [List.countP_cons_of_neg (by simpa using hs), none_le]
      rw [none_le] at high
      refine ⟨fun i h => by omega, fun i _ hi => ?_⟩
      cases i with
      | zero => simpa using hs
      | succ i => simpa using high i (by omega) (by simpa using hi)

/-- The line of an offset is one more than the line feeds before it: the first line starts at or before every offset, and
no line feed stands in front of it. -/
lemma lineOf_ofText (offset : Nat) (cs : List Char) :
    (ofText cs).lineOf offset = 1 + lineFeeds (before offset cs) := by
  have ascending : (0 :: startsAfter 0 cs).Pairwise (· < ·) :=
    .cons (fun n h => lt_of_mem_startsAfter h) (pairwise_startsAfter 0 cs)
  have cut := cutsAt_countP ascending offset
  have count := countP_startsAfter 0 offset cs
  have stands : Stands (ofText cs).starts offset (search (ofText cs).starts offset 0 (ofText cs).starts.size) :=
    stands_search ascending (Nat.zero_le _) (Nat.le_refl _) (fun i h => absurd h (Nat.not_lt_zero i))
      (fun i h inside => absurd inside (Nat.not_lt_of_le h))
  obtain ⟨cut', size⟩ := stands.cutsAt ascending
  rw [Nat.zero_add] at count
  rw [lineOf, cut'.eq cut size List.countP_le_length, List.countP_cons_of_pos (by simp), count, Nat.add_comm]

/-- The line of an offset by the bytes before it: no byte of a longer character is a line feed. -/
lemma lineOf_ofText_eq_count (offset : Nat) (cs : List Char) :
    (ofText cs).lineOf offset = 1 + ((bytes cs).take offset).count '\n'.toUInt8 := by
  rw [lineOf_ofText, count_take_bytes (by decide), lineFeeds]

/-- The line of an offset is one more than the line feeds before it, whether the offset is a boundary of the text, lies inside
of a character or past the end. So lines are counted from one, the line never goes back as the offset grows, and it goes on
by one across each line feed and by nothing across any other byte. -/
theorem lineOf_counts_line_feeds (text : List Char) :
    let line := (ofText text).lineOf
    (∀ offset, line offset = 1 + ((bytes text).take offset).count '\n'.toUInt8) ∧
      (∀ offset, 1 ≤ line offset) ∧
      Monotone line ∧
      ∀ offset, line (offset + 1) = line offset + if (bytes text)[offset]? = some '\n'.toUInt8 then 1 else 0 := by
  intro line
  have counted (offset : Nat) : line offset = 1 + ((bytes text).take offset).count '\n'.toUInt8 :=
    lineOf_ofText_eq_count offset text
  refine ⟨counted, fun offset => ?_, fun offset later le => ?_, fun offset => ?_⟩
  · rw [counted]
    exact Nat.le_add_right 1 _
  · rw [counted, counted]
    exact Nat.add_le_add_left ((List.take_sublist_take_left le).count_le _) 1
  · rw [counted, counted, List.take_add_one, List.count_append, Nat.add_assoc]
    cases (bytes text)[offset]? with
    | none => simp
    | some byte => simp [List.count_singleton]

example : [0, 1, 3, 4, 5, 99].map (ofText "図\n\nx".toList).lineOf = [1, 1, 1, 2, 3, 3] := by cbv

end FigureGallery.Text.LineTable
