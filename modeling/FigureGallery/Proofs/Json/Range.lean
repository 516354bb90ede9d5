import FigureGallery.Proofs.Json.Rendering

/-!
# Integers of values that were read

Every integer in a value that was read from a text has 64 bits: any other number is read as a double.
-/

namespace FigureGallery.Json

variable {j : Json} {fuel : Nat} {negative : Bool} {text rest : List Char}

lemma every_leaf {p : Json → Prop} (leaf : j.parts = []) (holds : p j) : Every p j :=
  .intro holds (by simp [leaf])

/-- A number that is no integer of 64 bits is read as a double, or stands for nothing. -/
lemma every_inRange_numberValue (negative : Bool) (whole : List Char) (fraction : Option (List Char))
    (exponent : Option Exponent) : Every InRange (numberValue negative whole fraction exponent) := by
  have double : Every InRange ((magnitude? whole (fraction.getD []) exponent).elim .valueless fun a =>
      .real ⟨negative, a⟩) := by
    cases magnitude? whole (fraction.getD []) exponent <;> exact every_leaf rfl trivial
  cases negative with
  | true =>
    simp only [numberValue, if_true]
    split
    · rename_i isInteger
      exact every_leaf rfl (.inl (Bool.and_eq_true_iff.mp (Bool.and_eq_true_iff.mp isInteger).2).2)
    · exact double
  | false =>
    simp only [numberValue, Bool.false_eq_true, if_false]
    split
    · rename_i isInteger
      exact every_leaf rfl (.inr (Bool.and_eq_true_iff.mp isInteger).2)
    · exact double

lemma every_inRange_number? (reads : number? negative text = some (j, rest)) : Every InRange j := by
  obtain ⟨⟨digits, later⟩, _, reads⟩ := Option.bind_eq_some_iff.mp reads
  have value (parts : List Char × List Char) (reads : (if parts.2.head?.any Char.isDigit then none
      else (fraction? parts.2).bind fun p => (exponent? p.2).map fun q =>
        (numberValue negative parts.1 p.1 q.1, q.2)) = some (j, rest)) : Every InRange j := by
    split at reads
    · cases reads
    · obtain ⟨_, _, reads⟩ := Option.bind_eq_some_iff.mp reads
      obtain ⟨_, _, e⟩ := Option.map_eq_some_iff.mp reads
      cases e
      exact every_inRange_numberValue _ _ _ _
  exact value _ reads

lemma every_inRange_word? {word : String} {value : Json} (reads : word? word value text = some (j, rest))
    (holds : Every InRange value) : Every InRange j := by
  obtain ⟨_, _, e⟩ := Option.map_eq_some_iff.mp reads
  cases e
  exact holds

/-- The values that are read in so many steps hold only integers of 64 bits. -/
def ReadsInRange (fuel : Nat) : Prop :=
  ∀ {text j rest}, value? fuel text = some (j, rest) → Every InRange j

lemma every_inRange_itemsOf? {read items : List Json} (below : ∀ n < fuel, ReadsInRange n)
    (before : ∀ i ∈ read, Every InRange i) (reads : itemsOf? fuel read text = some (items, rest)) :
    ∀ i ∈ items, Every InRange i := by
  induction fuel generalizing read text with
  | zero => rw [itemsOf?] at reads; cases reads
  | succ fuel ih =>
    rw [itemsOf?] at reads
    obtain ⟨⟨j, behind⟩, first, reads⟩ := Option.bind_eq_some_iff.mp reads
    have now : ∀ i ∈ j :: read, Every InRange i :=
      List.forall_mem_cons.mpr ⟨below fuel (Nat.lt_succ_self _) first, before⟩
    simp only at reads
    split at reads
    · exact ih (fun n lt => below n (Nat.lt_succ_of_lt lt)) now reads
    · cases reads
      exact fun i mem => now i (List.mem_reverse.mp mem)
    · cases reads

lemma every_inRange_entriesOf? {read found : Option (List (String × Json))} (below : ∀ n < fuel, ReadsInRange n)
    (before : ∀ entries ∈ read, ∀ e ∈ entries, Every InRange e.2)
    (reads : entriesOf? fuel read text = some (found, rest)) :
    ∀ entries ∈ found, ∀ e ∈ entries, Every InRange e.2 := by
  induction fuel generalizing read text with
  | zero => rw [entriesOf?] at reads; cases reads
  | succ fuel ih =>
    rw [entriesOf?] at reads
    split at reads
    · obtain ⟨⟨key, behind⟩, _, reads⟩ := Option.bind_eq_some_iff.mp reads
      simp only at reads
      split at reads
      · obtain ⟨⟨j, behind⟩, first, reads⟩ := Option.bind_eq_some_iff.mp reads
        have now : ∀ entries ∈ read.bind fun entries => key.map fun key => (key, j) :: entries,
            ∀ e ∈ entries, Every InRange e.2 := by
          intro entries mem
          obtain ⟨front, known, mem⟩ := Option.bind_eq_some_iff.mp mem
          obtain ⟨key, _, rfl⟩ := Option.map_eq_some_iff.mp mem
          exact List.forall_mem_cons.mpr ⟨below fuel (Nat.lt_succ_self _) first, before front known⟩
        simp only at reads
        split at reads
        · exact ih (fun n lt => below n (Nat.lt_succ_of_lt lt)) now reads
        · cases reads
          intro entries mem e inside
          obtain ⟨front, known, rfl⟩ := Option.map_eq_some_iff.mp mem
          exact now front known e (List.mem_reverse.mp inside)
        · cases reads
      · cases reads
    · cases reads

lemma readsInRange (fuel : Nat) : ReadsInRange fuel := by
  induction fuel using Nat.strongRecOn with
  | ind fuel below =>
    intro text j rest reads
    cases fuel with
    | zero => rw [value?] at reads; cases reads
    | succ fuel =>
      have below : ∀ n < fuel, ReadsInRange n := fun n lt => below n (Nat.lt_succ_of_lt lt)
      rw [value?] at reads
      split at reads
      · obtain ⟨⟨t, behind⟩, _, e⟩ := Option.map_eq_some_iff.mp reads
        cases e
        cases t <;> exact every_leaf rfl trivial
      · split at reads
        · cases reads
          exact every_leaf rfl trivial
        · obtain ⟨⟨items, behind⟩, read, e⟩ := Option.map_eq_some_iff.mp reads
          cases e
          exact .intro trivial (every_inRange_itemsOf? below (by simp) read)
      · split at reads
        · cases reads
          exact every_leaf rfl trivial
        · obtain ⟨⟨entries, behind⟩, read, e⟩ := Option.map_eq_some_iff.mp reads
          cases e
          cases entries with
          | none => exact every_leaf rfl trivial
          | some entries =>
            refine .intro trivial (List.forall_mem_map.mpr ?_)
            exact every_inRange_entriesOf? below (by simp) read entries rfl
      · exact every_inRange_number? reads
      · exact every_inRange_word? reads (every_leaf rfl trivial)
      · exact every_inRange_word? reads (every_leaf rfl trivial)
      · exact every_inRange_word? reads (every_leaf rfl trivial)
      · exact every_inRange_number? reads

/-- A text stands only for values whose integers have 64 bits. -/
theorem every_inRange_of_parse (reads : parse text = some j) : Every InRange j := by
  rw [parse] at reads
  split at reads
  · rename_i found _ read
    split at reads
    · cases reads
      exact readsInRange _ read
    · cases reads
  · cases reads

end FigureGallery.Json
