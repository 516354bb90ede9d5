import FigureGallery.Proofs.Json.Scalar

/-!
# Reading a written value back

A value without doubles, with no integer of more than 64 bits, in which every part stands for something, is read back
from its written form, and that form holds no control character.
-/

namespace FigureGallery.Json

/-- The values directly inside a value. -/
def parts : Json → List Json
  | .array items => items
  | .object entries => entries.map Prod.snd
  | _ => []

/-- A property of a value and of all values inside it. -/
inductive Every (p : Json → Prop) : Json → Prop where
  | intro {j} :
    p j →
    (∀ part ∈ j.parts, Every p part) →
    Every p j

lemma Every.holds {p : Json → Prop} {j : Json} : Every p j → p j
  | .intro holds _ => holds

lemma Every.inside {p : Json → Prop} {j : Json} : Every p j → ∀ part ∈ j.parts, Every p part
  | .intro _ inside => inside

@[simp]
lemma renderItems_nil : renderItems [] = [']'] := rfl

@[simp]
lemma renderItems_cons (j : Json) (items : List Json) : renderItems (j :: items) = ',' :: (j.render ++ renderItems items) :=
  rfl

@[simp]
lemma renderEntries_nil : renderEntries [] = ['\x7d'] := rfl

@[simp]
lemma renderEntries_cons (entry : String × Json) (entries : List (String × Json)) :
    renderEntries (entry :: entries) = ',' :: (quote entry.1 ++ ':' :: (entry.2.render ++ renderEntries entries)) :=
  rfl

lemma render_array (j : Json) (items : List Json) :
    (Json.array (j :: items)).render = '[' :: (j.render ++ renderItems items) :=
  rfl

lemma render_object (key : String) (j : Json) (entries : List (String × Json)) :
    (Json.object ((key, j) :: entries)).render = '\x7b' :: (quote key ++ ':' :: (j.render ++ renderEntries entries)) :=
  rfl

/-- If the value is an integer, it has 64 bits, with or without a sign. -/
def InRange : Json → Prop
  | .integer n => Has64Bits n
  | _ => True

/-- If the value is a number, it is an integer of 64 bits, and it stands for something. -/
def IsExact : Json → Prop
  | .integer n => Has64Bits n
  | .real _ => False
  | .valueless => False
  | _ => True

/-- A value is read from its written form, before anything that may follow a value. -/
def Reads (j : Json) : Prop :=
  ∀ (fuel : Nat) (rest : List Char), Ends rest → j.render.length ≤ fuel + 1 →
    value? (fuel + 1) (j.render ++ rest) = some (j, rest)

variable {j : Json} {items : List Json} {entries : List (String × Json)} {fuel : Nat} {rest : List Char}

lemma skip_cons {c : Char} (dark : isSpace c = false) : skip (c :: rest) = c :: rest := by
  simp [skip, dark]

lemma isSpace_of_isDigit {c : Char} (digit : c.isDigit) : isSpace c = false := by
  simp only [isSpace, Bool.or_eq_false_iff, beq_eq_false_iff_ne]
  refine ⟨⟨⟨?_, ?_⟩, ?_⟩, ?_⟩ <;> (rintro rfl; exact absurd digit (by decide))

lemma value?_digit {c : Char} (digit : c.isDigit) : value? (fuel + 1) (c :: rest) = number? false (c :: rest) := by
  rw [value?, skip_cons (isSpace_of_isDigit digit)]
  split
  case h_8 => rfl
  all_goals
    rename_i e
    obtain ⟨rfl, rfl⟩ := List.cons.inj e
    exact absurd digit (by decide)

/-- A word is read before anything that follows it. -/
lemma word?_append (word : String) (j : Json) (rest : List Char) :
    word? word j (word.toList ++ rest) = some (j, rest) := by
  rw [word?, Markup.isPrefixOf?_append, Option.map_some]

lemma reads_null : Reads .null := by
  intro fuel rest _ _
  -- The first letter decides which word is read.
  exact word?_append "null" .null rest

lemma reads_bool (flag : Bool) : Reads (.bool flag) := by
  intro fuel rest _ _
  cases flag with
  | true => exact word?_append "true" (.bool true) rest
  | false => exact word?_append "false" (.bool false) rest

lemma reads_string (text : String) : Reads (.string text) := by
  intro fuel rest _ _
  have read : text? (text.toList.flatMap escape ++ ['"'] ++ rest) = some (some text, rest) := by simp [text?_quote]
  change (text? (text.toList.flatMap escape ++ ['"'] ++ rest)).map _ = _
  rw [read]
  rfl

lemma render_nat (n : Nat) : (Json.integer (.ofNat n)).render = Nat.toDigits 10 n :=
  Nat.toList_repr

lemma render_negSucc (n : Nat) : (Json.integer (.negSucc n)).render = '-' :: Nat.toDigits 10 (n + 1) := by
  change ("-" ++ Nat.repr (n + 1)).toList = _
  rw [String.toList_append, Nat.toList_repr]
  rfl

/-- An integer of 64 bits is read from its digits, and from the digits behind its sign. -/
lemma reads_integer {n : Int} (fits : Has64Bits n) : Reads (.integer n) := by
  intro fuel rest ends _
  obtain ⟨above, below⟩ := has64Bits_iff.mp fits
  cases n with
  | ofNat n =>
    have small : n < Width.capacity 64 := Int.ofNat_lt.mp below
    obtain ⟨c, more, digits, digit⟩ := exists_toDigits_eq n
    rw [render_nat, digits, List.cons_append, value?_digit digit, ← List.cons_append, ← digits, number?_toDigits ends,
      numberValue_nat small]
    rfl
  | negSucc n =>
    have small : n + 1 ≤ Width.capacity 63 := by omega
    have signed (text : List Char) : value? (fuel + 1) ('-' :: text) = number? true text := rfl
    rw [render_negSucc, List.cons_append, signed, number?_toDigits ends, numberValue_neg (by omega) small]
    rfl

/-- The written form of a value starts with a character that is no blank and does not end an array. -/
lemma exists_render_eq (exact : IsExact j) : ∃ c text, j.render = c :: text ∧ isSpace c = false ∧ c ≠ ']' := by
  cases j with
  | null => exact ⟨_, _, rfl, by decide⟩
  | bool flag => cases flag <;> exact ⟨_, _, rfl, by decide⟩
  | integer n =>
    cases n with
    | ofNat n =>
      obtain ⟨c, more, digits, digit⟩ := exists_toDigits_eq n
      refine ⟨c, more, by rw [render_nat, digits], isSpace_of_isDigit digit, ?_⟩
      rintro rfl
      exact absurd digit (by decide)
    | negSucc n => exact ⟨_, _, render_negSucc n, by decide⟩
  | real x => exact exact.elim
  | string text => exact ⟨_, _, rfl, by decide⟩
  | valueless => exact exact.elim
  | array items => cases items <;> exact ⟨_, _, rfl, by decide⟩
  | object entries => cases entries <;> exact ⟨_, _, rfl, by decide⟩

lemma length_render_pos (exact : IsExact j) : 0 < j.render.length := by
  obtain ⟨c, text, e, _⟩ := exists_render_eq exact
  rw [e]
  exact Nat.succ_pos _

lemma ends_renderItems (items : List Json) (rest : List Char) : Ends (renderItems items ++ rest) := by
  cases items <;> simp [Ends]

lemma ends_renderEntries (entries : List (String × Json)) (rest : List Char) : Ends (renderEntries entries ++ rest) := by
  cases entries <;> simp [Ends]

/-- The items of an array are read up to its closing bracket. -/
lemma itemsOf?_renderItems {read : List Json} (exact : ∀ i ∈ j :: items, IsExact i) (reads : ∀ i ∈ j :: items, Reads i)
    (enough : (j.render ++ renderItems items).length ≤ fuel) :
    itemsOf? fuel read (j.render ++ (renderItems items ++ rest)) = some (read.reverse ++ j :: items, rest) := by
  induction items generalizing j read fuel with
  | nil =>
    have positive := length_render_pos (exact j List.mem_cons_self)
    simp only [renderItems_nil, List.length_append, List.length_cons, List.length_nil] at enough
    obtain ⟨fuel, rfl⟩ : ∃ n, fuel = n + 2 := ⟨fuel - 2, by omega⟩
    rw [itemsOf?, reads j List.mem_cons_self _ _ (ends_renderItems _ _) (by omega), Option.bind_some]
    simp [skip, isSpace]
  | cons next items ih =>
    have positive := length_render_pos (exact j List.mem_cons_self)
    simp only [renderItems_cons, List.length_append, List.length_cons] at enough ih
    obtain ⟨fuel, rfl⟩ : ∃ n, fuel = n + 2 := ⟨fuel - 2, by omega⟩
    rw [itemsOf?, reads j List.mem_cons_self _ _ (ends_renderItems _ _) (by omega), Option.bind_some, renderItems_cons,
      List.cons_append, List.append_assoc]
    simp only [skip_cons (c := ',') rfl]
    rw [ih (fun i mem => exact i (List.mem_cons_of_mem _ mem)) (fun i mem => reads i (List.mem_cons_of_mem _ mem))
      (by omega)]
    simp

/-- An entry is read up to what follows it. -/
lemma entriesOf?_entry {key : String} {read : List (String × Json)} {behind : List Char} (reads : Reads j)
    (ends : Ends behind) (enough : j.render.length ≤ fuel + 1) :
    entriesOf? (fuel + 2) (some read) (quote key ++ ':' :: (j.render ++ behind)) =
      match skip behind with
      | ',' :: rest => entriesOf? (fuel + 1) (some ((key, j) :: read)) rest
      | '\x7d' :: rest => some (some ((key, j) :: read).reverse, rest)
      | _ => none := by
  rw [entriesOf?, quote, List.cons_append, skip_cons (c := '"') rfl]
  simp only [List.append_assoc, List.cons_append, List.nil_append]
  rw [text?_quote, Option.bind_some]
  simp only [skip_cons (c := ':') rfl]
  rw [reads _ _ ends enough]
  rfl

/-- The entries of an object are read up to its closing brace. -/
lemma entriesOf?_renderEntries {key : String} {read : List (String × Json)}
    (exact : ∀ e ∈ (key, j) :: entries, IsExact e.2) (reads : ∀ e ∈ (key, j) :: entries, Reads e.2)
    (enough : (j.render ++ renderEntries entries).length ≤ fuel) :
    entriesOf? fuel (some read) (quote key ++ ':' :: (j.render ++ (renderEntries entries ++ rest))) =
      some (some (read.reverse ++ (key, j) :: entries), rest) := by
  induction entries generalizing key j read fuel with
  | nil =>
    have positive : 0 < j.render.length := length_render_pos (exact _ List.mem_cons_self)
    have first : Reads j := reads _ List.mem_cons_self
    simp only [renderEntries_nil, List.length_append, List.length_cons, List.length_nil] at enough
    obtain ⟨fuel, rfl⟩ : ∃ n, fuel = n + 2 := ⟨fuel - 2, by omega⟩
    rw [entriesOf?_entry first (ends_renderEntries _ _) (by omega)]
    simp [skip, isSpace]
  | cons next entries ih =>
    have positive : 0 < j.render.length := length_render_pos (exact _ List.mem_cons_self)
    have first : Reads j := reads _ List.mem_cons_self
    simp only [renderEntries_cons, List.length_append, List.length_cons] at enough ih
    obtain ⟨fuel, rfl⟩ : ∃ n, fuel = n + 2 := ⟨fuel - 2, by omega⟩
    rw [entriesOf?_entry first (ends_renderEntries _ _) (by omega)]
    simp only [renderEntries_cons, List.cons_append, List.append_assoc, skip_cons (c := ',') rfl]
    rw [ih (fun e mem => exact e (List.mem_cons_of_mem _ mem)) (fun e mem => reads e (List.mem_cons_of_mem _ mem))
      (by omega)]
    simp

lemma value?_bracket {c : Char} (dark : isSpace c = false) (opens : c ≠ ']') :
    value? (fuel + 1) ('[' :: c :: rest) = (itemsOf? fuel [] (c :: rest)).map fun (items, rest) => (.array items, rest) := by
  rw [value?, skip_cons rfl]
  simp only
  rw [skip_cons dark]
  split
  · rename_i e
    exact absurd (List.cons.inj e).1 opens
  · rfl

lemma value?_brace (key : String) (rest : List Char) :
    value? (fuel + 1) ('\x7b' :: (quote key ++ rest)) =
      (entriesOf? fuel (some []) (quote key ++ rest)).map fun (entries, rest) =>
        (entries.elim .valueless .object, rest) :=
  rfl

lemma reads_array (exact : ∀ i ∈ items, IsExact i) (reads : ∀ i ∈ items, Reads i) : Reads (.array items) := by
  intro fuel rest _ enough
  cases items with
  | nil => rfl
  | cons first items =>
    obtain ⟨c, text, e, dark, opens⟩ := exists_render_eq (exact first List.mem_cons_self)
    rw [render_array, List.length_cons] at enough
    have all : itemsOf? fuel [] (first.render ++ (renderItems items ++ rest)) = some (first :: items, rest) :=
      itemsOf?_renderItems exact reads (by omega)
    rw [e, List.cons_append] at all
    rw [render_array, List.cons_append, List.append_assoc, e, List.cons_append, value?_bracket dark opens, all]
    rfl

lemma reads_object (exact : ∀ e ∈ entries, IsExact e.2) (reads : ∀ e ∈ entries, Reads e.2) :
    Reads (.object entries) := by
  intro fuel rest _ enough
  cases entries with
  | nil => rfl
  | cons first entries =>
    obtain ⟨key, j⟩ := first
    have shorter : (j.render ++ renderEntries entries).length ≤ fuel := by
      simp only [render_object, List.length_append, List.length_cons] at enough ⊢
      omega
    have all : entriesOf? fuel (some []) (quote key ++ ':' :: (j.render ++ (renderEntries entries ++ rest))) =
        some (some ((key, j) :: entries), rest) := entriesOf?_renderEntries exact reads shorter
    rw [render_object, List.cons_append, List.append_assoc, List.cons_append, List.append_assoc, value?_brace, all]
    rfl

/-- A value is read from its written form when it and all values inside it are exact. -/
theorem reads_of_every (every : Every IsExact j) : Reads j := by
  induction every with
  | @intro j exact inside ih =>
    have parts (part : Json) (mem : part ∈ j.parts) : IsExact part := (inside part mem).holds
    cases j with
    | null => exact reads_null
    | bool flag => exact reads_bool flag
    | integer n => exact reads_integer exact
    | real x => exact exact.elim
    | string text => exact reads_string text
    | valueless => exact exact.elim
    | array items => exact reads_array parts ih
    | object entries =>
      exact reads_object (fun e mem => parts e.2 (List.mem_map_of_mem mem)) fun e mem => ih e.2 (List.mem_map_of_mem mem)

/-- The text of an exact value stands for the value. -/
theorem parse_render (every : Every IsExact j) : parse j.render = some j := by
  have whole := reads_of_every every (2 * j.render.length + 1) [] (by simp [Ends]) (by omega)
  rw [List.append_nil] at whole
  rw [parse, whole]
  rfl

section OneLine

/-- A text on one line: no character of it is a control character. -/
def OneLine (text : List Char) : Prop :=
  ∀ c ∈ text, 0x20 ≤ c.toNat

instance (text : List Char) : Decidable (OneLine text) :=
  List.decidableBAll _ text

lemma OneLine.append {text : List Char} (first : OneLine text) (second : OneLine rest) : OneLine (text ++ rest) := by
  intro c mem
  exact (List.mem_append.mp mem).elim (first c) (second c)

lemma OneLine.cons {c : Char} (first : 0x20 ≤ c.toNat) (second : OneLine rest) : OneLine (c :: rest) :=
  List.forall_mem_cons.mpr ⟨first, second⟩

lemma oneLine_escape (c : Char) : OneLine (escape c) := by
  unfold escape
  split
  case h_8 =>
    split
    · rename_i control
      have digits : ∀ n < 0x20, 0x20 ≤ (Text.lowerHexDigit n).toNat := by decide
      have start : OneLine ['\\', 'u', '0', '0'] := by decide
      exact start.append (.cons (digits _ (by omega)) (.cons (digits _ (by omega)) (by decide)))
    · rename_i printable
      exact .cons (by omega) (by decide)
  all_goals decide

lemma oneLine_quote (text : String) : OneLine (quote text) := by
  have inside : OneLine (text.toList.flatMap escape) := by
    intro c mem
    obtain ⟨d, _, written⟩ := List.mem_flatMap.mp mem
    exact oneLine_escape d c written
  exact .cons (by decide) (inside.append (.cons (by decide) (by decide)))

lemma oneLine_toDigits (n : Nat) : OneLine (Nat.toDigits 10 n) := by
  intro c mem
  have digit := Nat.isDigit_of_mem_toDigits (by decide) (by decide) mem
  exact Nat.le_trans (by decide) (Char.isDigit_iff_toNat.mp digit).1

lemma oneLine_renderItems (lines : ∀ i ∈ items, OneLine i.render) : OneLine (renderItems items) := by
  induction items with
  | nil => exact .cons (by decide) (by decide)
  | cons j items ih =>
    obtain ⟨first, later⟩ := List.forall_mem_cons.mp lines
    exact .cons (by decide) (first.append (ih later))

lemma oneLine_renderEntries (lines : ∀ e ∈ entries, OneLine e.2.render) : OneLine (renderEntries entries) := by
  induction entries with
  | nil => exact .cons (by decide) (by decide)
  | cons entry entries ih =>
    obtain ⟨first, later⟩ := List.forall_mem_cons.mp lines
    exact .cons (by decide) ((oneLine_quote entry.1).append (.cons (by decide) (first.append (ih later))))

/-- An exact value is written on one line. -/
theorem oneLine_render (every : Every IsExact j) : OneLine j.render := by
  induction every with
  | @intro j exact inside ih =>
    cases j with
    | null => decide
    | bool flag => cases flag <;> decide
    | integer n =>
      cases n with
      | ofNat n => exact render_nat n ▸ oneLine_toDigits n
      | negSucc n => exact render_negSucc n ▸ .cons (by decide) (oneLine_toDigits _)
    | real x => exact exact.elim
    | string text => exact oneLine_quote text
    | valueless => exact exact.elim
    | array items =>
      cases items with
      | nil => decide
      | cons first items =>
        obtain ⟨first, later⟩ := List.forall_mem_cons.mp ih
        exact .cons (by decide) (first.append (oneLine_renderItems later))
    | object entries =>
      cases entries with
      | nil => decide
      | cons entry entries =>
        obtain ⟨first, later⟩ := List.forall_mem_cons.mp ih
        refine .cons (by decide) ((oneLine_quote entry.1).append (.cons (by decide) (first.append ?_)))
        exact oneLine_renderEntries fun e mem => later e.2 (List.mem_map_of_mem mem)

end OneLine

end FigureGallery.Json
