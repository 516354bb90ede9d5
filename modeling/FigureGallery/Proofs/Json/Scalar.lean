import FigureGallery.Json.Parser
import FigureGallery.Json.Printer
import FigureGallery.Proofs.Markup.Marker

/-!
# Reading strings and integers back

A written string is read up to its closing quote, whatever follows it. A written integer of 64 bits is read up to a
character that may follow a value.
-/

namespace FigureGallery.Json

section Strings

variable {c : Char} {fuel : Nat} {read : Option (List Char)} {rest : List Char}

lemma hexNumber?_lowerHexDigit {n : Nat} (control : n < 0x20) :
    Text.hexNumber? ['0', '0', Text.lowerHexDigit (n / 16), Text.lowerHexDigit (n % 16)] = some n := by
  have all : ∀ n < 0x20, Text.hexNumber? ['0', '0', Text.lowerHexDigit (n / 16), Text.lowerHexDigit (n % 16)] = some n := by
    decide
  exact all n control

/-- The escape of a control character by its number. -/
lemma escape?_control (control : c.toNat < 0x20) :
    escape? ('u' :: '0' :: '0' :: Text.lowerHexDigit (c.toNat / 16) :: Text.lowerHexDigit (c.toNat % 16) :: rest) =
      some (some c, rest) := by
  have high : isHighSurrogate c.toNat = false := by simp [isHighSurrogate]; omega
  have low : isLowSurrogate c.toNat = false := by simp [isLowSurrogate]; omega
  rw [escape?, hexNumber?_lowerHexDigit control, Option.bind_some, high, low, if_neg (by simp), if_neg (by simp),
    Char.ofNat_toNat]

lemma chars?_plain (quote : c ≠ '"') (backslash : c ≠ '\\') (printable : ¬ c.toNat < 0x20) :
    chars? (fuel + 1) read (c :: rest) = chars? fuel (read.map (c :: ·)) rest := by
  rw [chars?, if_neg printable]
  · exact fun e => quote e
  · exact fun e => backslash e

lemma chars?_escaped (written : List Char) (reads : escape? (written ++ rest) = some (some c, rest)) :
    chars? (fuel + 1) read ('\\' :: (written ++ rest)) = chars? fuel (read.map (c :: ·)) rest := by
  rw [chars?, reads, Option.bind_some]
  cases read <;> rfl

/-- A written character is read in one step. -/
lemma chars?_escape_append : chars? (fuel + 1) read (escape c ++ rest) = chars? fuel (read.map (c :: ·)) rest := by
  unfold escape
  split
  case h_8 quote backslash _ _ _ _ _ =>
    split
    · rename_i control
      exact chars?_escaped ['u', '0', '0', _, _] (escape?_control control)
    · rename_i printable
      exact chars?_plain quote backslash printable
  all_goals exact chars?_escaped [_] rfl

lemma length_escape_pos (c : Char) : 0 < (escape c).length := by
  unfold escape
  split
  case h_8 => split <;> simp
  all_goals simp

/-- The written characters of a string are read up to its closing quote. -/
lemma chars?_flatMap_escape {text : List Char} (enough : (text.flatMap escape).length < fuel) :
    chars? fuel read (text.flatMap escape ++ '"' :: rest) = some (read.map fun front => front.reverse ++ text, rest) := by
  induction text generalizing fuel read with
  | nil =>
    obtain ⟨fuel, rfl⟩ := Nat.exists_eq_add_of_lt enough
    simp [chars?]
  | cons c text ih =>
    have step := length_escape_pos c
    rw [List.flatMap_cons, List.length_append] at enough
    obtain ⟨fuel, rfl⟩ : ∃ n, fuel = n + 1 := ⟨fuel - 1, by omega⟩
    rw [List.flatMap_cons, List.append_assoc, chars?_escape_append, ih (by omega)]
    cases read <;> simp

/-- A written string is read after its opening quote. -/
lemma text?_quote (text : String) (rest : List Char) :
    text? (text.toList.flatMap escape ++ '"' :: rest) = some (some text, rest) := by
  rw [text?, chars?_flatMap_escape (by rw [List.length_append]; omega)]
  simp

end Strings

section Integers

variable {n : Nat} {rest : List Char}

/-- What follows a value: nothing, or a character that ends it. -/
def Ends (rest : List Char) : Prop :=
  ∀ c ∈ rest.head?, c = ',' ∨ c = ']' ∨ c = '\x7d'

lemma digits?_append {digits : List Char} (nonempty : digits ≠ []) (all : ∀ c ∈ digits, c.isDigit)
    (stops : ∀ c ∈ rest.head?, c.isDigit = false) : digits? (digits ++ rest) = some (digits, rest) := by
  have taken : rest.takeWhile Char.isDigit = [] ∧ rest.dropWhile Char.isDigit = rest := by
    cases rest with
    | nil => exact ⟨rfl, rfl⟩
    | cons c rest => simp [stops c rfl]
  rw [digits?, List.takeWhile_append_of_pos all, List.dropWhile_append_of_pos all, taken.1, taken.2, List.append_nil]
  split
  · contradiction
  · rfl

lemma exists_toDigits_eq (n : Nat) : ∃ c more, Nat.toDigits 10 n = c :: more ∧ c.isDigit := by
  obtain ⟨c, more, digits⟩ := List.exists_cons_of_ne_nil (Nat.toDigits_ne_nil (n := n) (b := 10))
  exact ⟨c, more, digits,
    Nat.isDigit_of_mem_toDigits (n := n) (by decide) (by decide) (digits ▸ List.mem_cons_self)⟩

/-- Only zero is written with a zero at the start. -/
lemma eq_zero_of_toDigits {more : List Char} (e : Nat.toDigits 10 n = '0' :: more) : n = 0 ∧ more = [] := by
  induction n using Nat.strongRecOn generalizing more with
  | ind n ih =>
    rw [Nat.toDigits_eq_if (by decide)] at e
    split at e
    · rename_i small
      have all : ∀ m < 10, Nat.digitChar m = '0' → m = 0 := by decide
      obtain ⟨zero, rfl⟩ := List.cons.inj e
      exact ⟨all n small zero, rfl⟩
    · obtain ⟨front, leading⟩ : ∃ front, Nat.toDigits 10 (n / 10) = '0' :: front := by
        cases digits : Nat.toDigits 10 (n / 10) with
        | nil => exact absurd digits Nat.toDigits_ne_nil
        | cons c front =>
          rw [digits] at e
          exact ⟨front, by rw [(List.cons.inj e).1]⟩
      have := ih (n / 10) (by omega) leading
      omega

lemma numberOf_toDigits (n : Nat) : numberOf (Nat.toDigits 10 n) = n :=
  Nat.ofDigitChars_ten_toDigits

lemma fraction?_of_ends (ends : Ends rest) : fraction? rest = some (none, rest) := by
  cases rest with
  | nil => rfl
  | cons c rest => obtain rfl | rfl | rfl := ends c rfl <;> rfl

lemma exponent?_of_ends (ends : Ends rest) : exponent? rest = some (none, rest) := by
  cases rest with
  | nil => rfl
  | cons c rest => obtain rfl | rfl | rfl := ends c rfl <;> rfl

lemma isDigit_of_ends (ends : Ends rest) : ∀ c ∈ rest.head?, c.isDigit = false := by
  intro c mem
  obtain rfl | rfl | rfl := ends c mem <;> rfl

/-- The digits of a number are read as one number. -/
lemma number?_toDigits {negative : Bool} (ends : Ends rest) :
    number? negative (Nat.toDigits 10 n ++ rest) =
      some (numberValue negative (Nat.toDigits 10 n) none none, rest) := by
  have stops : ¬ rest.head?.any Char.isDigit = true := by
    cases rest with
    | nil => simp
    | cons c rest => simp [isDigit_of_ends ends c rfl]
  have digits : digits? (Nat.toDigits 10 n ++ rest) = some (Nat.toDigits 10 n, rest) :=
    digits?_append Nat.toDigits_ne_nil (fun c mem => Nat.isDigit_of_mem_toDigits (by decide) (by decide) mem)
      (isDigit_of_ends ends)
  -- Nothing but the only digit of zero is taken for a leading zero.
  have leading : Nat.toDigits 10 n = ['0'] ∨ ∀ more, Nat.toDigits 10 n = '0' :: more → False := by
    by_cases zero : Nat.toDigits 10 n = ['0']
    · exact .inl zero
    · exact .inr fun more e => zero (by rw [e, (eq_zero_of_toDigits e).2])
  have after : ((fraction? rest).bind fun p => (exponent? p.2).map fun q =>
      (numberValue negative (Nat.toDigits 10 n) p.1 q.1, q.2)) =
        some (numberValue negative (Nat.toDigits 10 n) none none, rest) := by
    simp only [fraction?_of_ends ends, exponent?_of_ends ends, Option.bind_some, Option.map_some]
  rw [number?, digits, Option.bind_some]
  obtain zero | other := leading
  · rw [zero] at after ⊢
    exact (if_neg stops).trans after
  · simp only
    exact (if_neg stops).trans after

/-- An integer has 64 bits, with or without a sign. -/
def Has64Bits (n : Int) : Prop :=
  Width.fitsSigned 64 n ∨ Width.fitsUnsigned 64 n

lemma has64Bits_iff {n : Int} : Has64Bits n ↔ -Width.capacity 63 ≤ n ∧ n < Width.capacity 64 := by
  have more : Width.capacity 63 ≤ Width.capacity 64 := by decide
  simp only [Has64Bits, Width.fitsSigned, Width.fitsUnsigned, Bool.and_eq_true, decide_eq_true_eq, Nat.reduceSub]
  omega

lemma has64Bits_natCast {n : Nat} : Has64Bits n ↔ n < Width.capacity 64 := by
  rw [has64Bits_iff]
  omega

lemma numberValue_nat (fits : n < Width.capacity 64) :
    numberValue false (Nat.toDigits 10 n) none none = .integer n := by
  rw [numberValue, numberOf_toDigits]
  simp [Width.fitsUnsigned, fits]

lemma numberValue_neg (positive : 0 < n) (fits : n ≤ Width.capacity 63) :
    numberValue true (Nat.toDigits 10 n) none none = .integer (-n) := by
  rw [numberValue, numberOf_toDigits]
  have below : (-n : Int) < Width.capacity 63 := by
    have : 0 < Width.capacity 63 := by decide
    omega
  simp [Width.fitsSigned, positive, fits, below]

end Integers

end FigureGallery.Json
