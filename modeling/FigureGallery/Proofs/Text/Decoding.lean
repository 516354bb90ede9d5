import FigureGallery.Text.Decoding
import Mathlib.Tactic.Lemma

/-!
# Decoding what was encoded

The bytes of a text are decoded to the text they are of: each character is one first byte with as many bytes after it as
the first byte asks for, and none of them is what the bounds keep out.
-/

namespace FigureGallery.Text

/-- Bytes that complete what a first byte starts. -/
structure Completes (first : UInt8) (others : List UInt8) : Prop where
  size : sizeFrom first = others.length + 1
  second : ∀ b ∈ others.head?, mayFollow first b
  rest : ∀ b ∈ others.tail, isContinuation b

variable {first : UInt8} {others rest : List UInt8}

lemma Completes.followers (completes : Completes first others) : followers first (others ++ rest) = others := by
  obtain ⟨size, second, continues⟩ := completes
  cases others with
  | nil =>
    cases rest with
    | nil => rfl
    | cons b bs => simp [Text.followers, size]
  | cons b bs =>
    have follows : 2 ≤ sizeFrom first && mayFollow first b := by simp [size, second b rfl]
    have whole : (bs ++ rest).takeWhile isContinuation = bs ++ rest.takeWhile isContinuation :=
      List.takeWhile_append_of_pos continues
    rw [List.cons_append, Text.followers, if_pos follows, whole]
    simp [size]

/-- A completed character is decoded, and what follows it is decoded by itself. -/
lemma Completes.decodeLossy (completes : Completes first others) :
    decodeLossy (first :: (others ++ rest)) = Char.ofNat (codePoint first others) :: decodeLossy rest := by
  rw [Text.decodeLossy]
  simp [completes.followers, completes.size]

/-- A byte with six bits of a code point. -/
def continuation (n : Nat) : UInt8 :=
  UInt8.ofNat (n % 64 + 128)

lemma isContinuation_continuation (n : Nat) : isContinuation (continuation n) := by
  have all : ∀ m < 64, isContinuation (UInt8.ofNat (m + 128)) := by decide
  exact all _ (Nat.mod_lt _ (by decide))

lemma toNat_continuation (n : Nat) : (continuation n).toNat % 64 = n % 64 := by
  rw [continuation, UInt8.toNat_ofNat']
  omega

lemma completes_one {n : Nat} : Completes (UInt8.ofNat n) [] ↔ sizeFrom (UInt8.ofNat n) = 1 :=
  ⟨fun completes => completes.size, fun size => ⟨size, by simp, by simp⟩⟩

lemma completes_two {n m : Nat} (low : 2 ≤ n) (high : n < 32) : Completes (UInt8.ofNat (n + 192)) [continuation m] where
  size := by
    have all : ∀ n < 32, 2 ≤ n → sizeFrom (UInt8.ofNat (n + 192)) = 2 := by decide
    exact all n high low
  second := by
    have all : ∀ n < 32, ∀ m < 64, mayFollow (UInt8.ofNat (n + 192)) (UInt8.ofNat (m + 128)) := by decide +kernel
    simpa [continuation] using all n high (m % 64) (Nat.mod_lt _ (by decide))
  rest := by simp

lemma completes_three {n m k : Nat} (high : n < 16) (overlong : n = 0 → 32 ≤ m % 64) (surrogate : n = 13 → m % 64 < 32) :
    Completes (UInt8.ofNat (n + 224)) [continuation m, continuation k] where
  size := by
    have all : ∀ n < 16, sizeFrom (UInt8.ofNat (n + 224)) = 3 := by decide
    exact all n high
  second := by
    have all : ∀ n < 16, ∀ m < 64, (n = 0 → 32 ≤ m) → (n = 13 → m < 32) →
        mayFollow (UInt8.ofNat (n + 224)) (UInt8.ofNat (m + 128)) := by
      decide +kernel
    simpa [continuation] using all n high (m % 64) (Nat.mod_lt _ (by decide)) overlong surrogate
  rest := by simp [isContinuation_continuation]

lemma completes_four {n m k l : Nat} (high : n < 5) (overlong : n = 0 → 16 ≤ m % 64) (large : n = 4 → m % 64 < 16) :
    Completes (UInt8.ofNat (n + 240)) [continuation m, continuation k, continuation l] where
  size := by
    have all : ∀ n < 5, sizeFrom (UInt8.ofNat (n + 240)) = 4 := by decide
    exact all n high
  second := by
    have all : ∀ n < 5, ∀ m < 64, (n = 0 → 16 ≤ m) → (n = 4 → m < 16) →
        mayFollow (UInt8.ofNat (n + 240)) (UInt8.ofNat (m + 128)) := by
      decide +kernel
    simpa [continuation] using all n high (m % 64) (Nat.mod_lt _ (by decide)) overlong large
  rest := by simp [isContinuation_continuation]

/-- How a character is encoded. -/
lemma utf8EncodeChar_eq (c : Char) : String.utf8EncodeChar c =
    if c.toNat ≤ 127 then [UInt8.ofNat c.toNat]
    else if c.toNat ≤ 2047 then [UInt8.ofNat (c.toNat / 64 % 32 + 192), continuation c.toNat]
    else if c.toNat ≤ 65535 then
      [UInt8.ofNat (c.toNat / 4096 % 16 + 224), continuation (c.toNat / 64), continuation c.toNat]
    else
      [UInt8.ofNat (c.toNat / 262144 % 8 + 240), continuation (c.toNat / 4096), continuation (c.toNat / 64),
        continuation c.toNat] := rfl

/-- The encoded form of a character is decoded to it, whatever follows. -/
lemma decodeLossy_utf8EncodeChar (c : Char) (rest : List UInt8) :
    decodeLossy (String.utf8EncodeChar c ++ rest) = c :: decodeLossy rest := by
  -- The cases are those of the number of bytes; what the bounds keep out is no character of so many bytes.
  have valid : c.toNat < 0xD800 ∨ 0xDFFF < c.toNat ∧ c.toNat < 0x110000 := c.valid
  have decoded {first : UInt8} {others : List UInt8} (completes : Completes first others)
      (point : codePoint first others = c.toNat) :
      decodeLossy (first :: others ++ rest) = c :: decodeLossy rest := by
    rw [List.cons_append, completes.decodeLossy, point, Char.ofNat_toNat]
  rw [utf8EncodeChar_eq]
  generalize c.toNat = v at valid decoded
  split
  · have size : sizeFrom (UInt8.ofNat v) = 1 := by
      have all : ∀ n < 128, sizeFrom (UInt8.ofNat n) = 1 := by decide
      exact all v (by omega)
    apply decoded (completes_one.mpr size)
    simp only [codePoint, List.length_nil, List.foldl_nil, UInt8.toNat_ofNat']
    omega
  · split
    · apply decoded (completes_two (by omega) (by omega))
      simp only [codePoint, List.length_singleton, List.foldl_cons, List.foldl_nil, toNat_continuation,
        UInt8.toNat_ofNat']
      omega
    · split
      · apply decoded (completes_three (by omega) (by omega) (by omega))
        simp only [codePoint, List.length_cons, List.length_nil, List.foldl_cons, List.foldl_nil, toNat_continuation,
          UInt8.toNat_ofNat']
        omega
      · apply decoded (completes_four (by omega) (by omega) (by omega))
        simp only [codePoint, List.length_cons, List.length_nil, List.foldl_cons, List.foldl_nil, toNat_continuation,
          UInt8.toNat_ofNat']
        omega

lemma toList_loop (bytes : ByteArray) (start : Nat) (read : List UInt8) :
    ByteArray.toList.loop bytes start read = read.reverse ++ bytes.data.toList.drop start := by
  fun_induction ByteArray.toList.loop bytes start read with
  | case1 start read more ih =>
    have below : start < bytes.data.toList.length := by simpa using more
    rw [ih, List.drop_eq_getElem_cons below]
    simp [ByteArray.get!, more]
  | case2 start read done =>
    rw [List.drop_eq_nil_of_le (by simpa using Nat.le_of_not_lt done), List.append_nil]

/-- The bytes of a text are those of its characters, one after another. -/
lemma toList_toUTF8 (text : String) : text.toUTF8.toList = text.toList.flatMap String.utf8EncodeChar := by
  have encoded : text.toByteArray = (text.toList.flatMap String.utf8EncodeChar).toByteArray := by
    rw [← text.ofList_toList, String.toByteArray_ofList, String.toList_ofList]
    rfl
  rw [String.toUTF8_eq_toByteArray, encoded, ByteArray.toList, toList_loop, List.toList_data_toByteArray]
  rfl

/-- The bytes of a text are decoded to it. -/
theorem decodeLossy_toUTF8 (text : String) : decodeLossy text.toUTF8.toList = text.toList := by
  rw [toList_toUTF8]
  induction text.toList with
  | nil => simp [decodeLossy]
  | cons c cs ih => rw [List.flatMap_cons, decodeLossy_utf8EncodeChar, ih]

end FigureGallery.Text
