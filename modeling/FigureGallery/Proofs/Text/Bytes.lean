import FigureGallery.Proofs.Text.Cut
import FigureGallery.Proofs.Text.Decoding
import Mathlib.Data.List.Count

/-!
# Bytes of a text

A character of ASCII is one byte, which stands in the form of no other character. So whoever counts such a byte up to an
index of the bytes of a text, on a boundary or not, counts the character in the text before this index.
-/

namespace FigureGallery.Text

/-- The bytes of a text in UTF-8. -/
def bytes (cs : List Char) : List UInt8 :=
  cs.flatMap String.utf8EncodeChar

@[simp]
lemma bytes_append (xs ys : List Char) : bytes (xs ++ ys) = bytes xs ++ bytes ys :=
  List.flatMap_append

@[simp]
lemma length_bytes (cs : List Char) : (bytes cs).length = byteLength cs := by
  induction cs with
  | nil => rfl
  | cons c cs ih => rw [bytes, List.flatMap_cons, List.length_append, String.length_utf8EncodeChar, ← bytes, ih]; rfl

/-- The bytes behind a cut are those of the second part. -/
lemma drop_bytes (pre post : List Char) : (bytes (pre ++ post)).drop (byteLength pre) = bytes post := by
  rw [bytes_append, ← length_bytes, List.drop_left]

variable {c d : Char}

/-- A character of ASCII has one byte. -/
lemma utf8Size_of_ascii (ascii : c.toNat < 128) : c.utf8Size = 1 :=
  Char.utf8Size_eq_one_iff.mpr (UInt32.le_iff_toNat_le.mpr (Nat.le_of_lt_succ ascii))

lemma utf8EncodeChar_of_ascii (ascii : c.toNat < 128) : String.utf8EncodeChar c = [c.toUInt8] :=
  String.utf8EncodeChar_eq_singleton (utf8Size_of_ascii ascii)

/-- No byte of a longer character is one of ASCII. -/
lemma le_toNat_of_mem_utf8EncodeChar (long : 128 ≤ d.toNat) {b : UInt8} (mem : b ∈ String.utf8EncodeChar d) :
    128 ≤ b.toNat := by
  have first {n : Nat} (low : 128 ≤ n) (high : n < 256) : 128 ≤ (UInt8.ofNat n).toNat := by
    rw [UInt8.toNat_ofNat']
    omega
  have continues (n : Nat) : 128 ≤ (continuation n).toNat := first (by omega) (by omega)
  rw [utf8EncodeChar_eq, if_neg (by omega)] at mem
  split at mem
  · simp only [List.mem_cons, List.not_mem_nil, or_false] at mem
    obtain rfl | rfl := mem
    · exact first (by omega) (by omega)
    · exact continues _
  · split at mem
    · simp only [List.mem_cons, List.not_mem_nil, or_false] at mem
      obtain rfl | rfl | rfl := mem
      · exact first (by omega) (by omega)
      · exact continues _
      · exact continues _
    · simp only [List.mem_cons, List.not_mem_nil, or_false] at mem
      obtain rfl | rfl | rfl | rfl := mem
      · exact first (by omega) (by omega)
      · exact continues _
      · exact continues _
      · exact continues _

/-- A character of ASCII is a byte of no other character. -/
lemma notMem_utf8EncodeChar (ascii : c.toNat < 128) (ne : d ≠ c) : c.toUInt8 ∉ String.utf8EncodeChar d := by
  have code {c : Char} (ascii : c.toNat < 128) : c.toUInt8.toNat = c.toNat :=
    Nat.mod_eq_of_lt (Nat.lt_trans ascii (by decide))
  intro mem
  by_cases short : d.toNat < 128
  · rw [utf8EncodeChar_of_ascii short, List.mem_singleton] at mem
    exact ne (Char.toNat_inj.mp (by rw [← code short, ← mem, code ascii]))
  · have := le_toNat_of_mem_utf8EncodeChar (Nat.le_of_not_lt short) mem
    have := code ascii
    omega

lemma count_utf8EncodeChar (ascii : c.toNat < 128) (d : Char) :
    (String.utf8EncodeChar d).count c.toUInt8 = [d].count c := by
  by_cases same : d = c
  · rw [same, utf8EncodeChar_of_ascii ascii, List.count_singleton_self, List.count_singleton_self]
  · rw [List.count_eq_zero.mpr (notMem_utf8EncodeChar ascii same), List.count_cons_of_ne same, List.count_nil]

/-- Counting a character of ASCII in the bytes up to an index counts it in the text before the index. A character that the
index lies in has more than one byte, so it makes no difference that some of them are counted over. -/
lemma count_take_bytes (ascii : c.toNat < 128) (n : Nat) (cs : List Char) :
    ((bytes cs).take n).count c.toUInt8 = (before n cs).count c := by
  induction cs generalizing n with
  | nil => simp [bytes, before]
  | cons d cs ih =>
    have split : bytes (d :: cs) = String.utf8EncodeChar d ++ bytes cs := List.flatMap_cons
    rw [split, before]
    by_cases whole : d.utf8Size ≤ n
    · have rest := ih (n - d.utf8Size)
      rw [if_pos whole, List.take_append, String.length_utf8EncodeChar, List.count_append, rest,
        List.take_of_length_le (by rwa [String.length_utf8EncodeChar]), count_utf8EncodeChar ascii,
        ← List.count_append, List.singleton_append]
    · have part : ((String.utf8EncodeChar d).take n).count c.toUInt8 = 0 := by
        by_cases same : d = c
        · have size := utf8Size_of_ascii ascii
          rw [same] at whole
          obtain rfl : n = 0 := by omega
          rw [List.take_zero, List.count_nil]
        · exact List.count_eq_zero.mpr fun mem => notMem_utf8EncodeChar ascii same (List.mem_of_mem_take mem)
      rw [if_neg whole, List.take_append_of_le_length (by rw [String.length_utf8EncodeChar]; omega), part, List.count_nil]

end FigureGallery.Text
