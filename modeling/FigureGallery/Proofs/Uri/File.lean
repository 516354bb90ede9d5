import FigureGallery.Proofs.Path.Normal
import FigureGallery.Proofs.Text.Decoding
import FigureGallery.Uri.Parser

/-!
# URIs of files

The URI of a file is read back as a URI, and names the path that it was made of.
-/

namespace FigureGallery.Uri

variable {keeps : Char → Bool} {rest : List Char}

lemma hexValue?_upperHexDigit {n : Nat} (h : n < 16) : Text.hexValue? (Text.upperHexDigit n) = some n := by
  have all : ∀ n < 16, Text.hexValue? (Text.upperHexDigit n) = some n := by decide
  exact all n h

lemma decode_cons {c : Char} (plain : c ≠ '%') :
    decode (c :: rest) = (String.singleton c).toUTF8.toList ++ decode rest := by
  rw [decode]
  exact fun _ _ _ e _ => plain e

/-- The escape of a byte is a percent sign and two digits, which have the value of the byte. -/
lemma exists_escapeByte_eq (b : UInt8) : ∃ c d high low, escapeByte b = ['%', c, d] ∧
    Text.hexValue? c = some high ∧ Text.hexValue? d = some low ∧ 16 * high + low = b.toNat := by
  have high : b.toNat / 16 < 16 := by have := b.toNat_lt; omega
  have low : b.toNat % 16 < 16 := Nat.mod_lt _ (by decide)
  exact ⟨_, _, _, _, rfl, hexValue?_upperHexDigit high, hexValue?_upperHexDigit low, Nat.div_add_mod _ _⟩

lemma decode_escapeByte (b : UInt8) (rest : List Char) : decode (escapeByte b ++ rest) = b :: decode rest := by
  obtain ⟨c, d, high, low, e, first, second, value⟩ := exists_escapeByte_eq b
  rw [e, List.cons_append, List.cons_append, List.cons_append, List.nil_append, decode, first, second]
  dsimp only
  rw [value, UInt8.ofNat_toNat]

lemma encoded_escapeByte (allowed : Char → Bool) (b : UInt8) (rest : List Char) :
    encoded allowed (escapeByte b ++ rest) =
      (encoded allowed rest).map fun (read, behind) => (escapeByte b ++ read, behind) := by
  obtain ⟨c, d, high, low, e, first, second, _⟩ := exists_escapeByte_eq b
  have digits : Text.isHexDigit c && Text.isHexDigit d := by simp [Text.isHexDigit, first, second]
  rw [e, List.cons_append, List.cons_append, List.cons_append, List.nil_append, encoded, if_pos digits]
  rfl

/-- A byte of ASCII is the encoded form of its character. -/
lemma toList_toUTF8_ofNat {b : UInt8} (ascii : b < 0x80) :
    (String.singleton (Char.ofNat b.toNat)).toUTF8.toList = [b] := by
  have small : b.toNat < 128 := by simpa [UInt8.lt_iff_toNat_lt] using ascii
  have all : ∀ n < 128, (Char.ofNat n).toNat = n := by decide
  rw [Text.toList_toUTF8, String.toList_singleton, List.flatMap_singleton, Text.utf8EncodeChar_eq, all _ small,
    if_pos (by omega), UInt8.ofNat_toNat]

/-- Bytes as they are written in a URI: kept characters of ASCII, which percent signs are not, and escapes. -/
inductive Written (keeps : Char → Bool) : List UInt8 → List Char → Prop where
  | nil :
    Written keeps [] []
  | kept {b bytes text} :
    b < 0x80 →
    keeps (Char.ofNat b.toNat) →
    Char.ofNat b.toNat ≠ '%' →
    Written keeps bytes text →
    Written keeps (b :: bytes) (Char.ofNat b.toNat :: text)
  | escaped {b bytes text} :
    Written keeps bytes text →
    Written keeps (b :: bytes) (escapeByte b ++ text)

lemma written_encode (percent : keeps '%' = false) (text : String) :
    Written keeps text.toUTF8.toList (encode keeps text) := by
  rw [encode]
  induction text.toUTF8.toList with
  | nil => exact .nil
  | cons b bytes ih =>
    rw [List.flatMap_cons]
    split
    · rename_i kept
      obtain ⟨ascii, keep⟩ := Bool.and_eq_true_iff.mp kept
      have plain : Char.ofNat b.toNat ≠ '%' := by
        intro e
        rw [e, percent] at keep
        simp at keep
      exact .kept (by simpa using ascii) keep plain ih
    · exact .escaped ih

/-- The escapes of what was written are undone, whatever follows. -/
lemma Written.decode_append {bytes : List UInt8} {text : List Char} (written : Written keeps bytes text)
    (rest : List Char) : decode (text ++ rest) = bytes ++ decode rest := by
  induction written with
  | nil => rfl
  | kept ascii _ plain _ ih =>
    rw [List.cons_append, decode_cons plain, toList_toUTF8_ofNat ascii, ih]
    rfl
  | escaped _ ih => rw [List.append_assoc, decode_escapeByte, ih, List.cons_append]

lemma Written.decode {bytes : List UInt8} {text : List Char} (written : Written keeps bytes text) :
    decode text = bytes := by
  have whole := written.decode_append []
  rwa [List.append_nil, Uri.decode, List.append_nil] at whole

/-- What is written is kept, or belongs to an escape. -/
lemma Written.forall_mem {bytes : List UInt8} {text : List Char} (written : Written keeps bytes text) :
    ∀ c ∈ text, keeps c ∨ c = '%' ∨ ∃ n < 16, c = Text.upperHexDigit n := by
  induction written with
  | nil => simp
  | kept _ keep _ _ ih => exact List.forall_mem_cons.mpr ⟨.inl keep, ih⟩
  | @escaped b _ _ _ ih =>
    refine List.forall_mem_append.mpr ⟨fun c mem => .inr ?_, ih⟩
    have high : b.toNat / 16 < 16 := by have := b.toNat_lt; omega
    have low : b.toNat % 16 < 16 := Nat.mod_lt _ (by decide)
    simp only [escapeByte, List.mem_cons, List.not_mem_nil, or_false] at mem
    obtain rfl | rfl | rfl := mem
    · exact .inl rfl
    · exact .inr ⟨_, high, rfl⟩
    · exact .inr ⟨_, low, rfl⟩

/-- What was written is read to its end where all that is kept may stand. -/
lemma Written.encoded {allowed : Char → Bool} (may : ∀ c, keeps c → allowed c) {bytes : List UInt8} {text : List Char}
    (written : Written keeps bytes text) : encoded allowed text = .ok (text, []) := by
  induction written with
  | nil => rfl
  | kept _ keep plain _ ih =>
    rw [Uri.encoded, if_neg (by simpa using plain), if_pos (may _ keep), ih]
    · rfl
    · exact fun _ _ _ e _ => plain e
  | escaped _ ih =>
    rw [encoded_escapeByte, ih]
    rfl

lemma exists_encode_eq_cons {text : String} (slash : keeps '/') (head : text.toList.head? = some '/') :
    ∃ rest, encode keeps text = '/' :: rest := by
  obtain ⟨cs, e⟩ := List.head?_eq_some_iff.mp head
  have bytes : text.toUTF8.toList = 0x2F :: cs.flatMap String.utf8EncodeChar := by
    rw [Text.toList_toUTF8, e]
    rfl
  have kept : (0x2F : UInt8) < 0x80 && keeps (Char.ofNat (0x2F : UInt8).toNat) := by simpa using slash
  rw [encode, bytes, List.flatMap_cons, if_pos kept]
  exact ⟨_, rfl⟩

variable {p : Path}

/-- The path of the URI of a file has the bytes of the path of the file, besides its escapes. -/
lemma decode_ofPath (p : Path) : decode (ofPath p).path = p.text.toUTF8.toList := by
  rw [ofPath, (written_encode (by decide) p.text).decode]

/-- The URI of a file names the path of the file, in normal form. -/
theorem toPath?_ofPath (nonempty : p.text ≠ "") : (ofPath p).toPath? = some p.normalize := by
  have decoded : Text.decodeLossy (decode (ofPath p).path) = p.text.toList := by
    rw [decode_ofPath, Text.decodeLossy_toUTF8]
  rw [toPath?, decoded, if_neg, String.ofList_toList]
  simpa using nonempty

/-- The URI of a file with an absolute path is read as it was written. -/
theorem parse?_ofPath (absolute : p.isAbsolute) : parse? (ofPath p).text = some (ofPath p) := by
  obtain ⟨rest, e⟩ := @exists_encode_eq_cons (fun c => isUnreserved c || c == '/') p.text (by decide)
    (by simpa [Path.isAbsolute] using absolute)
  have read : encoded isPathChar ('/' :: rest) = .ok ('/' :: rest, []) := by
    rw [← e]
    apply (written_encode (by decide) p.text).encoded
    intro c keep
    simp only [Bool.or_eq_true] at keep
    rcases keep with keep | keep
    · simp [isPathChar, isNameChar, keep]
    · simp [isPathChar, keep]
  have named : authority ('/' :: rest) = .ok ('/' :: rest) := by
    rfl
  have path : pathOf (ofPath p).text.toList = .ok ('/' :: rest) := by
    have written : (ofPath p).text.toList = "file://".toList ++ '/' :: rest := by simp [ofPath, e]
    have behind : pathBehind true ('/' :: rest) = .ok ('/' :: rest) := by
      rw [pathBehind, if_neg (by simp), read]
      rfl
    rw [written]
    change (authority ('/' :: rest)).bind (pathBehind true) = _
    rw [named]
    exact behind
  rw [parse?, parse, path, ofPath, e]
  rfl

end FigureGallery.Uri
