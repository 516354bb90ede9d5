import FigureGallery.Document.Source
import FigureGallery.Proofs.FileTree.Lookup
import Mathlib.Data.List.Nodup
import Mathlib.Data.List.Perm.Subperm
import Mathlib.Data.Nat.Digits.Defs

/-!
# Reachable documents

Spellings of a document with the same components have the same text, as long as both exist. There are finitely many
documents: each has an open buffer, or its path is short enough to be looked up.
-/

namespace FigureGallery.Source

variable {source : Source}

/-- Spellings with the same components have one text. -/
lemma read_congr {p q : Path} (h : p.components = q.components) (hp : source.isReachable p)
    (hq : source.isReachable q) : source.read p = source.read q := by
  have buffer : source.buffers.get? p = source.buffers.get? q := by rw [Buffers.get?, Buffers.get?, h]
  rw [isReachable, Buffers.contains] at hp hq
  rw [read, read, stored, stored, buffer]
  cases e : source.buffers.get? q with
  | some text => rfl
  | none =>
    rw [buffer, e] at hp
    rw [e] at hq
    simp only [Option.isSome_none, Bool.false_or] at hp hq
    rw [if_pos hp, if_pos hq, FileTree.readText_congr h hp hq]

/-- The top is a document only when it is open. -/
lemma contains_top {p : Path} (top : p.components = [.root]) (reachable : source.isReachable p) :
    source.buffers.contains ⟨"/"⟩ := by
  have same : p.components = (⟨"/"⟩ : Path).components := top.trans (by decide)
  rw [isReachable, FileTree.isFile_eq_false_of_components top, Bool.or_false, Buffers.contains, Buffers.get?,
    same] at reachable
  exact reachable

/-- The bytes of a text as digits, with a leading one. -/
def textCode (s : String) : Nat :=
  Nat.ofDigits 256 (s.toByteArray.data.toList.map UInt8.toNat ++ [1])

/-- The digits of a text. -/
lemma digits_textCode (s : String) :
    Nat.digits 256 (textCode s) = s.toByteArray.data.toList.map UInt8.toNat ++ [1] := by
  refine Nat.digits_ofDigits 256 (by omega) _ ?_ (by simp)
  intro d mem
  obtain mem | mem := List.mem_append.mp mem
  · obtain ⟨byte, _, rfl⟩ := List.mem_map.mp mem
    exact byte.toNat_lt
  · obtain rfl := List.mem_singleton.mp mem
    omega

/-- Different texts have different codes. -/
lemma textCode_injective : Function.Injective textCode := by
  intro s t h
  have digits := congrArg (Nat.digits 256) h
  rw [digits_textCode, digits_textCode] at digits
  have bytes := (List.map_inj_right fun _ _ => UInt8.toNat_inj.mp).mp (List.append_cancel_right digits)
  exact String.toByteArray_inj.mp (ByteArray.ext (Array.toList_inj.mp bytes))

/-- Short texts have small codes. -/
lemma textCode_lt {s : String} {n : Nat} (h : s.utf8ByteSize ≤ n) : textCode s < FileTree.textBound n := by
  have small : ∀ d ∈ s.toByteArray.data.toList.map UInt8.toNat ++ [1], d < 256 := by
    rw [← digits_textCode]
    exact fun d => Nat.digits_lt_base (by omega)
  have length : (s.toByteArray.data.toList.map UInt8.toNat ++ [1]).length = s.utf8ByteSize + 1 := by
    rw [List.length_append, List.length_map, Array.length_toList, List.length_singleton]
    rfl
  calc textCode s
    _ < 256 ^ (s.utf8ByteSize + 1) := by
      rw [← length]
      exact Nat.ofDigits_lt_base_pow_length (by omega) small
    _ ≤ 256 ^ (n + 1) := Nat.pow_le_pow_right (by omega) (by omega)
    _ = FileTree.textBound n := by
      rw [FileTree.textBound]
      change (2 ^ 8) ^ (n + 1) = 2 ^ (8 * (n + 1))
      rw [← Nat.pow_mul]

/-- There are only so many short texts. -/
lemma length_le_of_short {texts : List String} {n : Nat} (nodup : texts.Nodup)
    (short : ∀ s ∈ texts, s.utf8ByteSize ≤ n) : texts.length ≤ FileTree.textBound n := by
  have codes : texts.map textCode ⊆ List.range (FileTree.textBound n) := by
    intro code mem
    obtain ⟨s, hs, rfl⟩ := List.mem_map.mp mem
    exact List.mem_range.mpr (textCode_lt (short s hs))
  have := (List.subperm_of_subset (nodup.map textCode_injective) codes).length_le
  rwa [List.length_map, List.length_range] at this

/-- There are only so many open documents. -/
lemma length_le_of_open {documents : List Path} (nodup : (documents.map Path.components).Nodup)
    (opened : ∀ d ∈ documents, source.buffers.contains d) : documents.length ≤ source.buffers.entries.length := by
  have keys : documents.map Path.components ⊆ source.buffers.entries.map Prod.fst := by
    intro key mem
    obtain ⟨d, hd, rfl⟩ := List.mem_map.mp mem
    have := opened d hd
    rw [Buffers.contains, Buffers.get?, List.lookup_isSome_iff] at this
    obtain ⟨entry, hentry, e⟩ := this
    exact List.mem_map.mpr ⟨entry, hentry, (eq_of_beq e).symm⟩
  have := (List.subperm_of_subset nodup keys).length_le
  rwa [List.length_map, List.length_map] at this

/-- There are only so many reachable documents with different components. -/
lemma length_le_of_reachable {documents : List Path} (nodup : (documents.map Path.components).Nodup)
    (reachable : ∀ d ∈ documents, source.isReachable d) :
    documents.length ≤ FileTree.textBound FileTree.maxPathLength + source.buffers.entries.length := by
  rw [List.length_eq_length_filter_add source.buffers.contains, Nat.add_comm]
  refine Nat.add_le_add ?_ ?_
  · -- Documents without a buffer are files, and documents with different components have different texts.
    have texts : ((documents.filter fun d => !source.buffers.contains d).map Path.text).Nodup := by
      have := nodup.sublist ((List.filter_sublist (p := fun d => !source.buffers.contains d)).map Path.components)
      exact List.Nodup.of_map (fun text => Path.components ⟨text⟩) (by rwa [List.map_map])
    rw [← List.length_map Path.text]
    refine length_le_of_short texts ?_
    intro s mem
    obtain ⟨d, hd, rfl⟩ := List.mem_map.mp mem
    obtain ⟨hd, closed⟩ := List.mem_filter.mp hd
    have := reachable d hd
    rw [isReachable, Bool.eq_false_of_not_eq_true' closed, Bool.false_or] at this
    exact FileTree.utf8ByteSize_le_of_isFile this
  · refine length_le_of_open (nodup.sublist (List.filter_sublist.map _)) ?_
    exact fun d mem => (List.mem_filter.mp mem).2

end FigureGallery.Source
