import FigureGallery.Html.ImageUrl
import FigureGallery.Proofs.Path.Neat
import FigureGallery.Proofs.Uri.File
import Mathlib.Data.List.Basic

/-!
# The path that the URL of an image names

The URL of an absolute path is one of a file. Its path, with the escapes undone, is the path of the image but for parts that
are no step. The URL has no character that ends a path or a value, so nothing of it is read as something else, and only paths
with the same steps have the same URL.
-/

namespace FigureGallery

namespace Path

variable {p : Path}

/-- A part of a path is written as the step that it stands for. -/
lemma written_of_mem_steps {c : Component} (mem : c ∈ p.steps) :
    '/' ∉ c.written ∧ isIdle c.written = false ∧ component? c.written = some c := by
  obtain ⟨notRoot, notHere⟩ := ne_of_mem_steps mem
  cases c with
  | root => exact absurd rfl notRoot
  | here => exact absurd rfl notHere
  | up => exact ⟨by decide, by decide, rfl⟩
  | name s =>
    have plain : Plain s.toList := plain_of_name_mem (by rw [components_eq]; exact List.mem_append_right _ mem)
    exact ⟨plain.no_slash, plain.not_idle, by simpa [Component.written] using plain.component?⟩

lemma components_of_isAbsolute (absolute : p.isAbsolute) : p.components = .root :: p.steps := by
  rw [components_eq, isAbsolute_iff_split.mp absolute]
  rfl

/-- An absolute path without its idle parts. -/
def tidied (p : Path) : Path :=
  .ofSplit .root (p.steps.map Component.written)

/-- Without its idle parts a path is the same. -/
lemma components_tidied (absolute : p.isAbsolute) : p.tidied.components = p.components := by
  have steps := filterMap_map_written fun c mem => (@written_of_mem_steps p c mem).2.2
  rw [tidied, components_ofSplit, steps, components_of_isAbsolute absolute]
  · rfl
  · exact List.forall_mem_map.mpr fun c mem => (written_of_mem_steps mem).1
  · simp

/-- Joined parts behind a slash have a slash in front of each. -/
lemma cons_joinSegments {ss : List (List Char)} (h : ss ≠ []) :
    '/' :: joinSegments ss = ss.flatMap fun s => '/' :: s := by
  induction ss with
  | nil => exact absurd rfl h
  | cons s ss ih =>
    obtain rfl | rest := eq_or_ne ss []
    · simp
    · rw [joinSegments_cons s rest, ih rest, List.flatMap_cons, List.cons_append]

end Path

namespace Html

open FigureGallery.Path

variable {p q : Path}

/-- The path of a URL of a file: what stands behind the host, which is empty, up to a query or a fragment. -/
def filePath? (url : List Char) : Option (List Char) :=
  match "file://".toList.isPrefixOf? url with
  | some ('/' :: rest) => some ('/' :: rest.takeWhile fun c => c != '?' && c != '#')
  | _ => none

/-- Whether a character is one of ASCII that shows, and neither starts a query or a fragment nor is a quotation mark or an
angle bracket. -/
def isClean (c : Char) : Bool :=
  0x20 < c.toNat && c.toNat < 0x7F && !(['#', '?', '"', '<', '>'].contains c)

lemma isClean_iff {c : Char} : isClean c ↔
    (0x20 < c.toNat ∧ c.toNat < 0x7F) ∧ c ≠ '#' ∧ c ≠ '?' ∧ c ≠ '"' ∧ c ≠ '<' ∧ c ≠ '>' := by
  simp [isClean]

/-- What may stand in a segment without an escape is clean. -/
lemma isClean_of_isSegmentChar {c : Char} (may : isSegmentChar c) : isClean c := by
  simp only [isSegmentChar, Bool.and_eq_true, decide_eq_true_eq, Bool.not_eq_true', List.contains_eq_mem,
    decide_eq_false_iff_not] at may
  obtain ⟨shows, free⟩ := may
  refine isClean_iff.mpr ⟨shows, ?_, ?_, ?_, ?_, ?_⟩ <;> rintro rfl <;> exact free (by decide)

/-- A text is the URL of an image when it is that of a file whose path, with the escapes undone, is the path of the image,
and when all its characters are clean. -/
structure IsUrlOf (url : List Char) (image : Path) : Prop where
  path : ∃ (path : List Char) (p : Path), filePath? url = some path ∧ Uri.decode path = p.text.toUTF8.toList ∧ p.same image
  clean : ∀ c ∈ url, isClean c

/-- A text is the URL of one image only. -/
lemma IsUrlOf.same {url : List Char} (first : IsUrlOf url p) (second : IsUrlOf url q) : p.same q := by
  obtain ⟨path, own, found, bytes, same⟩ := first.path
  obtain ⟨path', own', found', bytes', same'⟩ := second.path
  obtain rfl := Option.some.inj (found.symm.trans found')
  have texts : own.text.toList = own'.text.toList := by
    rw [← Text.decodeLossy_toUTF8, ← Text.decodeLossy_toUTF8, ← bytes, bytes']
  obtain rfl : own = own' := Path.mk.injEq _ _ ▸ String.toList_inj.mp texts
  exact same_iff.mpr ((same_iff.mp same).symm.trans (same_iff.mp same'))

/-- The path of the URL of an image. -/
def urlPath (p : Path) : List Char :=
  if p.steps = [] then ['/'] else p.steps.flatMap segmentOf

lemma imageUrl_eq (absolute : p.isAbsolute) : imageUrl p = "file://".toList ++ urlPath p := by
  rw [imageUrl, if_pos absolute, components_of_isAbsolute absolute, List.drop_one, List.tail_cons, urlPath]
  cases p.steps <;> rfl

lemma segmentOf_eq {c : Component} (mem : c ∈ p.steps) :
    segmentOf c = '/' :: Uri.encode isSegmentChar (String.ofList c.written) := by
  obtain ⟨notRoot, notHere⟩ := ne_of_mem_steps mem
  cases c with
  | root => exact absurd rfl notRoot
  | here => exact absurd rfl notHere
  | up => rfl
  | name s => rw [segmentOf, Component.written, String.ofList_toList]

/-- The escapes of a URL undone give the path without its idle parts. -/
lemma decode_urlPath (p : Path) : Uri.decode (urlPath p) = p.tidied.text.toUTF8.toList := by
  have parts (cs : List Component) (all : ∀ c ∈ cs, c ∈ p.steps) : Uri.decode (cs.flatMap segmentOf) =
      (cs.flatMap fun c => '/' :: c.written).flatMap String.utf8EncodeChar := by
    induction cs with
    | nil => rfl
    | cons c cs ih =>
      obtain ⟨mem, all⟩ := List.forall_mem_cons.mp all
      rw [List.flatMap_cons, List.flatMap_cons, List.flatMap_append, segmentOf_eq mem, List.cons_append,
        Uri.decode_cons (by decide), (Uri.written_encode (by decide) _).decode_append, ih all, List.flatMap_cons,
        Text.toList_toUTF8, Text.toList_toUTF8, String.toList_ofList, String.toList_singleton, List.flatMap_singleton,
        List.append_assoc]
  rw [urlPath, Text.toList_toUTF8, tidied, ofSplit, String.toList_ofList]
  split
  · rename_i none
    rw [none, Uri.decode_cons (by decide), Text.toList_toUTF8, String.toList_singleton, List.map_nil, joinSegments_nil,
      Uri.decode, List.append_nil]
  · rename_i some
    rw [parts _ fun _ mem => mem, cons_joinSegments (by simpa using some), List.flatMap_map]

lemma exists_urlPath_eq_cons (p : Path) : ∃ rest, urlPath p = '/' :: rest := by
  rw [urlPath]
  split
  · exact ⟨[], rfl⟩
  · rename_i some
    obtain ⟨c, cs, e⟩ := List.exists_cons_of_ne_nil some
    have mem : c ∈ p.steps := by simp [e]
    rw [e, List.flatMap_cons, segmentOf_eq mem]
    exact ⟨_, rfl⟩

/-- Steps are written with clean characters. -/
lemma isClean_of_mem_encode {text : String} : ∀ c ∈ Uri.encode isSegmentChar text, isClean c := by
  intro c mem
  have digits : ∀ n < 16, isClean (Text.upperHexDigit n) := by decide
  obtain keep | rfl | ⟨n, small, rfl⟩ := (Uri.written_encode (by decide) text).forall_mem c mem
  · exact isClean_of_isSegmentChar keep
  · decide
  · exact digits n small

lemma isClean_of_mem_urlPath {c : Char} (mem : c ∈ urlPath p) : isClean c := by
  rw [urlPath] at mem
  split at mem
  · obtain rfl := List.mem_singleton.mp mem
    decide
  · obtain ⟨step, step_mem, mem⟩ := List.mem_flatMap.mp mem
    rw [segmentOf_eq step_mem] at mem
    obtain rfl | mem := List.mem_cons.mp mem
    · decide
    · exact isClean_of_mem_encode c mem

/-- What is written for an absolute path is the URL of the image. -/
lemma isUrlOf_imageUrl (absolute : p.isAbsolute) : IsUrlOf (imageUrl p) p := by
  rw [imageUrl_eq absolute]
  refine ⟨⟨urlPath p, p.tidied, ?_, decode_urlPath p, same_iff.mpr (components_tidied absolute)⟩, ?_⟩
  · obtain ⟨rest, e⟩ := exists_urlPath_eq_cons p
    have whole : rest.takeWhile (fun c => c != '?' && c != '#') = rest := by
      refine List.takeWhile_eq_self_iff.mpr fun c mem => ?_
      have clean : isClean c := isClean_of_mem_urlPath (p := p) (by rw [e]; exact List.mem_cons_of_mem _ mem)
      obtain ⟨_, hash, question, _⟩ := isClean_iff.mp clean
      simp [hash, question]
    rw [filePath?, e, List.isPrefixOf?_eq_some_iff_append_eq.mpr rfl]
    exact congrArg (fun behind => some ('/' :: behind)) whole
  · have scheme : ∀ c ∈ "file://".toList, isClean c := List.all_eq_true.mp (by decide +kernel)
    exact List.forall_mem_append.mpr ⟨scheme, fun c mem => isClean_of_mem_urlPath mem⟩

/-- Paths with the same steps have the same URL. -/
lemma imageUrl_congr (absolute : p.isAbsolute) (same : p.same q) : imageUrl q = imageUrl p := by
  have comps := same_iff.mp same
  have absolute' : q.isAbsolute := by rwa [← isAbsolute_congr comps]
  rw [imageUrl_eq absolute, imageUrl_eq absolute', urlPath, urlPath, (split_congr comps).2]

end Html

end FigureGallery
