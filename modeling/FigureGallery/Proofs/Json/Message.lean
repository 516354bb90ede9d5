import FigureGallery.Message
import FigureGallery.Proofs.Json.Range

/-!
# Messages on the wire

A message whose numbers have 64 bits is written on one line, and read back from it. The numbers of any message that was
read have 64 bits, so what is written for it is a normal form of all texts that stand for it.
-/

namespace FigureGallery

open Json

namespace Json

variable {j : Json} {names : List String} {fields : List (Option Json)}

/-- The fields of a record are values directly inside it. -/
lemma mem_parts_of_record? (read : j.record? names = some fields) {field : Json} (mem : some field ∈ fields) :
    field ∈ j.parts := by
  cases j with
  | object entries =>
    rw [record?] at read
    split at read
    · cases read
      obtain ⟨name, _, found⟩ := List.mem_map.mp mem
      obtain ⟨before, after, e, _⟩ := List.lookup_eq_some_iff.mp found
      exact List.mem_map.mpr ⟨(name, field), by simp [e], rfl⟩
    · cases read
  | array items =>
    rw [record?] at read
    split at read
    · cases read
      obtain ⟨i, _, found⟩ := List.mem_map.mp mem
      exact List.mem_of_getElem? found
    · cases read
  | null | bool | integer | real | string | valueless => cases read

/-- The content of a variant holds no value that the whole does not hold. -/
lemma every_inRange_of_variant? {key name : String} {outer : Nat} {content : Json} (range : Every InRange j)
    (read : j.variant? key outer = some (name, content)) : Every InRange content := by
  have inside := range.inside
  unfold variant? at read
  split at read
  · split at read
    · split at read
      · split at read
        · cases read
          refine .intro trivial (List.forall_mem_map.mpr fun e mem => ?_)
          exact inside e.2 (List.mem_map_of_mem (List.mem_filter.mp mem).1)
        · cases read
      · cases read
    · cases read
      exact .intro trivial fun part mem => inside part (List.mem_cons_of_mem _ mem)
    · cases read
  · cases read

lemma lt_of_nat? {part : Json} {n : Nat} (range : Every InRange j) (mem : part ∈ j.parts) (read : part.nat? = some n) :
    n < Width.capacity 64 := by
  have bounds := (range.inside part mem).holds
  cases part with
  | integer n =>
    simp only [nat?] at read
    split at read
    · rename_i positive
      cases read
      refine has64Bits_natCast.mp ?_
      rwa [Int.toNat_of_nonneg positive]
    · cases read
  | null | bool | real | string | valueless | array | object => cases read

lemma every_isExact_string (text : String) : Every IsExact (.string text) :=
  every_leaf rfl trivial

lemma every_isExact_nat {n : Nat} (fits : n < Width.capacity 64) : Every IsExact (.nat n) :=
  every_leaf rfl (has64Bits_natCast.mpr fits)

end Json

namespace Figure

variable {f : Figure} {j : Json}

/-- The numbers of a figure have 64 bits. -/
def Fits (f : Figure) : Prop :=
  f.line < Width.capacity 64 ∧ f.ordinal < Width.capacity 64

lemma every_isExact_toJson (fits : f.Fits) : Every IsExact f.toJson := by
  obtain ⟨line, ordinal⟩ := fits
  refine .intro trivial ?_
  simp [toJson, parts, every_isExact_string, every_isExact_nat line, every_isExact_nat ordinal]

lemma ofJson?_toJson (f : Figure) : ofJson? f.toJson = some f := by
  rfl

lemma isSound_toJson (figures : List Figure) : (Json.array (figures.map toJson)).isSound := by
  rw [isSound]
  induction figures with
  | nil => rfl
  | cons f figures ih =>
    rw [List.map_cons, itemsSound, ih]
    rfl

lemma depth_toJson (figures : List Figure) : (Json.array (figures.map toJson)).depth ≤ 2 := by
  rw [depth]
  induction figures with
  | nil => simp [depthOfItems]
  | cons f figures ih =>
    have flat : f.toJson.depth = 1 := rfl
    rw [List.map_cons, depthOfItems, flat]
    omega

lemma list?_toJson (figures : List Figure) : (Json.array (figures.map toJson)).list? ofJson? = some figures := by
  rw [list?]
  induction figures with
  | nil => rfl
  | cons f figures ih => rw [List.map_cons, List.mapM_cons, ofJson?_toJson, ih]; rfl

/-- The numbers of a figure that was read have 64 bits when the integers of its value have. -/
lemma fits_of_ofJson? (range : Every InRange j) (read : ofJson? j = some f) : f.Fits := by
  simp only [ofJson?, Option.bind_eq_bind] at read
  obtain ⟨fields, found, read⟩ := Option.bind_eq_some_iff.mp read
  split at read
  · rename_i line _ _ _ ordinal _
    simp only [Option.bind_eq_some_iff] at read
    obtain ⟨_, _, _, _, _, _, n, first, _, _, _, _, _, _, m, second, e⟩ := read
    cases e
    exact ⟨lt_of_nat? range (mem_parts_of_record? found (by simp)) first,
      lt_of_nat? range (mem_parts_of_record? found (by simp)) second⟩
  · cases read

lemma fits_of_list? {figures : List Figure} (range : Every InRange j) (read : j.list? ofJson? = some figures) :
    ∀ f ∈ figures, f.Fits := by
  have inside := range.inside
  clear range
  cases j with
  | array items =>
    rw [list?] at read
    rw [parts] at inside
    induction items generalizing figures with
    | nil =>
      cases read
      simp
    | cons item items ih =>
      rw [List.mapM_cons] at read
      obtain ⟨f, first, read⟩ := Option.bind_eq_some_iff.mp read
      obtain ⟨others, later, e⟩ := Option.bind_eq_some_iff.mp read
      cases e
      obtain ⟨here, behind⟩ := List.forall_mem_cons.mp inside
      exact List.forall_mem_cons.mpr ⟨fits_of_ofJson? here first, ih later behind⟩
  | null | bool | integer | real | string | valueless | object => cases read

end Figure

namespace Message

variable {m : Message} {j : Json}

/-- The numbers of a message have 64 bits. -/
def Fits : Message → Prop
  | .figureSetUpdated figures => ∀ f ∈ figures, f.Fits
  | .navigateRequested _ line => line < Width.capacity 64

lemma every_isExact_toJson (fits : m.Fits) : Every IsExact m.toJson := by
  cases m with
  | figureSetUpdated figures =>
    have all : Every IsExact (.array (figures.map Figure.toJson)) :=
      .intro trivial (List.forall_mem_map.mpr fun f mem => f.every_isExact_toJson (fits f mem))
    refine .intro trivial ?_
    simp [toJson, parts, every_isExact_string, all]
  | navigateRequested path line =>
    refine .intro trivial ?_
    simp [toJson, parts, every_isExact_string, every_isExact_nat fits]

lemma ofJson?_toJson (m : Message) : ofJson? m.toJson = some m := by
  cases m with
  | figureSetUpdated figures =>
    have shallow : (Message.figureSetUpdated figures).toJson.depth + 0 ≤ maxDepth := by
      have := Figure.depth_toJson figures
      simp only [toJson, depth, depthOfEntries, maxDepth] at this ⊢
      omega
    have sound : (Message.figureSetUpdated figures).toJson.isSound := by
      simp only [toJson, isSound, entriesSound, Bool.true_and, Bool.and_true]
      exact Figure.isSound_toJson figures
    have variant : (Message.figureSetUpdated figures).toJson.variant? "type" 0 =
        some ("FigureSetUpdated", .object [("figures", .array (figures.map Figure.toJson))]) := by
      unfold variant?
      rw [sound, decide_eq_true shallow]
      rfl
    have content : (Json.object [("figures", .array (figures.map Figure.toJson))]).record? ["figures"] =
        some [some (.array (figures.map Figure.toJson))] := by
      rfl
    simp [ofJson?, variant, content, Figure.list?_toJson]
  | navigateRequested path line => rfl

/-- The numbers of a message that was read have 64 bits when the integers of its value have. -/
lemma fits_of_ofJson? (range : Every InRange j) (read : ofJson? j = some m) : m.Fits := by
  simp only [ofJson?, Option.bind_eq_bind] at read
  obtain ⟨⟨name, content⟩, variant, read⟩ := Option.bind_eq_some_iff.mp read
  have inside := every_inRange_of_variant? range variant
  split at read
  · rename_i fieldsOf same
    cases same
    obtain ⟨fields, found, read⟩ := Option.bind_eq_some_iff.mp read
    split at read
    · rename_i value
      obtain ⟨figures, each, e⟩ := Option.bind_eq_some_iff.mp read
      cases e
      have field : value ∈ content.parts := mem_parts_of_record? found (by simp)
      exact Figure.fits_of_list? (inside.inside value field) each
    · cases read
  · rename_i fieldsOf same
    cases same
    obtain ⟨fields, found, read⟩ := Option.bind_eq_some_iff.mp read
    split at read
    · rename_i path value
      obtain ⟨_, _, read⟩ := Option.bind_eq_some_iff.mp read
      obtain ⟨line, number, e⟩ := Option.bind_eq_some_iff.mp read
      cases e
      have field : value ∈ content.parts := mem_parts_of_record? found (by simp)
      exact lt_of_nat? inside field number
    · cases read
  · cases read

/-- A message whose numbers have 64 bits is written on one line that stands for the message. The numbers of every message
that was read have 64 bits, so what is written for it is a normal form: it is on one line, stands for the same message,
and is the same for two texts only when they stand for the same message. -/
theorem toText_normal :
    (∀ m : Message, m.Fits → OneLine m.toText.toList ∧ ofText? m.toText = some m) ∧
      ∀ (text : String) (m : Message), ofText? text = some m →
        m.Fits ∧ OneLine m.toText.toList ∧ ofText? m.toText = some m ∧
          ∀ (other : String) (k : Message), ofText? other = some k → (k.toText = m.toText ↔ k = m) := by
  have written (m : Message) (fits : m.Fits) : OneLine m.toText.toList ∧ ofText? m.toText = some m := by
    have every := every_isExact_toJson fits
    rw [toText, Json.compact, ofText?, String.toList_ofList, parse_render every, Option.bind_some]
    exact ⟨oneLine_render every, ofJson?_toJson m⟩
  have known (text : String) (m : Message) (read : ofText? text = some m) : m.Fits := by
    obtain ⟨j, parsed, read⟩ := Option.bind_eq_some_iff.mp read
    exact fits_of_ofJson? (every_inRange_of_parse parsed) read
  refine ⟨written, fun text m read => ?_⟩
  obtain ⟨line, again⟩ := written m (known text m read)
  refine ⟨known text m read, line, again, fun other k readOther => ⟨fun e => ?_, fun e => by rw [e]⟩⟩
  obtain ⟨_, againOther⟩ := written k (known other k readOther)
  rw [e, again] at againOther
  exact (Option.some.inj againOther).symm

/-- A figure with a quotation mark, a line break and a character beyond the first plane, and a text with its fields in
another order, a tag at the end, an escaped character and an unknown field. -/
theorem toText_normal_escapes :
    let figure : Figure := ⟨"p.png", ⟨"/w/p.png"⟩, "\"a\\b\"\n\x01𝄞", 18446744073709551615, "m.typ", ⟨"/w/m.typ"⟩, "<f>", 1⟩
    let navigation : Message := .navigateRequested ⟨"/w/ä.typ"⟩ 3
    let text := "\x7b\"line\":3, \"seen\":[null,1.5],\n\"path\":\"/w/\\u00e4.typ\", \"type\":\"NavigateRequested\"\x7d"
    (Message.figureSetUpdated [figure]).Fits ∧
      OneLine (Message.figureSetUpdated [figure]).toText.toList ∧
      ofText? (Message.figureSetUpdated [figure]).toText = some (.figureSetUpdated [figure]) ∧
      ofText? text = some navigation ∧ ofText? navigation.toText = some navigation ∧
      ((Message.figureSetUpdated [figure]).toText = navigation.toText ↔ .figureSetUpdated [figure] = navigation) := by
  intro figure navigation text
  have fits : (Message.figureSetUpdated [figure]).Fits := by
    intro f mem
    cases List.mem_singleton.mp mem
    exact ⟨by decide, by decide⟩
  have read : ofText? text = some navigation := by decide +kernel
  obtain ⟨line, again⟩ := toText_normal.1 (.figureSetUpdated [figure]) fits
  obtain ⟨_, _, normal, apart⟩ := toText_normal.2 text navigation read
  exact ⟨fits, line, again, read, normal, apart _ _ again⟩

end Message

end FigureGallery
