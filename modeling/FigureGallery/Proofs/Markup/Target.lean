import FigureGallery.Proofs.Markup.Directive
import FigureGallery.Root.Search

/-!
# Directives from left to right

A text is read for directives from left to right: the first directive from an offset on is taken, and reading goes on
behind its closing quote. The targets of a text are those of the directives that are taken. No two of these overlap, and a
directive that is not taken starts inside of one that is.
-/

namespace FigureGallery.Markup.Directive

open Text

/-- A directive, from its hash to its closing quote: what is in the quotes is not empty and may run over line breaks. -/
def IsDirective (target directive : List Char) : Prop :=
  ∃ start, IsStart start ∧ target ≠ [] ∧ '"' ∉ target ∧ directive = start ++ target ++ ['"']

/-- A directive of a text that starts at one offset and ends at another. -/
structure Span where
  start : Nat
  stop : Nat
  target : List Char
deriving DecidableEq

/-- A directive is written in a text from one offset to another. -/
def Stands (text : List Char) (span : Span) : Prop :=
  ∃ pre directive post, text = pre ++ (directive ++ post) ∧ IsDirective span.target directive ∧
    span.start = byteLength pre ∧ span.stop = byteLength (pre ++ directive)

/-- Reading a text for directives from an offset on. -/
inductive Reads (text : List Char) : Nat → List Span → Prop where
  /-- No directive is left. -/
  | done {offset} :
    (∀ span, Stands text span → span.start < offset) →
    Reads text offset []
  /-- The first directive that is left is taken, and reading goes on behind it. -/
  | take {offset span spans} :
    Stands text span →
    offset ≤ span.start →
    (∀ other, Stands text other → offset ≤ other.start → span.start ≤ other.start) →
    Reads text span.stop spans →
    Reads text offset (span :: spans)

variable {text pre post target directive rest : List Char} {span other : Span} {spans : List Span} {offset later : Nat}

/-- A text starts with a directive when it is this directive and a rest. -/
lemma directive?_eq_some_iff_isDirective :
    directive? text = some (target, rest) ↔ ∃ directive, IsDirective target directive ∧ text = directive ++ rest := by
  rw [directive?_eq_some_iff]
  constructor
  · intro ⟨start, is, nonempty, bare, e⟩
    exact ⟨start ++ target ++ ['"'], ⟨start, is, nonempty, bare, rfl⟩, by simpa using e⟩
  · intro ⟨_, ⟨start, is, nonempty, bare, rfl⟩, e⟩
    exact ⟨start, is, nonempty, bare, by simpa using e⟩

/-- No directive is empty. -/
lemma IsDirective.length_pos (is : IsDirective target directive) : 0 < byteLength directive := by
  obtain ⟨start, _, _, _, rfl⟩ := is
  rw [byteLength_append]
  exact Nat.add_pos_right _ (by decide)

/-- What stands at a cut is the directive that the text behind the cut starts with. -/
lemma stands_iff_of_cut (cut : span.start = byteLength pre) :
    Stands (pre ++ post) span ↔ ∃ directive rest, IsDirective span.target directive ∧ post = directive ++ rest ∧
      span.stop = byteLength (pre ++ directive) := by
  constructor
  · intro ⟨pre', directive, rest, e, is, start, stop⟩
    obtain ⟨rfl, rfl⟩ := eq_of_byteLength_eq e (cut.symm.trans start)
    exact ⟨directive, rest, is, rfl, stop⟩
  · intro ⟨directive, rest, is, e, stop⟩
    exact ⟨pre, directive, rest, by rw [e], is, cut, stop⟩

/-- At one place stands one directive. -/
lemma Stands.eq (stands : Stands text span) (stands' : Stands text other) (same : span.start = other.start) :
    span = other := by
  obtain ⟨pre, directive, rest, rfl, is, start, stop⟩ := stands
  obtain ⟨directive', rest', is', e, stop'⟩ := (stands_iff_of_cut (same.symm.trans start)).mp stands'
  have found : directive? (directive ++ rest) = some (span.target, rest) :=
    directive?_eq_some_iff_isDirective.mpr ⟨directive, is, rfl⟩
  have found' := directive?_eq_some_iff_isDirective.mpr ⟨directive', is', e⟩
  obtain ⟨target, rfl⟩ := Prod.mk.inj (Option.some.inj (found.symm.trans found'))
  obtain rfl := List.append_cancel_right e
  cases span
  cases other
  exact Span.mk.injEq .. ▸ ⟨same, stop.trans stop'.symm, target⟩

lemma Stands.start_lt_stop (stands : Stands text span) : span.start < span.stop := by
  obtain ⟨pre, directive, rest, _, is, start, stop⟩ := stands
  have := is.length_pos
  rw [start, stop, byteLength_append]
  omega

namespace Reads

/-- Where no directive starts, reading may begin further right. -/
lemma earlier (reads : Reads text later spans) (le : offset ≤ later)
    (none : ∀ span, Stands text span → offset ≤ span.start → later ≤ span.start) : Reads text offset spans := by
  cases reads with
  | done before =>
    apply Reads.done
    intro span stands
    by_contra behind
    exact Nat.not_le.mpr (before span stands) (none span stands (Nat.le_of_not_lt behind))
  | take stands behind first reads =>
    exact .take stands (le.trans behind) (fun other stands' behind' => first other stands' (none other stands' behind')) reads

/-- A text is read in one way. -/
lemma unique {spans' : List Span} (reads : Reads text offset spans) (reads' : Reads text offset spans') :
    spans = spans' := by
  induction reads generalizing spans' with
  | done before =>
    cases reads' with
    | done _ => rfl
    | take stands behind _ _ => exact absurd (before _ stands) (Nat.not_lt.mpr behind)
  | take stands behind first _ ih =>
    cases reads' with
    | done before => exact absurd (before _ stands) (Nat.not_lt.mpr behind)
    | take stands' behind' first' reads' =>
      obtain rfl := stands.eq stands' (Nat.le_antisymm (first _ stands' behind') (first' _ stands behind))
      rw [ih reads']

/-- Only directives of the text are taken, and none in front of where reading begins. -/
lemma stands (reads : Reads text offset spans) : ∀ span ∈ spans, Stands text span ∧ offset ≤ span.start := by
  induction reads with
  | done _ => simp
  | take here behind _ _ ih =>
    intro span mem
    cases mem with
    | head => exact ⟨here, behind⟩
    | tail _ mem =>
      obtain ⟨there, further⟩ := ih span mem
      exact ⟨there, behind.trans (here.start_lt_stop.le.trans further)⟩

/-- Each directive that is taken ends before the next one starts. -/
lemma pairwise (reads : Reads text offset spans) : spans.Pairwise fun a b => a.stop ≤ b.start := by
  induction reads with
  | done _ => exact .nil
  | take _ _ _ reads ih => exact .cons (fun span mem => (reads.stands span mem).2) ih

/-- A directive that is not taken starts inside of one that is. -/
lemma mem_or_inside (reads : Reads text offset spans) (there : Stands text other) (behind : offset ≤ other.start) :
    other ∈ spans ∨ ∃ span ∈ spans, span.start < other.start ∧ other.start < span.stop := by
  induction reads with
  | done before => exact absurd (before other there) (Nat.not_lt.mpr behind)
  | @take _ span spans here _ first _ ih =>
    obtain same | less := (first other there behind).eq_or_lt
    · obtain rfl := here.eq there same
      exact .inl List.mem_cons_self
    · by_cases inside : other.start < span.stop
      · exact .inr ⟨span, List.mem_cons_self, less, inside⟩
      · cases ih (Nat.le_of_not_lt inside) with
        | inl mem => exact .inl (List.mem_cons_of_mem _ mem)
        | inr found =>
          obtain ⟨span', mem, overlaps⟩ := found
          exact .inr ⟨span', List.mem_cons_of_mem _ mem, overlaps⟩

end Reads

/-- Behind any part of a text, the targets of the rest are those of the directives that are taken there. -/
lemma exists_reads (pre post : List Char) :
    ∃ spans, Reads (pre ++ post) (byteLength pre) spans ∧ targets post = spans.map Span.target := by
  induction length : post.length using Nat.strong_induction_on generalizing pre post with
  | _ n ih =>
    subst length
    cases found : directive? post with
    | some read =>
      obtain ⟨target, rest⟩ := read
      obtain ⟨directive, is, rfl⟩ := directive?_eq_some_iff_isDirective.mp found
      obtain ⟨spans, reads, e⟩ := ih _ (length_directive?_lt found) (pre ++ directive) rest rfl
      rw [List.append_assoc] at reads
      refine ⟨⟨byteLength pre, byteLength (pre ++ directive), target⟩ :: spans, ?_, ?_⟩
      · exact .take ⟨pre, directive, rest, rfl, is, rfl, rfl⟩ (Nat.le_refl _) (fun _ _ behind => behind) reads
      · rw [targets_of_some found, e, List.map_cons]
    | none =>
      -- No directive starts at the cut.
      have nothing : ∀ span, Stands (pre ++ post) span → span.start ≠ byteLength pre := by
        intro span stands cut
        obtain ⟨directive, rest, is, e, _⟩ := (stands_iff_of_cut cut).mp stands
        exact absurd (found.symm.trans (directive?_eq_some_iff_isDirective.mpr ⟨directive, is, e⟩)) (by simp)
      cases post with
      | nil =>
        refine ⟨[], .done fun span stands => ?_, by rw [targets_nil, List.map_nil]⟩
        obtain ⟨pre', directive, rest, e, _, start, _⟩ := id stands
        have := congrArg byteLength e
        have ne := nothing span stands
        simp only [List.append_nil, byteLength_append] at this
        omega
      | cons c cs =>
        obtain ⟨spans, reads, e⟩ := ih cs.length (by simp) (pre ++ [c]) cs rfl
        rw [List.append_assoc, List.singleton_append] at reads
        refine ⟨spans, reads.earlier (by simp) fun span stands behind => ?_, by rw [targets_cons found, e]⟩
        -- Whatever starts behind the cut starts behind the character there.
        have less := Nat.lt_of_le_of_ne behind (nothing span stands).symm
        obtain ⟨pre', directive, rest, e, _, start, _⟩ := stands
        rw [start] at less ⊢
        obtain ⟨d, mid, rfl, there⟩ := exists_eq_append_of_byteLength_lt e less
        obtain ⟨rfl, _⟩ := List.cons.inj there
        simp

/-- A text with a target has the start of a directive. -/
lemma startsIn_of_targets_ne_nil (nonempty : targets text ≠ []) : startsIn text := by
  obtain ⟨spans, reads, e⟩ := exists_reads [] text
  obtain ⟨span, mem⟩ := List.exists_mem_of_ne_nil spans fun empty => nonempty (by rw [e, empty, List.map_nil])
  obtain ⟨pre, directive, post, there, ⟨start, is, _, _, rfl⟩, _⟩ := (reads.stands span mem).1
  refine startsIn_iff.mpr ⟨pre, _, there, Option.isSome_iff_exists.mpr ⟨span.target ++ ['"'] ++ post, ?_⟩⟩
  exact opening?_eq_some_iff.mpr ⟨start, is, by simp⟩

/-- The targets of a text are those of the directives that reading it from left to right takes, which can be done in one
way. Each target is what stands in the quotes of a directive, without quotes and not empty. The directives that are taken
do not overlap, and every other directive starts inside of one of them. A text with a target has the start of a directive,
so that the search for a root document takes a document for one with directives whenever it includes anything. -/
theorem targets_of_reads (text : List Char) :
    ∃ spans, Reads text 0 spans ∧ (∀ other, Reads text 0 other → other = spans) ∧
      targets text = spans.map Span.target ∧
      spans.Pairwise (fun a b => a.stop ≤ b.start) ∧
      (∀ span ∈ spans, Stands text span) ∧
      (∀ other, Stands text other →
        other ∈ spans ∨ ∃ span ∈ spans, span.start < other.start ∧ other.start < span.stop) ∧
      (∀ target ∈ targets text, target ≠ [] ∧ '"' ∉ target) ∧
      (targets text ≠ [] → startsIn text) ∧
      ∀ source document, source.read document = .ok text → targets text ≠ [] → Root.hasDirective source document := by
  obtain ⟨spans, reads, e⟩ := exists_reads [] text
  refine ⟨spans, reads, fun other reads' => reads'.unique reads, e, reads.pairwise, fun span mem => (reads.stands span mem).1,
    fun other there => reads.mem_or_inside there (Nat.zero_le _), fun target mem => ?_, startsIn_of_targets_ne_nil,
    fun source document read nonempty => ?_⟩
  · rw [e] at mem
    obtain ⟨span, taken, rfl⟩ := List.mem_map.mp mem
    obtain ⟨_, _, _, _, ⟨_, _, nonempty, bare, _⟩, _⟩ := (reads.stands span taken).1
    exact ⟨nonempty, bare⟩
  · rw [Root.hasDirective, read]
    exact startsIn_of_targets_ne_nil nonempty

/-- After a directive without a target, one whose target runs to the quote of a third one that is not taken. -/
theorem targets_of_reads_inside :
    let text := "#include \"\" #import \"é #include \"x\"".toList
    targets text = ["é #include ".toList] ∧ Stands text ⟨24, 36, ['x']⟩ ∧
      ∃ span, Reads text 0 [span] ∧ span.start < 24 ∧ 24 < span.stop := by
  intro text
  obtain ⟨spans, reads, _, e, _, _, inside, _⟩ := targets_of_reads text
  have computed : targets text = ["é #include ".toList] := by decide +kernel
  have third : Stands text ⟨24, 36, ['x']⟩ :=
    ⟨"#include \"\" #import \"é ".toList, "#include \"x\"".toList, [], rfl,
      ⟨"#include \"".toList, ⟨"#include".toList, ' ', [], .inl rfl, rfl, by simp [IsBlank], rfl⟩, by simp, by decide, rfl⟩,
      by decide +kernel, by decide +kernel⟩
  obtain ⟨span, rfl, target⟩ := List.map_eq_singleton_iff.mp (e.symm.trans computed)
  refine ⟨computed, third, span, reads, ?_⟩
  cases inside _ third with
  | inl mem =>
    rw [← List.mem_singleton.mp mem] at target
    exact absurd target (by decide)
  | inr found =>
    obtain ⟨_, mem, overlaps⟩ := found
    obtain rfl := List.mem_singleton.mp mem
    exact overlaps

end FigureGallery.Markup.Directive
