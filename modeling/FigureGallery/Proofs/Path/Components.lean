import FigureGallery.Proofs.Path.Segments

/-!
# Components of a path

The components of a path are the step that its beginning stands for and the steps of its parts. They can be read off
the whole text, so that the components of a path that is put together from two are those of the first and the steps of
the second. The directory of a path has all components but the last.
-/

namespace FigureGallery.Path

/-- The steps of a path, the beginning aside. -/
def steps (p : Path) : List Component :=
  (segments p.text.toList).filterMap component?

@[simp]
lemma component?_nil : component? [] = none := rfl

@[simp]
lemma component?_dot : component? ['.'] = none := rfl

@[simp]
lemma component?_dots : component? ['.', '.'] = some .up := rfl

/-- An idle part is no step. -/
lemma component?_eq_none {s : List Char} : component? s = none ↔ isIdle s := by
  unfold component?
  cases isIdle s <;> simp
  split <;> simp

/-- A plain part is a name. -/
lemma Plain.component? {s : List Char} (plain : Plain s) : component? s = some (.name (String.ofList s)) := by
  simp [Path.component?, plain.not_idle, plain.not_up]

/-- A plain name is a relative path. -/
lemma Plain.not_isAbsolute {name : String} (plain : Plain name.toList) : ¬ (⟨name⟩ : Path).isAbsolute := by
  intro absolute
  exact plain.no_slash (List.mem_of_mem_head? (by simpa [isAbsolute] using absolute))

/-- A plain name is a path with one step. -/
lemma Plain.steps {name : String} (plain : Plain name.toList) : (⟨name⟩ : Path).steps = [.name name] := by
  rw [Path.steps, segments_of_notMem plain.no_slash, List.filterMap_cons_some plain.component?, String.ofList_toList]
  rfl

/-- A step of a part is `..` or a name. -/
lemma component?_ne {s : List Char} {c : Component} (h : component? s = some c) : c ≠ .root ∧ c ≠ .here := by
  unfold Path.component? at h
  split at h
  · simp at h
  · split at h <;> obtain rfl := Option.some.inj h <;> simp

/-- A name is written as a plain part. -/
lemma plain_of_component? {s : List Char} {t : String} (h : component? s = some (.name t)) (noSlash : '/' ∉ s) :
    Plain s ∧ t = String.ofList s := by
  unfold Path.component? at h
  split at h
  · simp at h
  · rename_i not_idle
    split at h
    · simp at h
    · rename_i not_up
      injection h with h
      injection h with h
      exact ⟨⟨by simpa using not_idle, not_up, noSlash⟩, h.symm⟩

/-- No step is a beginning. -/
lemma ne_of_mem_steps {p : Path} {c : Component} (mem : c ∈ p.steps) : c ≠ .root ∧ c ≠ .here := by
  obtain ⟨s, _, h⟩ := List.mem_filterMap.mp mem
  exact component?_ne h

/-- The ways in which a text begins, with the parts that follow. -/
lemma split_cases (p : Path) :
    (∃ cs, p.text.toList = '/' :: cs ∧ p.split = (.root, segments cs)) ∨
    (p.text.toList.head? ≠ some '/' ∧ ∃ ss, segments p.text.toList = ['.'] :: ss ∧ p.split = (.here, ss)) ∨
    (p.text.toList.head? ≠ some '/' ∧ (segments p.text.toList).head? ≠ some ['.'] ∧
      p.split = (.free, segments p.text.toList)) := by
  rcases e : p.text.toList with _ | ⟨c, cs⟩
  · exact .inr (.inr ⟨by simp, by simp [segments], by simp [split, e, segments]⟩)
  · by_cases hc : c = '/'
    · subst hc
      exact .inl ⟨cs, rfl, by simp [split, e]⟩
    · obtain ⟨s, ss, hs⟩ := List.exists_cons_of_ne_nil (segments_ne_nil (c :: cs))
      by_cases hdot : s = ['.']
      · subst hdot
        refine .inr (.inl ⟨by simpa using hc, ss, hs, ?_⟩)
        rw [split, e]
        split
        · rename_i h
          exact absurd (List.cons.inj h).1 hc
        · simp only [hs]
      · refine .inr (.inr ⟨by simpa using hc, by simpa [hs] using hdot, ?_⟩)
        rw [split, e]
        split
        · rename_i h
          exact absurd (List.cons.inj h).1 hc
        · split
          · rename_i h
            exact absurd (List.cons.inj (hs.symm.trans h)).1 hdot
          · rfl

/-- The components are the beginning and the steps. -/
lemma components_eq (p : Path) : p.components = p.split.1.components ++ p.steps := by
  unfold components steps
  obtain ⟨cs, e, h⟩ | ⟨_, ss, e, h⟩ | ⟨_, _, h⟩ := split_cases p
  · rw [h, e, segments, if_pos rfl, List.filterMap_cons_none component?_nil]
  · rw [h, e, List.filterMap_cons_none component?_dot]
  · rw [h]

/-- An absolute path begins at the top. -/
lemma isAbsolute_iff_split {p : Path} : p.isAbsolute ↔ p.split.1 = .root := by
  unfold isAbsolute
  obtain ⟨cs, e, h⟩ | ⟨e, ss, _, h⟩ | ⟨e, _, h⟩ := split_cases p
  · simp [h, e]
  · simpa [h] using e
  · simpa [h] using e

/-- A beginning is among the components when it is that of the path. -/
lemma split_fst_iff {p : Path} :
    (p.split.1 = .root ↔ .root ∈ p.components) ∧ (p.split.1 = .here ↔ .here ∈ p.components) := by
  have root : .root ∉ p.steps := fun mem => (ne_of_mem_steps mem).1 rfl
  have here' : .here ∉ p.steps := fun mem => (ne_of_mem_steps mem).2 rfl
  rw [components_eq, List.mem_append, List.mem_append]
  cases p.split.1 <;> simp [Lead.components, root, here']

/-- An absolute path has the top among its components. -/
lemma isAbsolute_iff {p : Path} : p.isAbsolute ↔ .root ∈ p.components :=
  isAbsolute_iff_split.trans split_fst_iff.1

/-- Paths with the same components are the same. -/
@[simp]
lemma same_iff {p q : Path} : p.same q ↔ p.components = q.components := by
  simp [same]

/-- Paths with the same components are both absolute or both relative. -/
lemma isAbsolute_congr {p q : Path} (h : p.components = q.components) : p.isAbsolute = q.isAbsolute := by
  rw [Bool.eq_iff_iff, isAbsolute_iff, isAbsolute_iff, h]

/-- Paths with the same components have the same beginning and the same steps. -/
lemma split_congr {p q : Path} (h : p.components = q.components) : p.split.1 = q.split.1 ∧ p.steps = q.steps := by
  have lead : p.split.1 = q.split.1 := by
    have root : p.split.1 = .root ↔ q.split.1 = .root := by rw [split_fst_iff.1, split_fst_iff.1, h]
    have here' : p.split.1 = .here ↔ q.split.1 = .here := by rw [split_fst_iff.2, split_fst_iff.2, h]
    cases hp : p.split.1 <;> cases hq : q.split.1 <;> simp_all
  rw [components_eq, components_eq, lead] at h
  exact ⟨lead, List.append_cancel_left h⟩

/-- The beginning of a text. -/
def leadOf (cs : List Char) : Lead :=
  if cs.head? = some '/' then .root
  else if (segments cs).head? = some ['.'] then .here
  else .free

/-- The beginning of a path is that of its text. -/
lemma split_fst (p : Path) : p.split.1 = leadOf p.text.toList := by
  unfold leadOf
  obtain ⟨cs, e, h⟩ | ⟨e, ss, hs, h⟩ | ⟨e, hs, h⟩ := split_cases p
  · rw [h, if_pos (by rw [e, List.head?_cons])]
  · rw [h, if_neg e, if_pos (by rw [hs, List.head?_cons])]
  · rw [h, if_neg e, if_neg hs]

/-- What follows a slash does not change how a text begins. -/
lemma leadOf_append_slash {a : List Char} (h : a ≠ []) (b : List Char) : leadOf (a ++ '/' :: b) = leadOf a := by
  obtain ⟨c, cs, rfl⟩ := List.exists_cons_of_ne_nil h
  obtain ⟨s, ss, e⟩ := List.exists_cons_of_ne_nil (segments_ne_nil (c :: cs))
  have e' : (segments (c :: cs ++ '/' :: b)).head? = (segments (c :: cs)).head? := by
    rw [segments_append_slash, e, List.cons_append, List.head?_cons, List.head?_cons]
  unfold leadOf
  rw [e', List.cons_append, List.head?_cons, List.head?_cons]

/-- From the empty path a path is seen as it is. -/
lemma join_of_text_eq {p : Path} (h : p.text = "") (q : Path) : p.join q = q := by
  simp [join, h]

/-- An absolute path stands alone. -/
lemma join_of_isAbsolute (p : Path) {q : Path} (h : q.isAbsolute) : p.join q = q := by
  rw [join, if_pos h]

/-- A relative path is seen from a directory behind a slash. -/
lemma join_cases {p q : Path} (hp : p.text ≠ "") (hq : ¬ q.isAbsolute) :
    ∃ a, a ++ ['/'] = p.text.toList ∧ (p.join q).text.toList = a ++ '/' :: q.text.toList ∨
      a = p.text.toList ∧ (p.join q).text.toList = a ++ '/' :: q.text.toList := by
  obtain e | ⟨a, c, e⟩ := List.eq_nil_or_concat p.text.toList
  · exact absurd (String.toList_eq_nil_iff.mp e) hp
  rw [List.concat_eq_append] at e
  by_cases hc : c = '/'
  · subst hc
    refine ⟨a, .inl ⟨e.symm, ?_⟩⟩
    simp [join, hq, e]
  · refine ⟨p.text.toList, .inr ⟨rfl, ?_⟩⟩
    simp [join, hq, e, hc]

/-- The components of a relative path as seen from a directory. -/
lemma components_join {p q : Path} (hp : p.text ≠ "") (hq : ¬ q.isAbsolute) :
    (p.join q).components = p.components ++ q.steps := by
  have lead : (p.join q).split.1 = p.split.1 ∧ (p.join q).steps = p.steps ++ q.steps := by
    rw [split_fst, split_fst, steps, steps, steps]
    obtain ⟨a, ⟨e, h⟩ | ⟨e, h⟩⟩ := join_cases hp hq
    · rw [h, ← e]
      refine ⟨?_, by simp [segments_append_slash, segments]⟩
      by_cases ha : a = []
      · simp [ha, leadOf]
      · rw [leadOf_append_slash ha, leadOf_append_slash ha]
    · rw [h, e, segments_append_slash, List.filterMap_append]
      exact ⟨leadOf_append_slash (mt String.toList_eq_nil_iff.mp hp) _, rfl⟩
  rw [components_eq, components_eq, lead.1, lead.2, List.append_assoc]

/-- Only the empty path has no components. -/
lemma components_eq_nil {p : Path} : p.components = [] ↔ p.text = "" := by
  constructor
  · intro h
    rw [components_eq, List.append_eq_nil_iff, split_fst] at h
    obtain ⟨lead, steps⟩ := h
    by_contra ne
    obtain ⟨c, cs, e⟩ := List.exists_cons_of_ne_nil (mt String.toList_eq_nil_iff.mp ne)
    rw [Path.steps, e] at steps
    rw [e] at lead
    obtain ⟨s, ss, hs⟩ := List.exists_cons_of_ne_nil (segments_ne_nil (c :: cs))
    rw [hs] at steps
    -- The first part is idle but neither empty, as the text starts with no slash, nor a dot.
    have idle : isIdle s := by
      rw [← component?_eq_none]
      by_contra h
      obtain ⟨d, hd⟩ := Option.ne_none_iff_exists'.mp h
      simp [hd] at steps
    have not_root : c ≠ '/' := by
      rintro rfl
      simp [leadOf, Lead.components] at lead
    obtain ⟨t, ts, ht⟩ := List.exists_cons_of_ne_nil (segments_ne_nil cs)
    rw [segments_cons not_root ht] at hs
    obtain ⟨rfl, rfl⟩ := List.cons_eq_cons.mp hs
    have dot : c :: t = ['.'] := by simpa [isIdle] using idle
    rw [leadOf, List.head?_cons, if_neg (by simpa using not_root), segments_cons not_root ht, List.head?_cons,
      if_pos (by rw [dot])] at lead
    simp [Lead.components] at lead
  · intro h
    simp [components, split, h, segments, Lead.components]

/-- A plain name is its only component. -/
lemma Plain.components {name : String} (plain : Plain name.toList) : (⟨name⟩ : Path).components = [.name name] := by
  have lead : leadOf name.toList = .free := by
    have relative := plain.not_isAbsolute
    have not_dot : name.toList ≠ ['.'] := fun e => absurd plain.not_idle (by simp [e, isIdle])
    rw [leadOf, if_neg (by simpa [isAbsolute] using relative), segments_of_notMem plain.no_slash, List.head?_cons,
      if_neg (by simpa using not_dot)]
  rw [components_eq, plain.steps, split_fst, lead]
  rfl

/-- A plain name becomes the last component of what is seen from a directory. -/
lemma Plain.components_join {name : String} (plain : Plain name.toList) (p : Path) :
    (p.join ⟨name⟩).components = p.components ++ [.name name] := by
  by_cases empty : p.text = ""
  · rw [join_of_text_eq empty, plain.components, components_eq_nil.mpr empty, List.nil_append]
  · rw [Path.components_join empty plain.not_isAbsolute, plain.steps]

/-- A relative path is seen as an absolute one just from an absolute directory. -/
lemma isAbsolute_join_of_relative {p q : Path} (hp : p.text ≠ "") (relative : ¬ q.isAbsolute) :
    (p.join q).isAbsolute = p.isAbsolute := by
  rw [Bool.eq_iff_iff, isAbsolute_iff, isAbsolute_iff, components_join hp relative, List.mem_append, or_iff_left]
  exact fun mem => (ne_of_mem_steps mem).1 rfl

/-- What is seen from an absolute directory is absolute. -/
lemma isAbsolute_join {p : Path} (h : p.isAbsolute) (q : Path) : (p.join q).isAbsolute := by
  by_cases hq : q.isAbsolute
  · rwa [join_of_isAbsolute p hq]
  · have not_empty : p.text ≠ "" := by
      intro e
      simp [isAbsolute, e] at h
    rw [isAbsolute_join_of_relative not_empty hq, h]

/-- A path is seen the same from directories with the same components. -/
lemma components_join_congr {p p' : Path} (h : p.components = p'.components) (q : Path) :
    (p.join q).components = (p'.join q).components := by
  by_cases hq : q.isAbsolute
  · rw [join_of_isAbsolute p hq, join_of_isAbsolute p' hq]
  · by_cases hp : p.text = ""
    · have hp' : p'.text = "" := by rwa [← components_eq_nil, ← h, components_eq_nil]
      rw [join_of_text_eq hp, join_of_text_eq hp']
    · have hp' : p'.text ≠ "" := by rwa [ne_eq, ← components_eq_nil, ← h, components_eq_nil]
      rw [components_join hp hq, components_join hp' hq, h]

/-- Joined parts of which the first one is not idle have no beginning of their own. -/
lemma leadOf_joinSegments {s : List Char} {ss : List (List Char)} (not_idle : isIdle s = false)
    (noSlash : ∀ t ∈ s :: ss, '/' ∉ t) : leadOf (joinSegments (s :: ss)) = .free := by
  have not_dot : s ≠ ['.'] := by
    rintro rfl
    exact absurd not_idle (by decide)
  have not_nil : s ≠ [] := by
    rintro rfl
    exact absurd not_idle (by decide)
  have not_root : (joinSegments (s :: ss)).head? ≠ some '/' := by
    obtain ⟨c, cs, rfl⟩ := List.exists_cons_of_ne_nil not_nil
    rw [head?_joinSegments, ne_eq, Option.some.injEq]
    rintro rfl
    exact noSlash _ List.mem_cons_self List.mem_cons_self
  rw [leadOf, if_neg not_root, segments_joinSegments (by simp) noSlash, List.head?_cons, if_neg (by simpa using not_dot)]

/-- The components of a path that is put together from a beginning and parts. -/
lemma components_ofSplit (lead : Lead) {ss : List (List Char)} (noSlash : ∀ s ∈ ss, '/' ∉ s)
    (first : lead = .free → ∀ s ∈ ss.head?, isIdle s = false) :
    (ofSplit lead ss).components = lead.components ++ ss.filterMap component? := by
  have parts {l : List (List Char)} (h : l = segments (joinSegments ss)) :
      l.filterMap component? = ss.filterMap component? := by
    by_cases e : ss = []
    · subst e; subst h; rfl
    · rw [h, segments_joinSegments e noSlash]
  rw [components_eq, split_fst, steps]
  cases lead with
  | root =>
    -- The slash at the start gives one part more, which is idle.
    rw [ofSplit, String.toList_ofList, segments, if_pos rfl, List.filterMap_cons_none component?_nil, parts rfl]
    rfl
  | here =>
    cases ss with
    | nil => decide
    | cons s ss =>
      have e : '.' :: '/' :: joinSegments (s :: ss) = ['.'] ++ '/' :: joinSegments (s :: ss) := rfl
      rw [ofSplit, String.toList_ofList, e, leadOf_append_slash (by simp), segments_append_slash,
        List.filterMap_append, parts rfl]
      · rfl
      · simp
  | free =>
    rw [ofSplit, String.toList_ofList, parts rfl]
    cases ss with
    | nil => rfl
    | cons s ss =>
      rw [leadOf_joinSegments (first rfl s (by simp)) noSlash]

/-- Parts that are all idle are no steps. -/
lemma filterMap_component?_idle {idle : List (List Char)} (h : ∀ s ∈ idle, isIdle s) :
    idle.filterMap component? = [] :=
  List.filterMap_eq_nil_iff.mpr fun s mem => component?_eq_none.mpr (h s mem)

/-- Parts and trimmed parts have the same steps. -/
lemma filterMap_trimIdle (ss : List (List Char)) :
    (trimIdle ss).filterMap component? = ss.filterMap component? := by
  obtain ⟨idle, e, h⟩ := eq_trimIdle_append ss
  calc (trimIdle ss).filterMap component?
    _ = (trimIdle ss ++ idle).filterMap component? := by
      rw [List.filterMap_append, filterMap_component?_idle h, List.append_nil]
    _ = ss.filterMap component? := by rw [← e]

/-- Parts without a slash; the first one of a relative path is not idle unless the path is empty. -/
lemma split_parts (p : Path) : (∀ s ∈ p.split.2, '/' ∉ s) ∧
    (p.split.1 = .free → p.split.2 = [[]] ∨ ∀ s ∈ p.split.2.head?, isIdle s = false) := by
  obtain ⟨cs, e, h⟩ | ⟨e, ss, hs, h⟩ | ⟨e, hs, h⟩ := split_cases p
  · rw [h]
    exact ⟨fun s => notMem_of_mem_segments, by simp⟩
  · rw [h]
    exact ⟨fun s mem => notMem_of_mem_segments (hs ▸ List.mem_cons_of_mem _ mem), by simp⟩
  · rw [h]
    refine ⟨fun s => notMem_of_mem_segments, fun _ => ?_⟩
    rcases ht : p.text.toList with _ | ⟨c, cs⟩
    · exact .inl rfl
    · right
      have hc : c ≠ '/' := by
        rintro rfl
        simp [ht] at e
      obtain ⟨t, ts, hts⟩ := List.exists_cons_of_ne_nil (segments_ne_nil cs)
      rw [ht, segments_cons hc hts] at hs
      rw [segments_cons hc hts]
      intro s mem
      obtain rfl := Option.some.inj mem
      simpa [isIdle] using hs

/-- The path above a path lacks its last component; there is none above the top and the empty path. -/
lemma parent?_cases (p : Path) :
    (p.parent? = none ∧ (p.components = [] ∨ p.components = [.root])) ∨
      ∃ q c, p.parent? = some q ∧ p.components = q.components ++ [c] := by
  have comps : p.components = p.split.1.components ++ (trimIdle p.split.2).filterMap component? := by
    rw [filterMap_trimIdle]; rfl
  obtain ⟨noSlash, first⟩ := split_parts p
  obtain e | ⟨init, s, e⟩ := List.eq_nil_or_concat (trimIdle p.split.2)
  · rw [e, List.filterMap_nil, List.append_nil] at comps
    cases lead : p.split.1 with
    | root => exact .inl ⟨by rw [parent?, e, lead]; rfl, .inr (by rw [comps, lead]; rfl)⟩
    | here => exact .inr ⟨⟨""⟩, .here, by rw [parent?, e, lead]; rfl, by rw [comps, lead]; decide⟩
    | free => exact .inl ⟨by rw [parent?, e, lead]; rfl, .inl (by rw [comps, lead]; rfl)⟩
  · rw [List.concat_eq_append] at e
    have not_idle := not_idle_of_trimIdle_eq e
    obtain ⟨c, hc⟩ : ∃ c, component? s = some c :=
      Option.ne_none_iff_exists'.mp (mt component?_eq_none.mp (by simp [not_idle]))
    obtain ⟨idle, hidle, _⟩ := eq_trimIdle_append p.split.2
    obtain ⟨idle', hidle', _⟩ := eq_trimIdle_append init
    -- The parts of the path above come first among the parts of the path.
    have starts : p.split.2 = trimIdle init ++ (idle' ++ [s] ++ idle) := by
      calc p.split.2
        _ = init ++ [s] ++ idle := by rw [← e, ← hidle]
        _ = trimIdle init ++ idle' ++ [s] ++ idle := by rw [← hidle']
        _ = trimIdle init ++ (idle' ++ [s] ++ idle) := by simp
    refine .inr ⟨ofSplit p.split.1 (trimIdle init), c, by simp [parent?, e], ?_⟩
    rw [components_ofSplit, comps, e, filterMap_trimIdle, List.filterMap_append, List.filterMap_cons_some hc,
      List.filterMap_nil, List.append_assoc]
    · intro t mem
      exact noSlash t (by rw [starts]; exact List.mem_append_left _ mem)
    · intro free t mem
      obtain h | h := first free
      · rw [h] at e
        exact absurd e (by simp [trimIdle, isIdle])
      · refine h t ?_
        rw [starts, List.head?_append, mem]
        rfl

/-- The directory of a path has all components but the last. -/
lemma components_directory (p : Path) : p.directory.components = p.components.dropLast := by
  obtain ⟨e, h | h⟩ | ⟨q, c, e, h⟩ := parent?_cases p
  · rw [directory, e, h]; rfl
  · rw [directory, e, h]; rfl
  · rw [directory, e, h, List.dropLast_concat]; rfl

end FigureGallery.Path
