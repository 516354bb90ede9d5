import FigureGallery.Proofs.FileTree.Lookup

/-!
# The place of a path

As seen from a directory a path denotes a place without a look at any file: `.` stays, `..` leads to the directory above,
and above the top there is nothing. A path and its normal form denote one place from every directory. Two normal forms do
so from all directories of some depth only if they are equal, as from far enough below the top every `..` counts. So the
normal form of a path says neither more nor less than its place.
-/

namespace FigureGallery.Path

open FileTree

/-- The place that a path denotes as seen from a directory. -/
def placeFrom (p : Path) (directory : Location) : Location :=
  p.components.foldl stepTo (if p.isAbsolute then [] else directory)

/-- A path is written with the top, or with a run of `..`, and names after it. -/
def IsNormal (p : Path) : Prop :=
  ∃ (ups : Nat) (names : Location), names.IsPlain ∧ (p.isAbsolute → ups = 0) ∧
    p.components = (if p.isAbsolute then [.root] else []) ++ (List.replicate ups .up ++ names.map .name)

variable {p q : Path} {directory : Location}

/-- A folded path has names in front, the last one first, and the `..` of a relative path behind them. -/
lemma Folded.exists_eq {rooted stack} (folded : Folded rooted stack) :
    ∃ (ups : Nat) (names : Location), names.IsPlain ∧ (rooted → ups = 0) ∧
      stack = names.map .name ++ List.replicate ups .up := by
  induction folded with
  | ups n h => exact ⟨n, [], by simp [Location.IsPlain], h, rfl⟩
  | @name _ s plain _ ih =>
    obtain ⟨ups, names, names_plain, h, rfl⟩ := ih
    exact ⟨ups, s :: names, List.forall_mem_cons.mpr ⟨plain, names_plain⟩, h, rfl⟩

/-- Normal forms are normal. -/
lemma isNormal_normalize (p : Path) : p.normalize.IsNormal := by
  obtain ⟨ups, names, plain, h, e⟩ := (folded_foldedSteps p).exists_eq
  refine ⟨ups, names.reverse, fun name mem => plain name (List.mem_reverse.mp mem), ?_, ?_⟩
  · rwa [isAbsolute_normalize]
  · rw [components_normalize, isAbsolute_normalize, ← List.reverse_reverse p.foldedSteps, e, List.reverse_append,
      List.reverse_replicate, List.map_reverse]

/-- One more step leads on from the place that a folded path denotes. -/
lemma Folded.foldl_stepTo {rooted stack} (folded : Folded rooted stack) {start : Location} (top : rooted → start = [])
    (c : Component) :
    (Path.foldStep rooted stack c).reverse.foldl stepTo start = stepTo (stack.reverse.foldl stepTo start) c := by
  cases c with
  | root => rfl
  | here => rfl
  | name s => rw [Path.foldStep, List.reverse_cons, List.foldl_append, List.foldl_cons, List.foldl_nil]
  | up =>
    cases folded with
    | @name stack s _ _ =>
      rw [List.reverse_cons, List.foldl_append, List.foldl_cons, List.foldl_nil, stepTo, stepTo, List.dropLast_concat]
      rfl
    | ups n h =>
      cases rooted with
      | true =>
        -- At the top there is nothing above.
        obtain rfl := h rfl
        obtain rfl := top rfl
        rfl
      | false =>
        have e : Path.foldStep false (List.replicate n .up) .up = .up :: List.replicate n .up := by cases n <;> rfl
        rw [e, List.reverse_cons, List.foldl_append, List.foldl_cons, List.foldl_nil]

/-- Steps lead where their folded form leads. -/
lemma Folded.foldl_foldStep {rooted stack} (folded : Folded rooted stack) {start : Location} (top : rooted → start = [])
    (steps : List Component) (plain : ∀ s, .name s ∈ steps → Plain s.toList) :
    (steps.foldl (Path.foldStep rooted) stack).reverse.foldl stepTo start =
      steps.foldl stepTo (stack.reverse.foldl stepTo start) := by
  induction steps generalizing stack with
  | nil => rfl
  | cons c steps ih =>
    have next : Folded rooted (Path.foldStep rooted stack c) := folded.foldStep fun s e => plain s (by simp [e])
    rw [List.foldl_cons, List.foldl_cons, ih next fun s mem => plain s (List.mem_cons_of_mem _ mem),
      folded.foldl_stepTo top]

/-- A path and its normal form denote one place. -/
lemma placeFrom_normalize (p : Path) (directory : Location) : p.normalize.placeFrom directory = p.placeFrom directory := by
  have lead (start : Location) : (if p.isAbsolute then [Component.root] else []).foldl stepTo start = start := by
    split <;> rfl
  have top : p.isAbsolute → (if p.isAbsolute then [] else directory) = [] := fun absolute => if_pos absolute
  rw [placeFrom, isAbsolute_normalize, components_normalize, List.foldl_append, lead]
  exact Folded.nil.foldl_foldStep top p.components fun s => plain_of_name_mem

/-- The place of an absolute path does not depend on a directory. -/
lemma placeFrom_of_isAbsolute (absolute : p.isAbsolute) (directory directory' : Location) :
    p.placeFrom directory = p.placeFrom directory' := by
  rw [placeFrom, placeFrom, if_pos absolute, if_pos absolute]

/-- A relative path leads on from the directory by its steps. -/
lemma placeFrom_of_relative (relative : ¬ p.isAbsolute) (directory : Location) :
    p.placeFrom directory = p.steps.foldl stepTo directory := by
  rw [placeFrom, if_neg relative, components_eq, List.foldl_append]
  cases p.split.1 <;> rfl

/-- A path as seen from another one leads on from the place of that one. -/
lemma placeFrom_join (p q : Path) (directory : Location) :
    (p.join q).placeFrom directory = q.placeFrom (p.placeFrom directory) := by
  by_cases absolute : q.isAbsolute
  · rw [join_of_isAbsolute p absolute, placeFrom_of_isAbsolute absolute]
  · by_cases empty : p.text = ""
    · have stays : p.placeFrom directory = directory := by
        rw [placeFrom, components_eq_nil.mpr empty, isAbsolute, empty]
        rfl
      rw [join_of_text_eq empty, stays]
    · have comps := components_join empty absolute
      rw [placeFrom, comps, isAbsolute_join_of_relative empty absolute, List.foldl_append, placeFrom_of_relative absolute,
        placeFrom]

/-- From below the top, in a directory of which all names are alike, a normal path denotes so many of these names, and its
own names. -/
lemma placeFrom_replicate {ups depth : Nat} {names : Location} {s : String}
    (e : p.components = (if p.isAbsolute then [.root] else []) ++ (List.replicate ups .up ++ names.map .name))
    (low : p.isAbsolute → ups = 0) :
    p.placeFrom (List.replicate depth s) = List.replicate (if p.isAbsolute then 0 else depth - ups) s ++ names := by
  have climb (n : Nat) : (List.replicate n Component.up).foldl stepTo (List.replicate depth s) =
      List.replicate (depth - n) s := by
    induction n with
    | zero => rfl
    | succ n ih => rw [List.replicate_succ', List.foldl_append, ih, List.foldl_cons, List.foldl_nil, stepTo,
        List.dropLast_replicate, Nat.sub_sub]
  rw [placeFrom, e, List.foldl_append, List.foldl_append, foldl_stepTo_names]
  congr 1
  by_cases absolute : p.isAbsolute
  · rw [low absolute, if_pos absolute, if_pos absolute, if_pos absolute]
    rfl
  · rw [if_neg absolute, if_neg absolute, if_neg absolute, List.foldl_nil, climb]

/-- There are more plain names than any list has. -/
lemma exists_plain_notMem (names : Location) : ∃ s : String, Plain s.toList ∧ s ∉ names := by
  obtain ⟨length, bound⟩ : ∃ length, ∀ name ∈ names, name.length ≤ length := by
    induction names with
    | nil => exact ⟨0, by simp⟩
    | cons name names ih =>
      obtain ⟨length, bound⟩ := ih
      refine ⟨max name.length length, List.forall_mem_cons.mpr ⟨le_max_left _ _, fun other mem => ?_⟩⟩
      exact (bound other mem).trans (le_max_right _ _)
  refine ⟨String.ofList (List.replicate (length + 1) 'x'), ?_, fun mem => ?_⟩
  · rw [String.toList_ofList]
    refine ⟨?_, ?_, fun mem => absurd (List.eq_of_mem_replicate mem) (by decide)⟩
    · simp [isIdle, List.replicate_succ]
    · simp [List.replicate_succ]
  · have short := bound _ mem
    rw [String.length_ofList, List.length_replicate] at short
    omega

/-- Two normal paths that denote one place from all directories of some depth have the same components. -/
lemma IsNormal.components_eq (depth : Nat) (normal : p.IsNormal) (normal' : q.IsNormal)
    (same : ∀ directory : Location, directory.IsPlain → depth ≤ directory.length →
      p.placeFrom directory = q.placeFrom directory) : p.components = q.components := by
  obtain ⟨ups, names, _, low, e⟩ := normal
  obtain ⟨ups', names', _, low', e'⟩ := normal'
  obtain ⟨s, plain, fresh⟩ := exists_plain_notMem (names ++ names')
  rw [List.mem_append, not_or] at fresh
  -- Far enough below the top a directory shows by the number of its names that are left how far a path goes up.
  have places := same (List.replicate (depth + ups + ups' + 1) s)
    (fun name mem => List.eq_of_mem_replicate mem ▸ plain) (by rw [List.length_replicate]; omega)
  rw [placeFrom_replicate e low, placeFrom_replicate e' low'] at places
  have counts := congrArg (List.count s) places
  rw [List.count_append, List.count_append, List.count_replicate_self, List.count_replicate_self,
    List.count_eq_zero.mpr fresh.1, List.count_eq_zero.mpr fresh.2, Nat.add_zero, Nat.add_zero] at counts
  rw [counts] at places
  obtain rfl := List.append_cancel_left places
  have absolute : p.isAbsolute = q.isAbsolute := by
    cases hp : p.isAbsolute <;> cases hq : q.isAbsolute <;> simp [hp, hq] at counts ⊢ <;> omega
  have climbs : ups = ups' := by
    by_cases hp : p.isAbsolute
    · rw [low hp, low' (absolute ▸ hp)]
    · rw [if_neg hp, if_neg (absolute ▸ hp)] at counts
      omega
  rw [e, e', absolute, climbs]

/-- Normal forms are equal when they denote one place from all directories of some depth. -/
lemma normalize_eq_of_placeFrom_eq (depth : Nat) (same : ∀ directory : Location, directory.IsPlain →
    depth ≤ directory.length → p.placeFrom directory = q.placeFrom directory) : p.normalize = q.normalize := by
  rw [← normalize_normalize p, ← normalize_normalize q]
  refine normalize_congr (IsNormal.components_eq depth (isNormal_normalize p) (isNormal_normalize q) ?_)
  intro directory plain deep
  rw [placeFrom_normalize, placeFrom_normalize, same directory plain deep]

/-- The normal form of a path has no `.`, it has `..` only in front and only if it is relative, it is absolute just when
the path is, and it is its own normal form. Two paths have one normal form just when they denote one place, as seen from
all directories that are deep enough, however deep that is. A path as seen from a directory has the same normal form
when the directory is brought into normal form first. -/
theorem normalize_canonical (p q : Path) :
    p.normalize.IsNormal ∧ p.normalize.isAbsolute = p.isAbsolute ∧ p.normalize.normalize = p.normalize ∧
    (∀ depth, p.normalize = q.normalize ↔ ∀ directory : Location, directory.IsPlain → depth ≤ directory.length →
      p.placeFrom directory = q.placeFrom directory) ∧
    (p.join q).normalize = (p.normalize.join q).normalize := by
  refine ⟨isNormal_normalize p, isAbsolute_normalize p, normalize_normalize p,
    fun depth => ⟨fun h directory _ _ => ?_, normalize_eq_of_placeFrom_eq depth⟩, ?_⟩
  · rw [← placeFrom_normalize p, ← placeFrom_normalize q, h]
  · refine normalize_eq_of_placeFrom_eq 0 fun directory _ _ => ?_
    rw [placeFrom_join, placeFrom_join, placeFrom_normalize]

/-- Two spellings of one place, and a path that goes up as seen from a path that comes down again. -/
theorem normalize_canonical_up :
    (⟨"a/../../b/."⟩ : Path).normalize = ⟨"../b"⟩ ∧
      (∃ directory : Location, 3 ≤ directory.length ∧ placeFrom ⟨"../b"⟩ directory ≠ placeFrom ⟨"b"⟩ directory) ∧
      ((⟨"/a/.."⟩ : Path).join ⟨"../b"⟩).normalize = ((⟨"/"⟩ : Path).join ⟨"../b"⟩).normalize := by
  obtain ⟨_, _, _, same, _⟩ := normalize_canonical ⟨"../b"⟩ ⟨"b"⟩
  obtain ⟨_, _, _, _, joined⟩ := normalize_canonical ⟨"/a/.."⟩ ⟨"../b"⟩
  refine ⟨by decide, ?_, joined⟩
  by_contra none
  refine absurd ((same 3).mpr fun directory _ deep => ?_) (by decide)
  by_contra ne
  exact none ⟨directory, deep, ne⟩

end FigureGallery.Path
