import FigureGallery.Proofs.FileTree.Location

/-!
# Looking up paths

What a path leads to depends on its components: two spellings with the same components that both lead somewhere lead
to the same place. The path of a location leads to this location, if anywhere.
-/

namespace FigureGallery

open FigureGallery.Path

/-- A text is read from its bytes. -/
lemma fromUTF8?_toUTF8 (text : String) : String.fromUTF8? text.toUTF8 = some text := by
  unfold String.fromUTF8?
  rw [dif_pos (show text.toUTF8.IsValidUTF8 from text.isValidUTF8)]
  rfl

namespace FileTree

variable {tree : FileTree}

/-- The location that one step leads to. -/
def stepTo (location : Location) : Component → Location
  | .name s => location ++ [s]
  | .up => location.dropLast
  | .root => location
  | .here => location

/-- The location that a beginning leads to. -/
def origin (tree : FileTree) : Lead → Location
  | .root => []
  | .here => tree.workingDirectory
  | .free => tree.workingDirectory

/-- Where one part of a path leads from a directory. -/
inductive Enters (tree : FileTree) (location : Location) (part : List Char) : Location → Prop where
  | idle :
    isIdle part →
    Enters tree location part location
  | up :
    part = ['.', '.'] →
    Enters tree location part location.dropLast
  | name :
    ¬ isIdle part →
    part ≠ ['.', '.'] →
    byteLength part ≤ maxNameLength →
    (tree.get? (location ++ [String.ofList part])).isSome →
    Enters tree location part (location ++ [String.ofList part])

/-- Parts lead somewhere from a directory when the first one leads to where the others lead on from. -/
lemma follow_cons_eq_ok_iff {location place : Location} {part : List Char} {parts : List (List Char)} :
    tree.follow location (part :: parts) = .ok place ↔
      tree.get? location = some .directory ∧
        ∃ next, tree.Enters location part next ∧ tree.follow next parts = .ok place := by
  rw [follow]
  constructor
  · intro h
    split at h
    · rename_i directory
      refine ⟨directory, ?_⟩
      split at h
      · rename_i idle
        exact ⟨_, .idle idle, h⟩
      · rename_i not_idle
        split at h
        · rename_i up
          exact ⟨_, .up up, h⟩
        · rename_i not_up
          split at h
          · simp at h
          · rename_i short
            dsimp only at h
            split at h
            · rename_i isSome
              exact ⟨_, .name not_idle not_up (not_lt.mp short) isSome, h⟩
            · simp at h
    · simp at h
  · rintro ⟨directory, next, enters, h⟩
    rw [directory]
    dsimp only
    cases enters with
    | idle idle => rwa [if_pos idle]
    | up up => rwa [if_neg (by simp [up, isIdle]), if_pos up]
    | name not_idle not_up short isSome =>
      rwa [if_neg not_idle, if_neg not_up, if_neg (not_lt.mpr short), if_pos isSome]

/-- Parts that lead somewhere lead where their steps lead. -/
lemma follow_eq {location place : Location} {parts : List (List Char)} (h : tree.follow location parts = .ok place) :
    place = (parts.filterMap component?).foldl stepTo location := by
  induction parts generalizing location with
  | nil => exact (Except.ok.inj h).symm
  | cons part parts ih =>
    obtain ⟨_, next, enters, h⟩ := follow_cons_eq_ok_iff.mp h
    rw [ih h]
    cases enters with
    | idle idle => rw [List.filterMap_cons_none (component?_eq_none.mpr idle)]
    | up up =>
      subst up
      rw [List.filterMap_cons_some component?_dots]
      rfl
    | name not_idle not_up _ _ =>
      have name : component? part = some (.name (String.ofList part)) := by
        simp [component?, not_idle, not_up]
      rw [List.filterMap_cons_some name]
      rfl

/-- A path that can be looked up: it has a text, without the character that ends paths, and is not too long. -/
structure IsUsable (p : Path) : Prop where
  noNul : '\x00' ∉ p.text.toList
  not_empty : p.text ≠ ""
  short : p.text.utf8ByteSize ≤ maxPathLength

/-- A path that can be looked up leads on from its beginning with its parts. -/
lemma start_eq_ok_iff {p : Path} {started : Location × List (List Char)} :
    tree.start p = .ok started ↔ IsUsable p ∧ (tree.origin p.split.1, p.split.2) = started := by
  unfold start
  split
  · rename_i nul
    exact iff_of_false (by simp) fun h => h.1.noNul (List.contains_iff_mem.mp nul)
  · rename_i noNul
    split
    · rename_i empty
      exact iff_of_false (by simp) fun h => h.1.not_empty empty
    · rename_i not_empty
      split
      · rename_i long
        exact iff_of_false (by simp) fun h => Nat.not_lt.mpr h.1.short long
      · rename_i short
        rw [and_iff_right ⟨mt List.contains_iff_mem.mpr noNul, not_empty, Nat.not_lt.mp short⟩]
        obtain ⟨lead, parts'⟩ := p.split
        cases lead <;> exact ⟨Except.ok.inj, congrArg Except.ok⟩

/-- A path leads somewhere when it can be looked up and its parts lead there from its beginning. -/
lemma locate_eq_ok_iff {p : Path} {place : Location} :
    tree.locate p = .ok place ↔ IsUsable p ∧ tree.follow (tree.origin p.split.1) p.split.2 = .ok place := by
  unfold locate
  cases e : tree.start p with
  | error fault =>
    refine iff_of_false (by simp [Except.bind]) fun h => ?_
    have started : tree.start p = .ok _ := start_eq_ok_iff.mpr ⟨h.1, rfl⟩
    simp [e] at started
  | ok started =>
    obtain ⟨usable, rfl⟩ := start_eq_ok_iff.mp e
    exact (and_iff_right usable).symm

/-- A path that leads somewhere leads where its steps lead. -/
lemma locate_eq {p : Path} {place : Location} (h : tree.locate p = .ok place) :
    place = p.steps.foldl stepTo (tree.origin p.split.1) := by
  have steps : p.split.2.filterMap component? = p.steps := by
    have h := components_eq p
    rw [components] at h
    exact List.append_cancel_left h
  rw [← steps]
  exact follow_eq (locate_eq_ok_iff.mp h).2

/-- A path with a name behind a directory leads to an entry of this name. -/
lemma getLast?_of_locate_join {directory : Path} {name : String} (plain : Plain name.toList) {place : Location}
    (h : tree.locate (directory.join ⟨name⟩) = .ok place) : place.getLast? = some name := by
  rw [locate_eq h]
  have comps := plain.components_join directory
  rw [components_eq] at comps
  generalize (directory.join ⟨name⟩).steps = steps, (directory.join ⟨name⟩).split.1 = lead at comps ⊢
  obtain rfl | ⟨init, last, rfl⟩ := List.eq_nil_or_concat steps
  · -- The beginning of a path is no name.
    have last := congrArg List.getLast? comps
    cases lead <;> simp [Lead.components] at last
  · rw [List.concat_eq_append, ← List.append_assoc] at comps
    obtain rfl : last = .name name := List.singleton_inj.mp (List.append_inj' comps rfl).2
    rw [List.concat_eq_append, List.foldl_append, List.foldl_cons, List.foldl_nil, stepTo, List.getLast?_concat]

/-- Spellings with the same components lead to the same place. -/
lemma locate_congr {p q : Path} (h : p.components = q.components) {place place' : Location}
    (hp : tree.locate p = .ok place) (hq : tree.locate q = .ok place') : place = place' := by
  obtain ⟨lead, steps⟩ := split_congr h
  rw [locate_eq hp, locate_eq hq, lead, steps]

/-- Names lead down one after another. -/
lemma foldl_stepTo_names (names location : Location) :
    (names.map Component.name).foldl stepTo location = location ++ names := by
  induction names generalizing location with
  | nil => simp
  | cons name names ih => rw [List.map_cons, List.foldl_cons, ih, stepTo, List.append_assoc, List.singleton_append]

/-- The path of a location leads to the location. -/
lemma locate_pathOf {location place : Location} (plain : location.IsPlain)
    (h : tree.locate (pathOf location) = .ok place) : place = location := by
  have steps : (pathOf location).steps = location.map .name := by
    have h := components_pathOf plain
    rw [components_eq, (split_pathOf plain).1] at h
    exact List.tail_eq_of_cons_eq h
  rw [locate_eq h, steps, (split_pathOf plain).1, origin, foldl_stepTo_names, List.nil_append]

/-- A path has the entry at the location that it leads to. -/
lemma node?_eq_some_iff {p : Path} {node : Node} :
    tree.node? p = some node ↔ ∃ location, tree.locate p = .ok location ∧ tree.get? location = some node := by
  unfold node?
  cases tree.locate p <;> simp

/-- The bytes of a file can be read where a path leads to it. -/
lemma readBytes_eq_ok_iff {p : Path} {content : ByteArray} :
    tree.readBytes p = .ok content ↔ tree.node? p = some (.file content) := by
  unfold readBytes node?
  cases tree.locate p with
  | error fault => simp
  | ok location =>
    cases entry : tree.get? location with
    | none => simp [entry]
    | some node => cases node <;> simp [entry]

/-- A text that was written is read where a path leads to its file. -/
lemma readText_of_node? {p : Path} {text : String} (entry : tree.node? p = some (.file text.toUTF8)) :
    tree.readText p = .ok text := by
  unfold readText
  rw [readBytes_eq_ok_iff.mpr entry]
  dsimp only
  rw [fromUTF8?_toUTF8]

/-- A directory is an entry. -/
lemma isDirectory_iff {p : Path} : tree.isDirectory p ↔ tree.node? p = some .directory := by
  unfold isDirectory
  split
  · rename_i e
    simp [e]
  · rename_i other
    simpa using other

/-- A file is an entry at the location that its path leads to. -/
lemma exists_of_isFile {p : Path} (h : tree.isFile p) :
    ∃ location content, tree.locate p = .ok location ∧ tree.get? location = some (.file content) := by
  unfold isFile at h
  split at h
  · rename_i content e
    obtain ⟨location, located, entry⟩ := node?_eq_some_iff.mp e
    exact ⟨location, content, located, entry⟩
  · simp at h

/-- Spellings with the same components that are files have one text. -/
lemma readText_congr {p q : Path} (h : p.components = q.components) (hp : tree.isFile p) (hq : tree.isFile q) :
    tree.readText p = tree.readText q := by
  obtain ⟨location, _, hl, _⟩ := exists_of_isFile hp
  obtain ⟨location', _, hl', _⟩ := exists_of_isFile hq
  obtain rfl := locate_congr h hl hl'
  rw [readText, readText, readBytes, readBytes, hl, hl']

/-- A file has a path that is short enough to be looked up. -/
lemma utf8ByteSize_le_of_isFile {p : Path} (h : tree.isFile p) : p.text.utf8ByteSize ≤ maxPathLength := by
  obtain ⟨location, _, hl, _⟩ := exists_of_isFile h
  exact (locate_eq_ok_iff.mp hl).1.short

/-- The top is no file, however it is written. -/
lemma isFile_eq_false_of_components {p : Path} (top : p.components = [.root]) : tree.isFile p = false := by
  by_contra h
  obtain ⟨location, content, hl, e⟩ := exists_of_isFile (eq_true_of_ne_false h)
  have lead : p.split.1 = .root := split_fst_iff.1.mpr (by simp [top])
  have steps : p.steps = [] := by
    rw [components_eq, lead] at top
    exact List.tail_eq_of_cons_eq top
  obtain rfl : location = [] := by rw [locate_eq hl, steps, lead]; rfl
  simp [get?] at e

/-- The top is no file. -/
lemma isFile_top : tree.isFile (pathOf []) = false :=
  isFile_eq_false_of_components (components_pathOf (by simp [Location.IsPlain]))

end FileTree

end FigureGallery
