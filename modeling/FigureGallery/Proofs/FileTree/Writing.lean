import FigureGallery.Proofs.FileTree.Shape

/-!
# Files that are written

A file is written in a directory that exists, under a name behind it. When there is a file of this name, its content is
replaced. When there is none, the tree has one more entry: every path leads to the entry that it led to before, and only a
path that led nowhere may lead to the new file.
-/

namespace FigureGallery.FileTree

open FigureGallery.Path

/-- A path that names an entry in a directory that exists, whether there is such an entry or not. -/
structure Names (tree : FileTree) (p : Path) (directory : Location) (name : List Char) : Prop where
  usable : IsUsable p
  enters : ∃ init, p.split.2 = init ++ [name] ∧ tree.follow (tree.origin p.split.1) init = .ok directory
  isDirectory : tree.get? directory = some .directory
  not_idle : ¬ isIdle name
  not_up : name ≠ ['.', '.']
  short : byteLength name ≤ maxNameLength

/-- A tree with one more file than another. -/
structure Creates (tree other : FileTree) (place : Location) (content : ByteArray) : Prop where
  workingDirectory : other.workingDirectory = tree.workingDirectory
  fresh : tree.get? place = none
  created : other.get? place = some (.file content)
  elsewhere : ∀ location, location ≠ place → other.get? location = tree.get? location

variable {tree other : FileTree} {place location directory : Location} {name : List Char} {content : ByteArray} {p q : Path}

/-- Parts lead on from where the parts before them lead. -/
lemma follow_append_eq_ok_iff {parts more : List (List Char)} {place : Location} :
    tree.follow location (parts ++ more) = .ok place ↔
      ∃ between, tree.follow location parts = .ok between ∧ tree.follow between more = .ok place := by
  induction parts generalizing location with
  | nil => simp [follow]
  | cons part parts ih =>
    simp only [List.cons_append, follow_cons_eq_ok_iff, ih]
    constructor
    · rintro ⟨directory, next, enters, between, h, rest⟩
      exact ⟨between, ⟨directory, next, enters, h⟩, rest⟩
    · rintro ⟨between, ⟨directory, next, enters, h⟩, rest⟩
      exact ⟨directory, next, enters, between, h, rest⟩

/-- The path of the directory of a path that can be looked up can be looked up. -/
lemma IsUsable.of_pathOf_concat {name : String} (usable : IsUsable (pathOf (location ++ [name]))) :
    IsUsable (pathOf location) := by
  have text := toList_pathOf_concat location name
  split at text
  · rename_i top
    subst top
    exact ⟨by decide, by decide, by decide⟩
  · have longer : (pathOf (location ++ [name])).text = (pathOf location).text ++ ("/" ++ name) :=
      String.toList_inj.mp (by simp [text])
    refine ⟨fun nul => usable.noNul ?_, fun empty => ?_, le_trans ?_ usable.short⟩
    · rw [text]
      exact List.mem_append_left _ nul
    · simpa [isAbsolute, empty] using isAbsolute_pathOf location
    · rw [longer, String.utf8ByteSize_append]
      exact Nat.le_add_right _ _

/-- Where there is an entry, the path of its directory leads to a directory. -/
lemma isDirectory_of_locate {name : String} (plain : Location.IsPlain (location ++ [name])) {place : Location}
    (located : tree.locate (pathOf (location ++ [name])) = .ok place) : tree.isDirectory (pathOf location) := by
  have above := plain.above
  obtain ⟨usable, followed⟩ := locate_eq_ok_iff.mp located
  rw [split_pathOf_eq plain (by simp), List.map_append, follow_append_eq_ok_iff] at followed
  obtain ⟨between, followed, rest⟩ := followed
  obtain ⟨directory, _⟩ := follow_cons_eq_ok_iff.mp rest
  have entered : tree.locate (pathOf location) = .ok between := by
    refine locate_eq_ok_iff.mpr ⟨usable.of_pathOf_concat, ?_⟩
    obtain rfl | below := eq_or_ne location []
    · exact followed
    · rwa [split_pathOf_eq above below]
  exact isDirectory_iff.mpr (node?_eq_some_iff.mpr ⟨between, entered, directory⟩)

/-- A file is listed in its directory. -/
lemma mem_list_of_isFile {name : String} (plain : Location.IsPlain (location ++ [name]))
    (isFile : tree.isFile (pathOf (location ++ [name]))) :
    name ∈ tree.list (pathOf location) := by
  obtain ⟨place, located, content, entry⟩ := isFile_iff.mp isFile
  have above := plain.above
  obtain rfl := locate_pathOf plain located
  exact (mem_list_iff above).mpr ⟨isDirectory_of_locate plain located, by rw [entry]; rfl⟩

/-- A path leads to the entry that it names. -/
lemma Names.locate_eq (names : tree.Names p directory name) (entry : (tree.get? (directory ++ [String.ofList name])).isSome) :
    tree.locate p = .ok (directory ++ [String.ofList name]) := by
  obtain ⟨init, parts, entered⟩ := names.enters
  refine locate_eq_ok_iff.mpr ⟨names.usable, ?_⟩
  rw [parts]
  refine follow_append_eq_ok_iff.mpr ⟨directory, entered, follow_cons_eq_ok_iff.mpr ⟨names.isDirectory, _, ?_, rfl⟩⟩
  exact .name names.not_idle names.not_up names.short entry

/-- The path of a location names the entry to which it leads. -/
lemma names_pathOf {name : String} (plain : Location.IsPlain (location ++ [name]))
    (located : tree.locate (pathOf (location ++ [name])) = .ok place) :
    tree.Names (pathOf (location ++ [name])) location name.toList := by
  obtain rfl := locate_pathOf plain located
  have named := plain.last
  obtain ⟨usable, followed⟩ := locate_eq_ok_iff.mp located
  have parts : (pathOf (location ++ [name])).split = (.root, location.map String.toList ++ [name.toList]) := by
    rw [split_pathOf_eq plain (by simp), List.map_append, List.map_singleton]
  rw [parts] at followed
  obtain ⟨directory, entered, rest⟩ := follow_append_eq_ok_iff.mp followed
  obtain ⟨isDirectory, next, enters, done⟩ := follow_cons_eq_ok_iff.mp rest
  obtain rfl : next = location ++ [name] := Except.ok.inj done
  obtain ⟨rfl, short⟩ : directory = location ∧ byteLength name.toList ≤ maxNameLength := by
    generalize e : location ++ [name] = next at enters
    cases enters with
    | idle idle => simp [named.not_idle] at idle
    | up up => exact absurd up named.not_up
    | name _ _ short _ => exact ⟨(List.append_inj' e rfl).1.symm, short⟩
  exact ⟨usable, ⟨_, by rw [parts], by rwa [parts]⟩, isDirectory, by simp [named.not_idle], named.not_up, short⟩

/-- What is left of the parts of a path without the empty ones at its end is all of it, unless it is shorter. -/
lemma trimEmpty_eq {parts : List (List Char)}
    (whole : parts.length ≤ (parts.reverse.dropWhile List.isEmpty).reverse.length) :
    (parts.reverse.dropWhile List.isEmpty).reverse = parts := by
  have suffix := List.dropWhile_suffix List.isEmpty (l := parts.reverse)
  rw [suffix.eq_of_length_le (by simpa using whole), List.reverse_reverse]

lemma any_isDirectory_iff : (tree.get? location).any Node.isDirectory ↔ tree.get? location = some .directory := by
  cases tree.get? location with
  | none => simp
  | some node => cases node <;> simp [Node.isDirectory]

/-- A file is written under a name that is short enough, where there is no directory. -/
lemma writeAt_eq_ok_iff : tree.writeAt location name content = .ok other ↔
    byteLength name ≤ maxNameLength ∧ tree.get? (location ++ [String.ofList name]) ≠ some .directory ∧
      tree.set (location ++ [String.ofList name]) (.file content) = other := by
  rw [writeAt]
  split
  · rename_i long
    exact iff_of_false (by simp) fun h => Nat.not_le.mpr long h.1
  · rename_i short
    rw [and_iff_right (Nat.not_lt.mp short)]
    split
    · rename_i directory
      exact iff_of_false (by simp) fun h => h.1 (any_isDirectory_iff.mp directory)
    · rename_i free
      rw [and_iff_right (mt any_isDirectory_iff.mpr free), Except.ok.injEq]

/-- What is written is put in the place that its path names, which is not that of a directory. -/
lemma exists_of_write (written : tree.write p content = .ok other) :
    ∃ directory name, tree.Names p directory name ∧ tree.get? (directory ++ [String.ofList name]) ≠ some .directory ∧
      tree.set (directory ++ [String.ofList name]) (.file content) = other := by
  unfold write at written
  cases started : tree.start p with
  | error fault => simp [started, bind, Except.bind] at written
  | ok origin =>
    obtain ⟨usable, rfl⟩ := start_eq_ok_iff.mp started
    simp only [started, bind, Except.bind] at written
    split at written
    · simp at written
    rename_i directory entered
    split at written
    · rename_i isDirectory
      split at written
      · rename_i name last
        split at written
        · simp at written
        · rename_i named
          simp only [Bool.or_eq_true, decide_eq_true_eq, not_or] at named
          obtain ⟨⟨not_idle, not_up⟩, whole⟩ := named
          obtain ⟨short, free, e⟩ := writeAt_eq_ok_iff.mp written
          rw [trimEmpty_eq (Nat.not_lt.mp whole)] at entered last
          obtain ⟨init, parts⟩ := List.getLast?_eq_some_iff.mp last
          rw [parts, List.dropLast_concat] at entered
          exact ⟨directory, name, ⟨usable, ⟨init, parts, entered⟩, any_isDirectory_iff.mp isDirectory, not_idle, not_up,
            short⟩, free, e⟩
      · simp at written
    · simp at written

/-- A path that names an entry that is no directory is that of a file that can be written. -/
lemma Names.write_eq (names : tree.Names p directory name)
    (free : tree.get? (directory ++ [String.ofList name]) ≠ some .directory) (content : ByteArray) :
    tree.write p content = .ok (tree.set (directory ++ [String.ofList name]) (.file content)) := by
  obtain ⟨init, parts, entered⟩ := names.enters
  have started : tree.start p = .ok (tree.origin p.split.1, init ++ [name]) :=
    start_eq_ok_iff.mpr ⟨names.usable, by rw [parts]⟩
  have nonempty : name.isEmpty = false := by
    cases name with
    | nil => exact absurd rfl names.not_idle
    | cons c cs => rfl
  have trimmed : ((init ++ [name]).reverse.dropWhile List.isEmpty).reverse = init ++ [name] := by
    simp [nonempty]
  simp only [write, started, bind, Except.bind, trimmed, List.dropLast_concat, entered, List.getLast?_concat]
  rw [if_pos (any_isDirectory_iff.mpr names.isDirectory), if_neg (by simp [names.not_idle, names.not_up])]
  exact writeAt_eq_ok_iff.mpr ⟨names.short, free, rfl⟩

/-- A file that exists is written in its place. -/
lemma write_pathOf (plain : location.IsPlain) (isFile : tree.isFile (pathOf location)) (content : ByteArray) :
    tree.write (pathOf location) content = .ok (tree.set location (.file content)) := by
  obtain ⟨place, located, old, entry⟩ := isFile_iff.mp isFile
  obtain rfl := locate_pathOf plain located
  obtain rfl | ⟨init, last, rfl⟩ := List.eq_nil_or_concat place
  · simp [get?] at entry
  · rw [List.concat_eq_append] at *
    have written := (names_pathOf plain located).write_eq (by rw [String.ofList_toList, entry]; simp) content
    rwa [String.ofList_toList] at written

namespace Creates

/-- The new file is no directory, and there was none in its place. -/
lemma differsIn (creates : tree.Creates other place content) : tree.DiffersIn other (· = place) where
  workingDirectory := creates.workingDirectory
  elsewhere := creates.elsewhere
  file := by
    rintro _ rfl
    simp [creates.fresh, creates.created]

/-- A path that led to an entry leads to it as before. -/
lemma node?_eq_some (creates : tree.Creates other place content) {node : Node} (entry : tree.node? q = some node) :
    other.node? q = some node := by
  obtain ⟨there, located, here⟩ := node?_eq_some_iff.mp entry
  refine creates.differsIn.node?_eq_some located here ?_
  rintro rfl
  simp [creates.fresh] at here

/-- A path that does not lead to the new file leads to the entry that it led to before, if to any. -/
lemma node?_eq (creates : tree.Creates other place content) (elsewhere : other.locate q ≠ .ok place) :
    other.node? q = tree.node? q := by
  refine Option.ext fun node => ⟨fun entry => ?_, creates.node?_eq_some⟩
  obtain ⟨there, located, here⟩ := node?_eq_some_iff.mp entry
  refine creates.differsIn.symm.node?_eq_some located here ?_
  rintro rfl
  exact elsewhere located

/-- A path leads to the entry that it led to before, or it led nowhere and leads to the new file. -/
lemma node?_cases (creates : tree.Creates other place content) (q : Path) :
    other.node? q = tree.node? q ∨ tree.node? q = none ∧ other.node? q = some (.file content) := by
  by_cases located : other.locate q = .ok place
  · have here : other.node? q = some (.file content) := node?_eq_some_iff.mpr ⟨place, located, creates.created⟩
    cases entry : tree.node? q with
    | none => exact .inr ⟨rfl, here⟩
    | some node => exact .inl (creates.node?_eq_some entry)
  · exact .inl (creates.node?_eq located)

end Creates

/-- A path names the same entry in a tree with one more file. -/
lemma Creates.names (creates : tree.Creates other place content) (names : tree.Names p directory name) :
    other.Names p directory name := by
  have old : directory ≠ place := by
    rintro rfl
    have fresh := creates.fresh
    simp [names.isDirectory] at fresh
  obtain ⟨init, parts, entered⟩ := names.enters
  refine ⟨names.usable, ⟨init, parts, ?_⟩, ?_, names.not_idle, names.not_up, names.short⟩
  · rw [creates.differsIn.origin_eq]
    exact creates.differsIn.follow_eq entered old
  · rw [creates.elsewhere directory old]
    exact names.isDirectory

/-- Writing a file that does not exist adds it to the tree, and its path leads to it. -/
lemma exists_creates_of_write (missing : ¬ tree.isFile p) (written : tree.write p content = .ok other) :
    ∃ place, tree.Creates other place content ∧ other.locate p = .ok place := by
  obtain ⟨directory, name, names, free, rfl⟩ := exists_of_write written
  generalize e : directory ++ [String.ofList name] = place at free
  have below : place ≠ [] := by simp [← e]
  have fresh : tree.get? place = none := by
    -- A path that names an entry leads to it, so there is no file.
    cases entry : tree.get? place with
    | none => rfl
    | some node =>
      have located := names.locate_eq (by rw [e, entry]; rfl)
      rw [e] at located
      cases node with
      | directory => exact absurd entry free
      | file old => exact absurd (isFile_iff.mpr ⟨place, located, old, entry⟩) missing
  have creates : tree.Creates (tree.set place (.file content)) place content := by
    refine ⟨rfl, fresh, ?_, fun location other => ?_⟩
    · rw [get?_set tree below, if_pos rfl]
    · rw [get?_set tree below, if_neg other]
  have located := (creates.names names).locate_eq (by rw [e, creates.created]; rfl)
  exact ⟨place, creates, e ▸ located⟩

end FigureGallery.FileTree
