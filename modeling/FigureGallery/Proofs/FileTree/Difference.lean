import FigureGallery.Document.Source
import FigureGallery.Proofs.FileTree.Lookup
import FigureGallery.Proofs.Path.FileName

/-!
# Trees that differ in one file

Two file trees that differ in places at which neither has a directory are the same to every path that leads elsewhere: it
leads to the same place, with the same entry. Since a file has nothing below it, no path leads on from such a place, and
the directories of both trees are the same. This is so for trees that differ at most in the content of one file, or in
whether it exists.
-/

namespace FigureGallery.FileTree

open FigureGallery.Path

/-- A tree whose names can all be written in paths. -/
structure IsPlain (tree : FileTree) : Prop where
  workingDirectory : tree.workingDirectory.IsPlain
  entries : ∀ entry ∈ tree.entries, entry.1.IsPlain

instance (tree : FileTree) : Decidable tree.IsPlain :=
  decidable_of_iff (tree.workingDirectory.IsPlain ∧ ∀ entry ∈ tree.entries, entry.1.IsPlain)
    ⟨fun h => ⟨h.1, h.2⟩, fun plain => ⟨plain.workingDirectory, plain.entries⟩⟩

/-- Where a tree with plain names has an entry, the location is plain. -/
lemma IsPlain.of_get? {tree : FileTree} (plain : tree.IsPlain) {location : Location}
    (h : (tree.get? location).isSome) : location.IsPlain := by
  unfold get? at h
  split at h
  · simp [Location.IsPlain]
  · obtain ⟨entry, mem, e⟩ := List.lookup_isSome_iff.mp h
    rw [eq_of_beq e]
    exact plain.entries entry mem

/-- Two trees that differ at most in some places, none of which is a directory in one of them. -/
structure DiffersIn (tree other : FileTree) (places : Location → Prop) : Prop where
  workingDirectory : other.workingDirectory = tree.workingDirectory
  elsewhere : ∀ location, ¬ places location → other.get? location = tree.get? location
  file : ∀ location, places location → tree.get? location ≠ some .directory ∧ other.get? location ≠ some .directory

/-- Two trees that differ at most in the file that a path names: in its content, or in whether it exists. -/
structure DiffersAt (tree other : FileTree) (p : Path) : Prop where
  workingDirectory : other.workingDirectory = tree.workingDirectory
  elsewhere : ∀ location, pathOf location ≠ tree.absolute p → other.get? location = tree.get? location
  file : ∀ location, pathOf location = tree.absolute p →
    tree.get? location ≠ some .directory ∧ other.get? location ≠ some .directory

variable {tree other : FileTree} {p q : Path}

/-- The steps of a path lead where its folded steps lead. -/
lemma foldl_foldStep (steps : List Component) (location : Location) :
    steps.foldl (foldStep true) (location.map .name).reverse =
      ((steps.foldl stepTo location).map Component.name).reverse := by
  induction steps generalizing location with
  | nil => rfl
  | cons c steps ih =>
    rw [List.foldl_cons, List.foldl_cons, ← ih]
    congr 1
    cases c with
    | root => rfl
    | here => rfl
    | name s => simp [foldStep, stepTo]
    | up =>
      obtain rfl | ⟨init, last, rfl⟩ := List.eq_nil_or_concat location
      · rfl
      · simp [foldStep, stepTo]

/-- A path that leads somewhere is the path of that place as seen from the top. -/
lemma absolute_eq_pathOf (plain : tree.workingDirectory.IsPlain) {place : Location} (h : tree.locate q = .ok place) :
    tree.absolute q = pathOf place := by
  have not_empty : q.text ≠ "" := (locate_eq_ok_iff.mp h).1.not_empty
  have absolute : (tree.workingPath.join q).isAbsolute := isAbsolute_join (isAbsolute_pathOf _) q
  have steps : (tree.workingPath.join q).foldedSteps = place.map .name := by
    rw [foldedSteps, absolute, locate_eq h, List.reverse_eq_iff, ← foldl_foldStep]
    cases isAbsolute : q.isAbsolute with
    | true =>
      rw [join_of_isAbsolute _ isAbsolute, components_eq, isAbsolute_iff_split.mp isAbsolute]
      rfl
    | false =>
      have origin_eq : tree.origin q.split.1 = tree.workingDirectory := by
        cases lead : q.split.1 with
        | root => simp [isAbsolute_iff_split.mpr lead] at isAbsolute
        | here => rfl
        | free => rfl
      have names := foldl_foldStep (tree.workingDirectory.map .name) []
      rw [foldl_stepTo_names, List.nil_append] at names
      rw [components_join tree.workingPath_ne_empty (by simp [isAbsolute]), workingPath, components_pathOf plain,
        List.foldl_append, List.foldl_cons, origin_eq, ← names]
      rfl
  rw [FileTree.absolute, Path.absolute, if_neg not_empty, Path.normalize, if_pos absolute, steps, List.map_map]
  rfl

/-- The path of a location in normal form is the same as seen from the top. -/
lemma absolute_pathOf (tree : FileTree) {location : Location} (plain : location.IsPlain) :
    tree.absolute (pathOf location) = pathOf location := by
  have not_empty : (pathOf location).text ≠ "" := fun empty => by
    simpa [isAbsolute, empty] using isAbsolute_pathOf location
  rw [FileTree.absolute, Path.absolute, if_neg not_empty, join_of_isAbsolute _ (isAbsolute_pathOf location),
    normalize_pathOf plain]

namespace DiffersIn

variable {places : Location → Prop}

/-- Both trees see paths from the same directory. -/
lemma absolute (differs : tree.DiffersIn other places) : other.absolute = tree.absolute := by
  funext q
  rw [FileTree.absolute, FileTree.absolute, workingPath, workingPath, differs.workingDirectory]

lemma origin_eq (differs : tree.DiffersIn other places) (lead : Lead) : other.origin lead = tree.origin lead := by
  cases lead with
  | root => rfl
  | here => exact differs.workingDirectory
  | free => exact differs.workingDirectory

/-- It does not matter which of the trees comes first. -/
lemma symm (differs : tree.DiffersIn other places) : other.DiffersIn tree places where
  workingDirectory := differs.workingDirectory.symm
  elsewhere location h := (differs.elsewhere location h).symm
  file location h := (differs.file location h).symm

/-- Nothing leads on from the places, so what leads elsewhere does not start from one. -/
lemma not_of_follow (differs : tree.DiffersIn other places) {location place : Location} {parts : List (List Char)}
    (h : tree.follow location parts = .ok place) (elsewhere : ¬ places place) : ¬ places location := by
  intro isFile
  cases parts with
  | nil =>
    obtain rfl := Except.ok.inj h
    exact elsewhere isFile
  | cons part parts =>
    obtain ⟨directory, _⟩ := follow_cons_eq_ok_iff.mp h
    exact (differs.file location isFile).1 directory

/-- What leads elsewhere in one tree leads there in the other. -/
lemma follow_eq (differs : tree.DiffersIn other places) {location place : Location} {parts : List (List Char)}
    (h : tree.follow location parts = .ok place) (elsewhere : ¬ places place) :
    other.follow location parts = .ok place := by
  induction parts generalizing location with
  | nil => exact h
  | cons part parts ih =>
    have here := differs.elsewhere location (differs.not_of_follow h elsewhere)
    obtain ⟨directory, next, enters, rest⟩ := follow_cons_eq_ok_iff.mp h
    refine follow_cons_eq_ok_iff.mpr ⟨here.trans directory, next, ?_, ih rest⟩
    cases enters with
    | idle idle => exact .idle idle
    | up up => exact .up up
    | name not_idle not_up short isSome =>
      refine .name not_idle not_up short ?_
      rwa [differs.elsewhere _ (differs.not_of_follow rest elsewhere)]

/-- A path that leads elsewhere in one tree leads there in the other. -/
lemma locate_eq (differs : tree.DiffersIn other places) {place : Location} (h : tree.locate q = .ok place)
    (elsewhere : ¬ places place) : other.locate q = .ok place := by
  obtain ⟨usable, followed⟩ := locate_eq_ok_iff.mp h
  rw [← differs.origin_eq] at followed
  exact locate_eq_ok_iff.mpr ⟨usable, differs.follow_eq followed elsewhere⟩

/-- An entry elsewhere is the same in both trees. -/
lemma node?_eq_some (differs : tree.DiffersIn other places) {place : Location} {node : Node}
    (located : tree.locate q = .ok place) (entry : tree.get? place = some node) (elsewhere : ¬ places place) :
    other.node? q = some node :=
  node?_eq_some_iff.mpr ⟨place, differs.locate_eq located elsewhere, (differs.elsewhere place elsewhere).trans entry⟩

/-- The directories of both trees are the same. -/
lemma isDirectory_eq (differs : tree.DiffersIn other places) (q : Path) : other.isDirectory q = tree.isDirectory q := by
  have same {tree other : FileTree} (differs : tree.DiffersIn other places) (h : tree.isDirectory q) :
      other.isDirectory q := by
    obtain ⟨place, located, entry⟩ := node?_eq_some_iff.mp (isDirectory_iff.mp h)
    exact isDirectory_iff.mpr (differs.node?_eq_some located entry fun isFile => (differs.file place isFile).1 entry)
  exact Bool.eq_iff_iff.mpr ⟨same differs.symm, same differs⟩

end DiffersIn

namespace DiffersAt

/-- The places in which the trees differ are those with the path of the file. -/
lemma differsIn (differs : tree.DiffersAt other p) : tree.DiffersIn other fun location => pathOf location = tree.absolute p :=
  ⟨differs.workingDirectory, differs.elsewhere, differs.file⟩

/-- Both trees see paths from the same directory. -/
lemma absolute (differs : tree.DiffersAt other p) : other.absolute = tree.absolute :=
  differs.differsIn.absolute

/-- It does not matter which of the trees comes first. -/
lemma symm (differs : tree.DiffersAt other p) : other.DiffersAt tree p where
  workingDirectory := differs.workingDirectory.symm
  elsewhere location h := (differs.elsewhere location (by rwa [differs.absolute] at h)).symm
  file location h := (differs.file location (by rwa [differs.absolute] at h)).symm

/-- A path that leads to another place than the file in one tree leads there in the other. -/
lemma locate_eq (differs : tree.DiffersAt other p) {place : Location} (h : tree.locate q = .ok place)
    (ne : pathOf place ≠ tree.absolute p) : other.locate q = .ok place :=
  differs.differsIn.locate_eq h ne

/-- The directories of both trees are the same. -/
lemma isDirectory_eq (differs : tree.DiffersAt other p) (q : Path) : other.isDirectory q = tree.isDirectory q :=
  differs.differsIn.isDirectory_eq q

/-- A path that does not name the file leads to the same entry in both trees. -/
lemma node?_eq (differs : tree.DiffersAt other p) (plain : tree.workingDirectory.IsPlain)
    (ne : tree.absolute q ≠ tree.absolute p) : other.node? q = tree.node? q := by
  have same {tree other : FileTree} (differs : tree.DiffersAt other p) (plain : tree.workingDirectory.IsPlain)
      (ne : tree.absolute q ≠ tree.absolute p) {node : Node} (h : tree.node? q = some node) :
      other.node? q = some node := by
    obtain ⟨place, located, entry⟩ := node?_eq_some_iff.mp h
    exact differs.differsIn.node?_eq_some located entry (by rwa [← absolute_eq_pathOf plain located])
  refine Option.ext fun node => ⟨same differs.symm ?_ ?_, same differs plain ne⟩
  · rwa [differs.workingDirectory]
  · rwa [differs.absolute]

/-- A path that does not name the file leads to a file in both trees or in none. -/
lemma isFile_eq (differs : tree.DiffersAt other p) (plain : tree.workingDirectory.IsPlain)
    (ne : tree.absolute q ≠ tree.absolute p) : other.isFile q = tree.isFile q := by
  unfold isFile
  rw [differs.node?_eq plain ne]

/-- A document other than the file has the same text in both trees. -/
lemma read_eq (differs : tree.DiffersAt other p) (plain : tree.workingDirectory.IsPlain)
    (ne : tree.absolute q ≠ tree.absolute p) : (Source.ofTree other).read q = (Source.ofTree tree).read q := by
  have stored : (Source.ofTree other).stored q = (Source.ofTree tree).stored q := by
    change (if other.isFile q then other.readText q else .ok "") = if tree.isFile q then tree.readText q else .ok ""
    rw [differs.isFile_eq plain ne]
    split
    · rename_i isFile
      obtain ⟨place, content, e, _⟩ := exists_of_isFile isFile
      have elsewhere : pathOf place ≠ tree.absolute p := by rwa [← absolute_eq_pathOf plain e]
      rw [readText, readText, readBytes, readBytes, e, differs.locate_eq e elsewhere]
      dsimp only
      rw [differs.elsewhere place elsewhere]
    · rfl
  rw [Source.read, Source.read, stored]

end DiffersAt

/-- Locations with plain names and the same components are one location. -/
lemma eq_of_components_eq {location place : Location} (plain : location.IsPlain) (plain' : place.IsPlain)
    (h : (pathOf location).components = (pathOf place).components) : location = place := by
  rw [components_pathOf plain, components_pathOf plain'] at h
  exact (List.map_inj_right fun _ _ e => Component.name.inj e).mp (List.tail_eq_of_cons_eq h)

/-- Locations with plain names and one path are one location. -/
lemma eq_of_pathOf_eq {location place : Location} (plain : location.IsPlain) (plain' : place.IsPlain)
    (h : pathOf location = pathOf place) : location = place :=
  eq_of_components_eq plain plain' (congrArg Path.components h)

/-- A tree with one more file differs at the file. -/
lemma differsAt_cons {entries : List (Location × Node)} {workingDirectory location : Location} {content : ByteArray}
    (plain : IsPlain ⟨(location, .file content) :: entries, workingDirectory⟩) (below : location ≠ [])
    (fresh : entries.lookup location = none) :
    DiffersAt ⟨(location, .file content) :: entries, workingDirectory⟩ ⟨entries, workingDirectory⟩
      (pathOf location) := by
  have located : location.IsPlain := plain.entries (location, .file content) (by simp)
  have plain' : IsPlain ⟨entries, workingDirectory⟩ :=
    ⟨plain.workingDirectory, fun entry mem => plain.entries entry (.tail _ mem)⟩
  obtain ⟨name, names, rfl⟩ := List.exists_cons_of_ne_nil below
  refine ⟨rfl, fun place ne => ?_, fun place isFile => ⟨fun e => ?_, fun e => ?_⟩⟩
  · rw [absolute_pathOf _ located] at ne
    cases place with
    | nil => rfl
    | cons first rest =>
      have other : first :: rest ≠ name :: names := fun e => ne (congrArg pathOf e)
      change entries.lookup (first :: rest) = ((name :: names, Node.file content) :: entries).lookup (first :: rest)
      rw [List.lookup_cons, beq_eq_false_iff_ne.mpr other]
  · rw [absolute_pathOf _ located] at isFile
    obtain rfl := eq_of_pathOf_eq (plain.of_get? (by rw [e]; rfl)) located isFile
    simp [get?] at e
  · rw [absolute_pathOf _ located] at isFile
    obtain rfl := eq_of_pathOf_eq (plain'.of_get? (by rw [e]; rfl)) located isFile
    simp [get?, fresh] at e

section Listing

variable {location : Location} {name : String}

/-- The names below a location are those at which there is an entry. -/
lemma mem_namesAt_iff : name ∈ tree.namesAt location ↔ (tree.get? (location ++ [name])).isSome := by
  have get : tree.get? (location ++ [name]) = tree.entries.lookup (location ++ [name]) := by
    unfold get?
    split
    · rename_i e
      simp at e
    · rfl
  rw [get, List.lookup_isSome_iff, namesAt, List.mem_filterMap]
  refine exists_congr fun entry => and_congr_right fun _ => ?_
  rw [beq_iff_eq, nameBelow?]
  obtain e | ⟨init, last, e⟩ := List.eq_nil_or_concat entry.1
  · simp [e]
  · simp [e, eq_comm]

/-- What a directory lists are plain names. -/
lemma IsPlain.of_mem_list (plain : tree.IsPlain) {p : Path} (mem : name ∈ tree.list p) : Plain name.toList := by
  unfold list at mem
  split at mem
  · split at mem
    · exact plain.of_get? (mem_namesAt_iff.mp mem) name (by simp)
    · simp at mem
  · simp at mem

/-- A directory lists the names at which there is an entry. -/
lemma mem_list_iff (plain : location.IsPlain) :
    name ∈ tree.list (pathOf location) ↔
      tree.isDirectory (pathOf location) ∧ (tree.get? (location ++ [name])).isSome := by
  rw [← mem_namesAt_iff]
  unfold list isDirectory node?
  cases e : tree.locate (pathOf location) with
  | error fault => simp
  | ok place =>
    obtain rfl := locate_pathOf plain e
    cases entry : tree.get? place with
    | none => simp [entry]
    | some node => cases node <;> simp [entry, Node.isDirectory]

end Listing

end FigureGallery.FileTree
