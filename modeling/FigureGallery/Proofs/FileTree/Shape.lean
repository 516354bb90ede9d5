import FigureGallery.Proofs.FileTree.Difference

/-!
# Trees of one shape

Two file trees of one shape have the same directories and files at the same locations, whatever the files contain. Paths
lead to the same locations in both. New content for a file keeps the shape of a tree.
-/

namespace FigureGallery.FileTree

open FigureGallery.Path

/-- Two trees that differ at most in the contents of their files. -/
structure SameShape (tree other : FileTree) : Prop where
  workingDirectory : other.workingDirectory = tree.workingDirectory
  kind : ∀ location, (other.get? location).map Node.isDirectory = (tree.get? location).map Node.isDirectory

/-- The file that a path leads to, if any, has the same content in two trees. -/
def SameContent (tree other : FileTree) (p : Path) : Prop :=
  ∀ location, tree.locate p = .ok location → other.get? location = tree.get? location

variable {tree other : FileTree} {location : Location}

lemma SameShape.refl (tree : FileTree) : tree.SameShape tree :=
  ⟨rfl, fun _ => rfl⟩

lemma SameShape.trans {third : FileTree} (second : other.SameShape third) (first : tree.SameShape other) :
    tree.SameShape third :=
  ⟨second.workingDirectory.trans first.workingDirectory, fun location => (second.kind location).trans (first.kind location)⟩

lemma isDirectory_iff_kind :
    tree.get? location = some .directory ↔ (tree.get? location).map Node.isDirectory = some true := by
  cases tree.get? location with
  | none => simp
  | some node => cases node <;> simp [Node.isDirectory]

/-- A location has a file. -/
def HasFile (tree : FileTree) (location : Location) : Prop :=
  ∃ content, tree.get? location = some (.file content)

lemma hasFile_iff_kind : tree.HasFile location ↔ (tree.get? location).map Node.isDirectory = some false := by
  rw [HasFile]
  cases tree.get? location with
  | none => simp
  | some node => cases node <;> simp [Node.isDirectory]

/-- A path leads to a file when there is one at the location that it leads to. -/
lemma isFile_iff {p : Path} : tree.isFile p ↔ ∃ location, tree.locate p = .ok location ∧ tree.HasFile location := by
  constructor
  · intro h
    obtain ⟨location, content, located, e⟩ := exists_of_isFile h
    exact ⟨location, located, content, e⟩
  · rintro ⟨location, located, content, e⟩
    rw [isFile, node?_eq_some_iff.mpr ⟨location, located, e⟩]

/-- Only a file has a text. -/
lemma isFile_of_readText {p : Path} {text : String} (h : tree.readText p = .ok text) : tree.isFile p := by
  rw [readText] at h
  split at h
  · simp at h
  · rename_i content e
    rw [readBytes] at e
    split at e
    · simp at e
    · rename_i location located
      split at e
      · rename_i content' entry
        exact isFile_iff.mpr ⟨location, located, content', entry⟩
      · simp at e
      · simp at e

lemma follow_eq_error (h : tree.get? location ≠ some .directory) (part : List Char) (parts : List (List Char)) :
    tree.follow location (part :: parts) = .error .notADirectory := by
  rw [follow]
  split
  · rename_i directory
    exact absurd directory h
  · rfl

namespace SameShape

variable (same : tree.SameShape other)

include same

/-- At each location both trees have nothing, a directory, or a file each. -/
lemma entry_cases (location : Location) :
    (tree.get? location = none ∧ other.get? location = none) ∨
    (tree.get? location = some .directory ∧ other.get? location = some .directory) ∨
    ∃ content content', tree.get? location = some (.file content) ∧ other.get? location = some (.file content') := by
  have kind := same.kind location
  cases here : tree.get? location with
  | none =>
    rw [here, Option.map_none, Option.map_eq_none_iff] at kind
    exact .inl ⟨rfl, kind⟩
  | some node =>
    rw [here] at kind
    obtain ⟨node', there, kind⟩ := Option.map_eq_some_iff.mp kind
    cases node with
    | directory =>
      cases node' with
      | directory => exact .inr (.inl ⟨rfl, there⟩)
      | file content => simp [Node.isDirectory] at kind
    | file content =>
      cases node' with
      | directory => simp [Node.isDirectory] at kind
      | file content' => exact .inr (.inr ⟨content, content', rfl, there⟩)

lemma isSome_get? (location : Location) : (other.get? location).isSome = (tree.get? location).isSome := by
  rw [← Option.isSome_map, same.kind, Option.isSome_map]

lemma follow_eq (location : Location) (parts : List (List Char)) :
    other.follow location parts = tree.follow location parts := by
  have directory {location : Location} : other.get? location = some .directory ↔ tree.get? location = some .directory := by
    rw [isDirectory_iff_kind, isDirectory_iff_kind, same.kind]
  induction parts generalizing location with
  | nil => rfl
  | cons part parts ih =>
    by_cases h : tree.get? location = some .directory
    · rw [follow, follow, h, directory.mpr h]
      simp only [ih, same.isSome_get?]
    · rw [follow_eq_error h, follow_eq_error (mt directory.mp h)]

/-- Paths lead to the same locations. -/
lemma locate_eq (p : Path) : other.locate p = tree.locate p := by
  have start : other.start p = tree.start p := by
    unfold FileTree.start
    rw [same.workingDirectory]
  rw [locate, locate, start]
  exact congrArg _ (funext fun place => same.follow_eq place.1 place.2)

lemma hasFile_iff : other.HasFile location ↔ tree.HasFile location := by
  rw [hasFile_iff_kind, hasFile_iff_kind, same.kind]

lemma isFile_eq (p : Path) : other.isFile p = tree.isFile p := by
  rw [Bool.eq_iff_iff, isFile_iff, isFile_iff]
  simp only [same.locate_eq, same.hasFile_iff]

lemma isDirectory_eq (p : Path) : other.isDirectory p = tree.isDirectory p := by
  rw [Bool.eq_iff_iff, isDirectory_iff, isDirectory_iff, node?_eq_some_iff, node?_eq_some_iff]
  simp only [same.locate_eq, isDirectory_iff_kind, same.kind]

/-- Directories list the same names. -/
lemma mem_list_iff {p : Path} {name : String} : name ∈ other.list p ↔ name ∈ tree.list p := by
  unfold list
  rw [same.locate_eq]
  cases tree.locate p with
  | error fault => rfl
  | ok location =>
    have directory : (other.get? location).any Node.isDirectory = (tree.get? location).any Node.isDirectory := by
      have kinds := congrArg (Option.any id) (same.kind location)
      rw [Option.any_map, Option.any_map] at kinds
      exact kinds
    dsimp only
    rw [directory]
    split
    · rw [mem_namesAt_iff, mem_namesAt_iff, same.isSome_get?]
    · rfl

lemma absolute_eq : other.absolute = tree.absolute := by
  funext p
  rw [FileTree.absolute, FileTree.absolute, workingPath, workingPath, same.workingDirectory]

/-- A file has the text that it has in the other tree, if its content is the same. -/
lemma readText_eq {p : Path} (content : tree.SameContent other p) : other.readText p = tree.readText p := by
  have bytes : other.readBytes p = tree.readBytes p := by
    rw [readBytes, readBytes, same.locate_eq]
    cases located : tree.locate p with
    | error fault => rfl
    | ok location => simp only [content location located]
  rw [readText, readText, bytes]

end SameShape

/-- What is put at a location is there, and everything else is as it was. -/
lemma get?_set (tree : FileTree) (below : location ≠ []) (node : Node) (place : Location) :
    (tree.set location node).get? place = if place = location then some node else tree.get? place := by
  have others (entries : List (Location × Node)) (ne : place ≠ location) :
      (entries.filter fun entry => entry.1 != location).lookup place = entries.lookup place := by
    induction entries with
    | nil => rfl
    | cons entry entries ih =>
      obtain ⟨key, entry⟩ := entry
      by_cases removed : key = location
      · subst removed
        simp [List.lookup_cons, beq_eq_false_iff_ne.mpr ne, ih]
      · simp [List.lookup_cons, removed, ih]
  cases place with
  | nil => rw [if_neg (Ne.symm below), get?, get?]
  | cons name names =>
    change ((location, node) :: tree.entries.filter fun entry => entry.1 != location).lookup (name :: names) =
      if name :: names = location then some node else tree.entries.lookup (name :: names)
    by_cases here : name :: names = location
    · simp [here]
    · rw [if_neg here, List.lookup_cons, beq_eq_false_iff_ne.mpr here]
      exact others tree.entries here

lemma HasFile.ne_nil (hasFile : tree.HasFile location) : location ≠ [] := by
  rintro rfl
  obtain ⟨content, e⟩ := hasFile
  simp [get?] at e

/-- New content for a file. -/
lemma sameShape_set (hasFile : tree.HasFile location) (content : ByteArray) :
    tree.SameShape (tree.set location (.file content)) := by
  refine ⟨rfl, fun place => ?_⟩
  rw [tree.get?_set hasFile.ne_nil]
  split
  · rename_i here
    rw [here, hasFile_iff_kind.mp hasFile]
    rfl
  · rfl

end FigureGallery.FileTree
