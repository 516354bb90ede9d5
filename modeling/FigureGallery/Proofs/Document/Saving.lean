import FigureGallery.Proofs.FileTree.Writing

/-!
# Saving open documents

When the texts of open documents are written to their files, the tree keeps its shape, the files hold what was open, and
all other files hold what they held before. So a file that is read afterwards, under whichever path, has the text that
was open under its path from the top, or else the text that it had.
-/

namespace FigureGallery

open FileTree FigureGallery.Path

/-- The open documents after each of some documents was opened with a text. -/
def Buffers.opened (documents : List (Path × String)) : Buffers :=
  documents.foldl (fun buffers document => buffers.set document.1 document.2) .empty

/-- The tree after the text of each document was written to its file. -/
def FileTree.saved (tree : FileTree) (documents : List (Path × String)) : Except FileError FileTree :=
  documents.foldlM (fun tree document => tree.write document.1 document.2.toUTF8) tree

/-- Everything that is open is a file, under its path from the top. -/
def OpensFiles (tree : FileTree) (buffers : Buffers) : Prop :=
  ∀ p, buffers.contains p →
    ∃ location : Location, location.IsPlain ∧ p.components = (pathOf location).components ∧ tree.isFile (pathOf location)

/-- A tree in which the texts of open documents were written to their files. -/
structure Saves (tree : FileTree) (buffers : Buffers) (saved : FileTree) : Prop where
  shape : tree.SameShape saved
  opened : ∀ location : Location, location.IsPlain → ∀ text, buffers.get? (pathOf location) = some text →
    saved.get? location = some (.file text.toUTF8)
  closed : ∀ location : Location, location.IsPlain → buffers.get? (pathOf location) = none →
    saved.get? location = tree.get? location

variable {tree saved : FileTree} {buffers : Buffers} {location : Location}

lemma opensFiles_empty : OpensFiles tree .empty := by
  intro p contains
  simp [Buffers.contains, Buffers.get?, Buffers.empty] at contains

lemma OpensFiles.set (ok : OpensFiles tree buffers) (plain : location.IsPlain) (isFile : tree.isFile (pathOf location))
    (text : String) : OpensFiles tree (buffers.set (pathOf location) text) := by
  intro p contains
  rw [Buffers.contains, Buffers.get?_set] at contains
  split at contains
  · rename_i same
    exact ⟨location, plain, same, isFile⟩
  · exact ok p contains

lemma OpensFiles.of_sameShape (ok : OpensFiles tree buffers) (same : tree.SameShape saved) : OpensFiles saved buffers := by
  intro p contains
  obtain ⟨location, plain, comps, isFile⟩ := ok p contains
  exact ⟨location, plain, comps, by rwa [same.isFile_eq]⟩

/-- Nothing is open under a relative path, however it is spelled. -/
lemma OpensFiles.get?_eq_none (ok : OpensFiles tree buffers) {p : Path} (relative : ¬ p.isAbsolute) :
    buffers.get? p = none := by
  by_contra contains
  obtain ⟨location, _, comps, _⟩ := ok p (Option.isSome_iff_ne_none.mpr contains)
  exact relative ((isAbsolute_congr comps).trans (isAbsolute_pathOf location))

lemma saves_empty (tree : FileTree) : Saves tree .empty tree :=
  ⟨.refl tree, fun _ _ text e => by simp [Buffers.get?, Buffers.empty] at e, fun _ _ _ => rfl⟩

/-- One more document that is opened and saved. -/
lemma Saves.write (saves : Saves tree buffers saved) (plain : location.IsPlain)
    (isFile : tree.isFile (pathOf location)) (text : String) :
    ∃ written, saved.write (pathOf location) text.toUTF8 = .ok written ∧
      Saves tree (buffers.set (pathOf location) text) written := by
  have stillFile : saved.isFile (pathOf location) := by rwa [saves.shape.isFile_eq]
  obtain ⟨place, located, hasFile⟩ := isFile_iff.mp stillFile
  obtain rfl := locate_pathOf plain located
  have key {other : Location} (plain' : other.IsPlain) :
      (pathOf other).components = (pathOf place).components ↔ other = place :=
    ⟨eq_of_components_eq plain' plain, fun h => by rw [h]⟩
  refine ⟨_, write_pathOf plain stillFile text.toUTF8, .trans (sameShape_set hasFile _) saves.shape, ?_, ?_⟩
  · intro other plain' content e
    rw [Buffers.get?_set, if_congr (key plain') rfl rfl] at e
    rw [get?_set _ hasFile.ne_nil]
    split at e
    · rename_i here
      rw [if_pos here, Option.some.inj e]
    · rename_i elsewhere
      rw [if_neg elsewhere]
      exact saves.opened other plain' content e
  · intro other plain' e
    rw [Buffers.get?_set, if_congr (key plain') rfl rfl] at e
    rw [get?_set _ hasFile.ne_nil]
    split at e
    · simp at e
    · rename_i elsewhere
      rw [if_neg elsewhere]
      exact saves.closed other plain' e

/-- Documents that are files can be opened and saved, one after another. -/
lemma exists_saves {documents : List (Path × String)}
    (files : ∀ document ∈ documents, document.1.isAbsolute ∧ document.1.normalize = document.1 ∧ tree.isFile document.1) :
    OpensFiles tree (.opened documents) ∧
      ∃ saved, tree.saved documents = .ok saved ∧ Saves tree (.opened documents) saved := by
  induction documents using List.reverseRecOn with
  | nil => exact ⟨opensFiles_empty, tree, rfl, saves_empty tree⟩
  | append_singleton documents document ih =>
    obtain ⟨opens, saved, e, saves⟩ := ih fun other mem => files other (List.mem_append_left _ mem)
    obtain ⟨absolute, normal, isFile⟩ := files document (by simp)
    obtain ⟨p, text⟩ := document
    obtain ⟨location, plain, here⟩ := exists_normalize_eq_pathOf absolute
    dsimp only at normal isFile here
    rw [normal] at here
    subst here
    obtain ⟨written, e', saves'⟩ := saves.write plain isFile text
    have opened : Buffers.opened (documents ++ [(pathOf location, text)]) =
        (Buffers.opened documents).set (pathOf location) text := by
      rw [Buffers.opened, List.foldl_append]
      rfl
    rw [opened]
    refine ⟨opens.set plain isFile text, written, ?_, saves'⟩
    rw [FileTree.saved] at e
    rw [FileTree.saved, List.foldlM_append, e]
    simp only [List.foldlM_cons, List.foldlM_nil, bind_pure]
    exact e'

/-- A file reads as what was open under its path from the top, and otherwise as it did before. -/
lemma Saves.readText (saves : Saves tree buffers saved) (plain : tree.IsPlain) {p : Path} (isFile : tree.isFile p) :
    saved.readText p = match buffers.get? (tree.absolute p) with
      | some text => .ok text
      | none => tree.readText p := by
  obtain ⟨location, located, content, entry⟩ := isFile_iff.mp isFile
  have locationPlain : location.IsPlain := plain.of_get? (by rw [entry]; rfl)
  rw [absolute_eq_pathOf plain.workingDirectory located]
  cases e : buffers.get? (pathOf location) with
  | some text =>
    simp only [FileTree.readText, readBytes, saves.shape.locate_eq, located, saves.opened location locationPlain text e,
      fromUTF8?_toUTF8]
  | none =>
    simp only [FileTree.readText, readBytes, saves.shape.locate_eq, located, saves.closed location locationPlain e]

end FigureGallery
