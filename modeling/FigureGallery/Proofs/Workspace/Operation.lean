import FigureGallery.Proofs.Session.History
import FigureGallery.Workspace

/-!
# Operations of a workspace

All that can happen to a workspace, one operation at a time, each with the time and the files that it meets. A reachable
workspace is what some operations make of the empty one.
-/

namespace FigureGallery.Workspace

/-- What can happen to a workspace. -/
inductive Operation where
  /-- The workspace is pointed at a root, and the configuration there is read. -/
  | configure (tree : FileTree) (root : Option Path)
  | openDocument (document : Path) (text : String) (now : Nat)
  | applyChanges (document : Path) (changes : List Change)
  | recordEdit (document : Path) (now : Nat)
  | closeDocument (tree : FileTree) (document : Path) (now : Nat)
  | activeChanged (document : Path) (now : Nat)
  /-- The gallery is asked for, maybe with a document that becomes active. -/
  | openGallery (document? : Option Path) (now : Nat)
  | closeGallery
  | takeDue (now : Nat)

namespace Operation

/-- Whether an operation reads the configuration. -/
def isConfigure : Operation → Bool
  | .configure _ _ => true
  | _ => false

/-- Where an operation reads the configuration: the files, and the root that the workspace gets. -/
def configuration? : Operation → Option (FileTree × Option Path)
  | .configure tree root => some (tree, root)
  | _ => none

end Operation

/-- The workspace after an operation. -/
def step (w : Workspace) : Operation → Workspace
  | .configure tree root => w.configure tree root
  | .openDocument document text now => (w.openDocument document text now).2
  | .applyChanges document changes => (w.applyChanges document changes).1
  | .recordEdit document now => (w.recordEdit document now).2
  | .closeDocument tree document now => (w.closeDocument tree document now).2
  | .activeChanged document now => (w.handle (.activeChanged document) now).2
  | .openGallery document? now =>
    ({ w with session := document?.elim w.session w.session.withActive }.openGallery now).2
  | .closeGallery => w.closeGallery
  | .takeDue now => (w.takeDue now).2

/-- The workspace after operations, one after another. -/
def run (w : Workspace) (operations : List Operation) : Workspace :=
  operations.foldl step w

/-- A workspace that operations make of the empty one. -/
def Reachable (w : Workspace) : Prop :=
  ∃ operations, w = run empty operations

/-- Operations one after another, and then more of them. -/
lemma run_cons (w : Workspace) (operation : Operation) (operations : List Operation) :
    w.run (operation :: operations) = (w.step operation).run operations := rfl

/-- Operations in two parts, one after the other. -/
lemma run_append (w : Workspace) (operations more : List Operation) :
    w.run (operations ++ more) = (w.run operations).run more :=
  List.foldl_append

/-- Changes of a text leave the session alone. -/
@[simp]
lemma session_applyChanges (w : Workspace) (document : Path) (changes : List Change) :
    (w.applyChanges document changes).1.session = w.session := by
  rw [applyChanges]
  split
  · rfl
  · split <;> rfl

/-- What is not the reading of the configuration changes texts, and calls the session. -/
lemma step_eq (w : Workspace) {operation : Operation} (other : operation.configuration? = none) :
    ∃ buffers calls, w.step operation = { w with buffers, session := (w.session.run calls).2 } := by
  cases operation with
  | configure tree root => simp [Operation.configuration?] at other
  | openDocument document text now =>
    exact ⟨w.buffers.set document text, [.handle (.activeChanged document) now], rfl⟩
  | applyChanges document changes =>
    rw [step, applyChanges]
    split
    · exact ⟨_, [], rfl⟩
    · split
      · exact ⟨_, [], rfl⟩
      · exact ⟨w.buffers, [], rfl⟩
  | recordEdit document now =>
    exact ⟨w.buffers, [.withActive document, .handle (.textChanged document) now], rfl⟩
  | closeDocument tree document now =>
    cases isFile : tree.isFile document with
    | true =>
      refine ⟨w.buffers.erase document, [.handle (.textChanged document) now], ?_⟩
      simp only [step, closeDocument, isFile]
      rfl
    | false =>
      refine ⟨w.buffers.erase document, [.withoutActive document, .handle (.textChanged document) now], ?_⟩
      simp only [step, closeDocument, isFile]
      rfl
  | activeChanged document now => exact ⟨w.buffers, [.handle (.activeChanged document) now], rfl⟩
  | openGallery document? now =>
    cases document? with
    | none => exact ⟨w.buffers, [.handle .openRequested now], rfl⟩
    | some document => exact ⟨w.buffers, [.withActive document, .handle .openRequested now], rfl⟩
  | closeGallery => exact ⟨w.buffers, [.closed], rfl⟩
  | takeDue now => exact ⟨w.buffers, [.takeDue now], rfl⟩

end FigureGallery.Workspace
