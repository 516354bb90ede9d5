import FigureGallery.Proofs.Path.FileName
import FigureGallery.Proofs.Workspace.Pending

/-!
# Coherent workspaces

What holds of every workspace that operations make of the empty one: the active document has the extension of the
session, this is the extension of the scanner or else the default one, and the scanner was made for some project. So
whenever a document is active there is a scanner for it.
-/

namespace FigureGallery

namespace Session

/-- What a step of a session keeps: the extension of documents; and a document that becomes active is one. -/
structure Follows (after before : Session) : Prop where
  extension : after.extension = before.extension
  active : ∀ document ∈ after.active, document ∈ before.active ∨ before.accepts document

variable {s t u : Session}

/-- A session that changes in nothing else than whether it is open and when it scans. -/
lemma Follows.of_eq (extension : t.extension = s.extension) (active : t.active = s.active) : t.Follows s where
  extension := extension
  active _ mem := .inl (active ▸ mem)

/-- One step after another. -/
lemma Follows.trans (second : u.Follows t) (first : t.Follows s) : u.Follows s where
  extension := second.extension.trans first.extension
  active document mem := by
    cases second.active document mem with
    | inl mem => exact first.active document mem
    | inr accepted =>
      rw [accepts, first.extension] at accepted
      exact .inr accepted

/-- A document is made active only when it is one. -/
lemma follows_withActive (s : Session) (document : Path) : (s.withActive document).Follows s := by
  rw [withActive]
  split
  · rename_i accepts
    refine ⟨rfl, fun other mem => ?_⟩
    obtain rfl := Option.some.inj mem
    exact .inr accepts
  · exact .of_eq rfl rfl

/-- No document becomes active when one is forgotten. -/
lemma follows_withoutActive (s : Session) (document : Path) : (s.withoutActive document).Follows s := by
  rw [withoutActive]
  split
  · exact ⟨rfl, by simp⟩
  · exact .of_eq rfl rfl

/-- An answer to a trigger is a step. -/
lemma follows_handle (s : Session) (trigger : Trigger) (now : Nat) : (s.handle trigger now).2.Follows s := by
  cases trigger with
  | openRequested => exact .of_eq rfl rfl
  | activeChanged document =>
    rw [handle]
    split
    · exact Follows.trans (t := s.withActive document) (.of_eq rfl rfl) (s.follows_withActive document)
    · exact s.follows_withActive document
  | textChanged document =>
    rw [handle]
    split
    · exact .of_eq rfl rfl
    · exact .of_eq rfl rfl

/-- Asking whether a scan is due is a step. -/
lemma follows_takeDue (s : Session) (now : Nat) : (s.takeDue now).2.Follows s := by
  rw [takeDue]
  split
  · exact .of_eq rfl rfl
  · exact .of_eq rfl rfl

/-- Every call is a step, and so are calls one after another. -/
lemma follows_run (s : Session) (calls : List Call) : (s.run calls).2.Follows s := by
  induction calls generalizing s with
  | nil => exact .of_eq rfl rfl
  | cons c calls ih =>
    refine (ih _).trans ?_
    cases c with
    | handle trigger now => exact s.follows_handle trigger now
    | opened => exact .of_eq rfl rfl
    | closed => exact .of_eq rfl rfl
    | withActive document => exact s.follows_withActive document
    | withoutActive document => exact s.follows_withoutActive document
    | takeDue now => exact s.follows_takeDue now

end Session

/-- A scanner with default options can always be made. -/
lemma Scanner.exists_make_default (tree : FileTree) (root : Path) :
    ∃ scanner, Scanner.make tree root .default = .ok scanner :=
  ⟨_, rfl⟩

namespace Workspace

/-- A workspace whose session and scanner agree. -/
structure Coherent (w : Workspace) : Prop where
  active : ∀ document ∈ w.session.active, w.session.accepts document
  extension : w.session.extension = (sessionFor w.scanner).extension
  scanner : ∀ scanner ∈ w.scanner, ∃ tree root options, Scanner.make tree root options = .ok scanner

variable {w : Workspace}

/-- A scanner of a project is made for its root. -/
lemma make_of_scannerAt {tree : FileTree} {root : Path} {scanner : Scanner} (h : scannerAt tree root = some scanner) :
    ∃ options, Scanner.make tree root options = .ok scanner := by
  unfold scannerAt at h
  split at h
  · rename_i e
    obtain rfl := Option.some.inj h
    unfold Scanner.load at e
    split at e
    · exact ⟨_, e⟩
    · exact ⟨_, e⟩
    · simp at e
  · refine ⟨.default, ?_⟩
    generalize Scanner.make tree root .default = made at h ⊢
    cases made with
    | ok made => exact congrArg Except.ok (Option.some.inj h)
    | error e => simp [Except.toOption] at h

/-- A step of the session keeps a workspace coherent, whatever happens to the texts. -/
lemma Coherent.of_follows (ok : w.Coherent) {buffers : Buffers} {session : Session}
    (follows : session.Follows w.session) : ({ w with buffers, session } : Workspace).Coherent where
  active document mem := by
    have accepts : w.session.accepts document := by
      cases follows.active document mem with
      | inl mem => exact ok.active document mem
      | inr accepts => exact accepts
    rw [Session.accepts, follows.extension]
    exact accepts
  extension := follows.extension.trans ok.extension
  scanner := ok.scanner

/-- Reading the configuration makes a workspace coherent. -/
lemma coherent_configure (w : Workspace) (tree : FileTree) (root : Option Path) : (w.configure tree root).Coherent := by
  -- The session starts anew, and only the document that was active may become active in it.
  let scanner := root.bind (scannerAt tree)
  let fresh : Session := { sessionFor scanner with isOpen := w.session.isOpen }
  have follows : (renewed w.session scanner).Follows fresh := by
    rw [renewed]
    cases w.session.active with
    | none => exact .of_eq rfl rfl
    | some document => exact fresh.follows_withActive document
  have inactive : fresh.active = none := by
    change (sessionFor scanner).active = none
    cases scanner <;> rfl
  refine ⟨fun document mem => ?_, follows.extension, fun made mem => ?_⟩
  · cases follows.active document mem with
    | inl mem => simp [inactive] at mem
    | inr accepts =>
      change (renewed w.session scanner).accepts document
      rw [Session.accepts, follows.extension]
      exact accepts
  · obtain ⟨root, _, e⟩ := Option.bind_eq_some_iff.mp mem
    obtain ⟨options, e⟩ := make_of_scannerAt e
    exact ⟨tree, root, options, e⟩

/-- Every operation keeps a workspace coherent. -/
lemma Coherent.step (ok : w.Coherent) (operation : Operation) : (w.step operation).Coherent := by
  cases read : operation.configuration? with
  | some configuration =>
    cases operation with
    | configure tree root => exact w.coherent_configure tree root
    | _ => simp [Operation.configuration?] at read
  | none =>
    obtain ⟨buffers, calls, e⟩ := w.step_eq read
    rw [e]
    exact ok.of_follows (w.session.follows_run calls)

/-- Every reachable workspace is coherent. -/
lemma Reachable.coherent (reachable : w.Reachable) : w.Coherent := by
  have run (operations : List Operation) : ∀ {w : Workspace}, w.Coherent → (w.run operations).Coherent := by
    induction operations with
    | nil => exact id
    | cons operation operations ih => exact fun ok => ih (ok.step operation)
  obtain ⟨operations, rfl⟩ := reachable
  exact run operations ⟨by simp [empty, Session.start], rfl, by simp [empty]⟩

/-- A scan takes place when a document is active. -/
lemma Coherent.isSome_scan (ok : w.Coherent) (tree : FileTree) : (w.scan tree).isSome = w.session.active.isSome := by
  rw [scan]
  cases e : w.session.active with
  | none => rfl
  | some active =>
    obtain ⟨s, name, _⟩ := Path.hasExtension_iff.mp (ok.active active e)
    obtain ⟨directory, parent, _⟩ := Path.exists_parent?_of_fileName? name
    rw [Option.bind_some, Option.isSome_map, scannerFor]
    cases w.scanner with
    | some scanner => rfl
    | none =>
      obtain ⟨scanner, made⟩ := Scanner.exists_make_default tree directory
      simp only [parent, Option.bind_some, made]
      rfl

end Workspace

end FigureGallery
