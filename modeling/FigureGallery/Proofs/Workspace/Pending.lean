import FigureGallery.Proofs.Workspace.Operation

/-!
# Scans that are waited for

An edit while the gallery is open sets a deadline, and the figures are scanned when it has passed. A workspace keeps
waiting through further edits, through documents that are opened, changed, closed or made active, and until the deadline
has passed. It does not keep waiting when the configuration is read: the session is made anew, and while the gallery
stays open and the document stays active, the deadline is lost, so that the edit is never scanned for.
-/

namespace FigureGallery

namespace Session

/-- An open gallery that waits for its next scan. -/
structure IsWaiting (s : Session) : Prop where
  isOpen : s.isOpen
  isPending : s.debouncer.isPending

variable {s : Session}

/-- Making a document active does not end a wait. -/
lemma IsWaiting.withActive (waits : s.IsWaiting) (document : Path) : (s.withActive document).IsWaiting := by
  obtain ⟨active, e⟩ := withActive_eq s document
  rw [e]
  exact ⟨waits.isOpen, waits.isPending⟩

/-- Forgetting the active document does not end a wait. -/
lemma IsWaiting.withoutActive (waits : s.IsWaiting) (document : Path) : (s.withoutActive document).IsWaiting := by
  obtain ⟨active, e⟩ := withoutActive_eq s document
  rw [e]
  exact ⟨waits.isOpen, waits.isPending⟩

/-- Setting the deadline anew does not end a wait. -/
lemma IsWaiting.armed (waits : s.IsWaiting) (now : Nat) : (s.armed now).IsWaiting :=
  ⟨waits.isOpen, rfl⟩

/-- No trigger but the request for the gallery ends a wait. -/
lemma IsWaiting.handle (waits : s.IsWaiting) {trigger : Trigger} (other : trigger ≠ .openRequested) (now : Nat) :
    (s.handle trigger now).2.IsWaiting := by
  cases trigger with
  | openRequested => exact absurd rfl other
  | activeChanged document =>
    rw [Session.handle]
    split
    · exact (waits.withActive document).armed now
    · exact waits.withActive document
  | textChanged document =>
    rw [Session.handle]
    split
    · exact waits.armed now
    · exact waits

/-- A wait ends only when its deadline has passed. -/
lemma IsWaiting.takeDue (waits : s.IsWaiting) {now : Nat} (early : ¬ (s.takeDue now).1) : (s.takeDue now).2.IsWaiting := by
  rw [Session.takeDue, if_pos waits.isOpen] at early ⊢
  refine ⟨waits.isOpen, ?_⟩
  rw [Debouncer.takeDue] at early ⊢
  split at early
  · simp at early
  · rename_i notDue
    rw [if_neg notDue]
    exact waits.isPending

end Session

namespace Workspace

variable {w : Workspace}

/-- A session of a new configuration is as open as the one before, and waits for nothing. -/
lemma renewed_eq (session : Session) (scanner : Option Scanner) :
    (renewed session scanner).isOpen = session.isOpen ∧ (renewed session scanner).debouncer.deadline = none := by
  have fresh : (sessionFor scanner).debouncer.deadline = none := by cases scanner <;> rfl
  rw [renewed]
  cases session.active with
  | none => exact ⟨rfl, fresh⟩
  | some document =>
    obtain ⟨active, e⟩ := Session.withActive_eq { sessionFor scanner with isOpen := session.isOpen } document
    rw [Option.elim_some, e]
    exact ⟨rfl, fresh⟩

/-- Reading the configuration ends a wait without a scan. -/
lemma not_isPending_configure (w : Workspace) (tree : FileTree) (root : Option Path) :
    (w.configure tree root).session.debouncer.isPending = false := by
  rw [configure, Debouncer.isPending, (renewed_eq _ _).2]
  rfl

/-- Whether an operation scans at once or gives the next scan up: it asks for the gallery, closes it, or comes when the
deadline has passed. -/
def settles (w : Workspace) : Operation → Bool
  | .openGallery _ _ => true
  | .closeGallery => true
  | .takeDue now => (w.takeDue now).1
  | _ => false

/-- None of the operations settles the scan that is waited for when its turn comes. -/
def NoneSettles (w : Workspace) : List Operation → Prop
  | [] => True
  | operation :: operations => w.settles operation = false ∧ NoneSettles (w.step operation) operations

/-- A wait goes on through every operation that does not settle the scan, reading the configuration aside. -/
lemma isWaiting_step (waits : w.session.IsWaiting) {operation : Operation}
    (unsettled : w.settles operation = false) (other : operation.isConfigure = false) :
    (w.step operation).session.IsWaiting := by
  cases operation with
  | configure tree root => simp [Operation.isConfigure] at other
  | openDocument document text now => exact waits.handle (by simp) now
  | applyChanges document changes =>
    rw [step, session_applyChanges]
    exact waits
  | recordEdit document now => exact (waits.withActive document).handle (by simp) now
  | closeDocument tree document now =>
    refine Session.IsWaiting.handle ?_ (by simp) now
    dsimp only
    split
    · exact waits
    · exact waits.withoutActive document
  | activeChanged document now => exact waits.handle (by simp) now
  | openGallery document? now => simp [settles] at unsettled
  | closeGallery => simp [settles] at unsettled
  | takeDue now => exact waits.takeDue (by simpa [settles, Workspace.takeDue] using unsettled)

/-- A wait goes on through a run of such operations. -/
lemma isWaiting_run (waits : w.session.IsWaiting) {operations : List Operation} (unsettled : w.NoneSettles operations)
    (other : ∀ operation ∈ operations, operation.isConfigure = false) : (w.run operations).session.IsWaiting := by
  induction operations generalizing w with
  | nil => exact waits
  | cons operation operations ih =>
    rw [run_cons]
    obtain ⟨first, rest⟩ := List.forall_mem_cons.mp other
    exact ih (isWaiting_step waits unsettled.1 first) unsettled.2 rest

/-- Of the operations that do not settle the scan, exactly the reading of the configuration ends a wait. Then the gallery
is still open, but no time ever comes at which the scan is due. -/
theorem isPending_step_iff_not_configure (waits : w.session.IsWaiting) :
    (∀ operation, w.settles operation = false →
      ((w.step operation).session.debouncer.isPending ↔ operation.isConfigure = false)) ∧
    (∀ operations, w.NoneSettles operations → (∀ operation ∈ operations, operation.isConfigure = false) →
      (w.run operations).session.IsWaiting) ∧
    ∀ tree root, (w.configure tree root).session.isOpen ∧ ∀ now, ((w.configure tree root).takeDue now).1 = false := by
  refine ⟨fun operation unsettled => ⟨fun pending => ?_, fun other => ?_⟩,
    fun operations unsettled other => isWaiting_run waits unsettled other, fun tree root => ⟨?_, fun now => ?_⟩⟩
  · -- Whoever still waits has not read the configuration.
    cases operation with
    | configure tree root =>
      have := not_isPending_configure w tree root
      exact absurd pending (by simp [step, this])
    | _ => rfl
  · exact (isWaiting_step waits unsettled other).isPending
  · rw [configure, (renewed_eq _ _).1]
    exact waits.isOpen
  · have none : (w.configure tree root).session.debouncer.deadline = none := (renewed_eq _ _).2
    simp [Workspace.takeDue, Session.takeDue, Debouncer.takeDue, Debouncer.isDue, none]

/-- An edit of an open document in an open gallery, and then another edit or the configuration. -/
theorem isPending_step_iff_not_configure_edited :
    let w := run empty [.openGallery none 0, .openDocument ⟨"/a.typ"⟩ "" 0, .recordEdit ⟨"/a.typ"⟩ 1]
    w.Reachable ∧ w.session.IsWaiting ∧ (w.step (.recordEdit ⟨"/b.typ"⟩ 2)).session.debouncer.isPending ∧
      ¬ (w.step (.configure ⟨[], []⟩ none)).session.debouncer.isPending := by
  intro w
  have waits : w.session.IsWaiting := ⟨by decide +kernel, by decide +kernel⟩
  obtain ⟨only, _, _⟩ := isPending_step_iff_not_configure waits
  refine ⟨⟨_, rfl⟩, waits, (only _ rfl).mpr rfl, fun pending => ?_⟩
  exact absurd ((only _ rfl).mp pending) (by decide)

end Workspace

end FigureGallery
