import FigureGallery.Proofs.Text.Position
import FigureGallery.Proofs.Workspace.Operation
import Mathlib.Logic.Function.Basic

/-!
# The texts of a client

A client keeps the texts of its open documents and tells the workspace of every change, by the positions between which
the text is replaced. The workspace replaces bytes between two offsets. As long as the client only changes documents that
it has open, between positions that exist, both have the same documents open with the same texts, after every step.
-/

namespace FigureGallery

namespace Change

/-- The text that a client has after a change: the new text in place of the old one, or between what stands before one
position and what stands behind another one that does not come before it. -/
inductive Edits (text : String) : Change → String → Prop where
  | whole {inserted} :
    Edits text ⟨none, inserted⟩ inserted
  | stretch {range inserted pre rest post front} :
    text.toList = pre ++ rest →
    Text.endOf pre = range.start →
    text.toList = front ++ post →
    Text.endOf front = range.stop →
    range.start.Precedes range.stop →
    Edits text ⟨some range, inserted⟩ (String.ofList (pre ++ inserted.toList ++ post))

/-- The text that a client has after a batch of changes, each of them read against the text that the one before it
left. -/
inductive EditsAll : String → List Change → String → Prop where
  | done {text} :
    EditsAll text [] text
  | change {text change middle changes final} :
    Edits text change middle →
    EditsAll middle changes final →
    EditsAll text (change :: changes) final

/-- A change applies as the client means it. -/
lemma Edits.apply {text change text'} (edits : Edits text change text') : change.apply text = .ok text' := by
  cases edits with
  | whole => rfl
  | @stretch range inserted pre rest post front e start e' stop inOrder =>
    have first := Text.Position.offset?_eq_some_iff.mpr ⟨pre, rest, e, start, rfl⟩
    have last := Text.Position.offset?_eq_some_iff.mpr ⟨front, post, e', stop, rfl⟩
    -- What stands before the first position also stands before the last one, so the offsets are in order.
    rw [← start, ← stop] at inOrder
    obtain ⟨mid, rfl, rfl⟩ := Text.Position.exists_eq_append_of_precedes (e.symm.trans e') inOrder
    have ordered : Text.byteLength pre ≤ Text.byteLength (pre ++ mid) := by
      rw [Text.byteLength_append]
      omega
    have before : Text.before (Text.byteLength pre) text.toList = pre := by
      rw [e, Text.before_byteLength]
    have after : Text.after (Text.byteLength (pre ++ mid)) text.toList = post := by
      rw [e', Text.after_byteLength]
    simp only [Change.apply, first, last, if_pos ordered, Text.splice, before, after]

/-- A batch of changes applies as the client means it, and none of them fails. -/
lemma EditsAll.applyAll {text changes text'} (edits : EditsAll text changes text') :
    Change.applyAll text changes = (text', none) := by
  induction edits with
  | done => rfl
  | change first _ ih =>
    rw [Change.applyAll, first.apply]
    exact ih

end Change

namespace Workspace

/-- The texts of the documents that a client has open, by the components of their paths. -/
abbrev Texts := List Path.Component → Option String

/-- The document that an operation opens, changes or closes. -/
def Operation.document? : Operation → Option Path
  | .openDocument document _ _ => some document
  | .applyChanges document _ => some document
  | .closeDocument _ document _ => some document
  | _ => none

/-- What an operation means to the client. Documents are changed only while they are open. -/
inductive Tells : Texts → Operation → Texts → Prop where
  | opened {texts document text now} :
    Tells texts (.openDocument document text now) (Function.update texts document.components (some text))
  | changed {texts document text changes text'} :
    texts document.components = some text →
    Change.EditsAll text changes text' →
    Tells texts (.applyChanges document changes) (Function.update texts document.components (some text'))
  | closed {texts tree document now} :
    Tells texts (.closeDocument tree document now) (Function.update texts document.components none)
  | other {texts operation} :
    operation.document? = none →
    Tells texts operation texts

/-- What operations mean to the client, one after another. -/
inductive TellsAll : Texts → List Operation → Texts → Prop where
  | done {texts} :
    TellsAll texts [] texts
  | step {texts operation middle operations final} :
    Tells texts operation middle →
    TellsAll middle operations final →
    TellsAll texts (operation :: operations) final

/-- A workspace has the documents of a client open, with the texts that the client has, and no others. -/
def Holds (w : Workspace) (texts : Texts) : Prop :=
  ∀ p : Path, w.buffers.get? p = texts p.components

variable {w : Workspace} {texts texts' : Texts}

/-- An operation leaves the texts of other documents alone. -/
lemma get?_step_of_ne (w : Workspace) {operation : Operation} {p : Path}
    (other : ∀ document ∈ operation.document?, p.components ≠ document.components) :
    (w.step operation).buffers.get? p = w.buffers.get? p := by
  cases operation with
  | configure tree root => rfl
  | openDocument document text now =>
    have ne := other document rfl
    change (w.buffers.set document text).get? p = _
    rw [Buffers.get?_set, if_neg ne]
  | applyChanges document changes =>
    have ne := other document rfl
    rw [step, applyChanges]
    split
    · exact (Buffers.get?_set _ _ _ _).trans (if_neg ne)
    · split
      · exact (Buffers.get?_set _ _ _ _).trans (if_neg ne)
      · rfl
  | recordEdit document now => rfl
  | closeDocument tree document now =>
    have ne := other document rfl
    change (w.buffers.erase document).get? p = _
    rw [Buffers.get?_erase, if_neg ne]
  | activeChanged document now => rfl
  | openGallery document? now => rfl
  | closeGallery => rfl
  | takeDue now => rfl

/-- Changes of an open document apply as the client means them, and none of them fails. -/
lemma applyChanges_of_editsAll {document text changes text'} (isOpen : w.buffers.get? document = some text)
    (edits : Change.EditsAll text changes text') :
    w.applyChanges document changes = ({ w with buffers := w.buffers.set document text' }, none) := by
  rw [applyChanges, isOpen]
  dsimp only
  rw [edits.applyAll]

/-- An operation keeps the texts of the workspace those of the client. -/
lemma Holds.step {operation} (holds : w.Holds texts) (tells : Tells texts operation texts') :
    (w.step operation).Holds texts' := by
  intro p
  cases tells with
  | @opened document text now =>
    change (w.buffers.set document text).get? p = _
    rw [Buffers.get?_set, Function.update_apply, holds p]
  | @changed document text changes text' isOpen edits =>
    have applied := applyChanges_of_editsAll ((holds document).trans isOpen) edits
    rw [Workspace.step, applied, Function.update_apply]
    exact (Buffers.get?_set _ _ _ _).trans (by rw [holds p])
  | @closed tree document now =>
    change (w.buffers.erase document).get? p = _
    rw [Buffers.get?_erase, Function.update_apply, holds p]
  | other none =>
    rw [get?_step_of_ne w (by simp [none]), holds p]

/-- Operations keep the texts of the workspace those of the client. -/
lemma Holds.run {operations} (holds : w.Holds texts) (tells : TellsAll texts operations texts') :
    (w.run operations).Holds texts' := by
  induction tells generalizing w with
  | done => exact holds
  | step first _ ih => exact ih (holds.step first)

/-- What a client means by the first operations. -/
lemma TellsAll.take {operations} (tells : TellsAll texts operations texts') (n : Nat) :
    ∃ between, TellsAll texts (operations.take n) between := by
  induction tells generalizing n with
  | @done texts => exact ⟨texts, by simpa using TellsAll.done⟩
  | @step texts _ _ _ _ first _ ih =>
    cases n with
    | zero => exact ⟨texts, .done⟩
    | succ n =>
      obtain ⟨between, tells⟩ := ih n
      exact ⟨between, .step first tells⟩

/-- A batch of changes that the client means does not fail. -/
lemma Holds.noError {operations} (holds : w.Holds texts) (tells : TellsAll texts operations texts') {n document changes}
    (place : operations[n]? = some (.applyChanges document changes)) :
    ((w.run (operations.take n)).applyChanges document changes).2 = none := by
  induction tells generalizing w n with
  | done => simp at place
  | @step _ operation _ _ _ first _ ih =>
    cases n with
    | zero =>
      obtain rfl : operation = .applyChanges document changes := by simpa using place
      cases first with
      | changed isOpen edits =>
        have applied := applyChanges_of_editsAll ((holds document).trans isOpen) edits
        rw [List.take_zero, Workspace.run, List.foldl_nil, applied]
      | other none => simp [Operation.document?] at none
    | succ n =>
      rw [List.take_succ_cons, run_cons]
      exact ih (holds.step first) (by simpa using place)

/-- As long as a client changes documents only while they are open, between positions that exist and are in order, the
workspace has exactly the documents of the client open, after each operation, with the texts that the client has. No
change fails, and no operation changes the text of another document. -/
theorem buffers_hold_client_texts (holds : w.Holds texts) {operations} (tells : TellsAll texts operations texts') :
    (w.run operations).Holds texts' ∧
    (∀ n, ∃ between, TellsAll texts (operations.take n) between ∧ (w.run (operations.take n)).Holds between) ∧
    (∀ n document changes, operations[n]? = some (.applyChanges document changes) →
      ((w.run (operations.take n)).applyChanges document changes).2 = none) ∧
    ∀ n operation p, operations[n]? = some operation → (∀ document ∈ operation.document?, ¬ p.same document) →
      (w.run (operations.take (n + 1))).buffers.get? p = (w.run (operations.take n)).buffers.get? p := by
  refine ⟨holds.run tells, fun n => ?_, fun n document changes => holds.noError tells, fun n operation p place other => ?_⟩
  · obtain ⟨between, first⟩ := tells.take n
    exact ⟨between, first, holds.run first⟩
  · rw [List.take_add_one, place, Option.toList_some, run_append]
    refine get?_step_of_ne _ fun document mem e => ?_
    exact other document mem (beq_iff_eq.mpr e)

/-- A batch that replaces a character of two units, removes the line break behind it and goes on in the joined line. -/
theorem buffers_hold_client_texts_joined_lines :
    let opened : Operation := .openDocument ⟨"/w/a.typ"⟩ "a😀\nb" 0
    let changed : Operation := .applyChanges ⟨"/w//a.typ"⟩
      [⟨some ⟨⟨0, 1⟩, ⟨0, 3⟩⟩, "é"⟩, ⟨some ⟨⟨0, 2⟩, ⟨1, 0⟩⟩, ""⟩, ⟨some ⟨⟨0, 3⟩, ⟨0, 3⟩⟩, "!"⟩]
    let closed : Operation := .closeDocument ⟨[], []⟩ ⟨"/w/b.typ"⟩ 2
    empty.Holds (fun _ => none) ∧ (∃ texts, TellsAll (fun _ => none) [opened, changed, closed] texts) ∧
      (empty.run [opened, changed, closed]).buffers.get? ⟨"/w/a.typ"⟩ = some "aéb!" := by
  intro opened changed closed
  have replaced : Change.Edits "a😀\nb" ⟨some ⟨⟨0, 1⟩, ⟨0, 3⟩⟩, "é"⟩ "aé\nb" :=
    @Change.Edits.stretch _ ⟨⟨0, 1⟩, ⟨0, 3⟩⟩ _ ['a'] ['😀', '\n', 'b'] ['\n', 'b'] ['a', '😀'] (by decide) (by decide)
      (by decide) (by decide) (.inr ⟨rfl, by decide⟩)
  have joined : Change.Edits "aé\nb" ⟨some ⟨⟨0, 2⟩, ⟨1, 0⟩⟩, ""⟩ "aéb" :=
    @Change.Edits.stretch _ ⟨⟨0, 2⟩, ⟨1, 0⟩⟩ _ ['a', 'é'] ['\n', 'b'] ['b'] ['a', 'é', '\n'] (by decide) (by decide)
      (by decide) (by decide) (.inl (by decide))
  have added : Change.Edits "aéb" ⟨some ⟨⟨0, 3⟩, ⟨0, 3⟩⟩, "!"⟩ "aéb!" :=
    @Change.Edits.stretch _ ⟨⟨0, 3⟩, ⟨0, 3⟩⟩ _ ['a', 'é', 'b'] [] [] ['a', 'é', 'b'] (by decide) (by decide)
      (by decide) (by decide) (.inr ⟨rfl, by decide⟩)
  have batch := Change.EditsAll.change replaced (.change joined (.change added .done))
  have isOpen : Function.update (fun _ => none : Texts) (⟨"/w/a.typ"⟩ : Path).components (some "a😀\nb")
      (⟨"/w//a.typ"⟩ : Path).components = some "a😀\nb" := by
    decide +kernel
  have tells : TellsAll (fun _ => none) [opened, changed, closed] _ :=
    .step .opened (.step (.changed isOpen batch) (.step .closed .done))
  have start : empty.Holds (fun _ => none) := fun _ => rfl
  obtain ⟨holds, _⟩ := buffers_hold_client_texts start tells
  exact ⟨start, ⟨_, tells⟩, (holds ⟨"/w/a.typ"⟩).trans (by decide +kernel)⟩

end Workspace

end FigureGallery
