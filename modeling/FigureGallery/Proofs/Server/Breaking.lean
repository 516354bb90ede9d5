import FigureGallery.Proofs.Server.Handling
import FigureGallery.Proofs.Workspace.Replacement

/-!
# Changes that break the server off

A server breaks off at one kind of message only: a notification of changes, one of which has a reversed range in the text
that the changes before it leave. The document keeps that text, and the session is not told of the changes.
-/

namespace FigureGallery

open Change (BreaksOff)

namespace Workspace

variable {w : Workspace} {document : Path} {changes : List Change} {text left : String} {range : Text.Range}

/-- Changes that break off leave the text of the changes before the reversed range. -/
lemma applyChanges_of_breaksOff (isOpen : w.buffers.get? document = some text)
    (breaks : BreaksOff text changes left range) :
    w.applyChanges document changes =
      ({ w with buffers := w.buffers.set document left }, some (.reversedRange range)) := by
  have applied := Change.applyAll_eq_some_iff.mpr ⟨range, breaks, rfl⟩
  rw [applyChanges, isOpen]
  dsimp only
  rw [applied]

/-- Changes fail exactly if their document is open and they break off. -/
lemma applyChanges_eq_some_iff {e : ChangeError} :
    (w.applyChanges document changes).2 = some e ↔ ∃ text left range, w.buffers.get? document = some text ∧
      BreaksOff text changes left range ∧ e = .reversedRange range := by
  constructor
  · intro failed
    rw [applyChanges] at failed
    split at failed
    · rename_i text isOpen
      obtain ⟨range, breaks, rfl⟩ := Change.applyAll_eq_some_iff.mp (Prod.ext rfl failed)
      exact ⟨text, _, range, isOpen, breaks, rfl⟩
    · -- The changes of a document that is not open are not applied.
      split at failed
      · simp at failed
      · simp at failed
  · rintro ⟨text, left, range, isOpen, breaks, rfl⟩
    rw [applyChanges_of_breaksOff isOpen breaks]

end Workspace

namespace Server

variable {s : Server} {around : Surroundings} {method : Method} {id params : Option Json} {e : ChangeError}

lemma answerTo_ne_broken (outcome : Except Refusal Json) : answerTo id outcome ≠ .broken e := by
  unfold answerTo
  split
  · simp
  · simp

/-- A notification about a document has no answer but the one of what is done with the document. -/
lemma answer_aboutDocument_ne_broken {α : Type} (read : Except ParamsFault α) (uri : α → Uri) {act : α → Path → Turn}
    (h : ∀ a document, (act a document).answer ≠ .broken e) : (s.aboutDocument read uri act).answer ≠ .broken e := by
  unfold aboutDocument
  split
  · split
    · exact h _ _
    · simp [passedOver, noticed]
  · simp [passedOver, noticed]

/-- Only changes break the server off. -/
lemma answer_perform_ne_broken (other : method ≠ .didChange) :
    (s.perform around method id params).answer ≠ .broken e := by
  cases method with
  | didChange => exact absurd rfl other
  | start =>
    rw [perform, start]
    split
    · exact answerTo_ne_broken _
    · exact answerTo_ne_broken _
  | shutdown | openGallery | navigate | unsupportedRequest _ =>
    rw [perform]
    split
    · exact answerTo_ne_broken _
    · exact answerTo_ne_broken _
  | started | closeGallery =>
    rw [perform]
    split
    · simp [noticed]
    · simp [passedOver, noticed]
  | didOpen | didSave | didClose | activeDocumentChanged =>
    exact answer_aboutDocument_ne_broken _ _ fun _ _ => by simp [noticed]
  | exit | cancel | unsupportedNotification => simp [perform, passedOver, noticed]

/-- Changes break the server off exactly if they cannot be applied. -/
lemma answer_perform_didChange_iff :
    (s.perform around .didChange id params).answer = .broken e ↔
      ∃ document changes, Notice.read? .didChange params = some (.changed document changes) ∧
        (s.workspace.applyChanges document changes).2 = some e := by
  rw [perform, Notice.read?]
  unfold aboutDocument Notice.located
  cases paramsOf Schema.didChange DidChange.ofJson? params with
  | error fault => simp [passedOver, noticed]
  | ok p =>
    dsimp only
    cases p.uri.toPath? with
    | none => simp [passedOver, noticed]
    | some document =>
      simp only [Option.map_some, Option.some.injEq, Notice.changed.injEq, didChange]
      cases failed : (s.workspace.applyChanges document p.changes).2 with
      | none => simp [failed, noticed]
      | some fault => simp [failed]

lemma answer_take_iff : (s.take around method id params).answer = .broken e ↔
    method = .didChange ∧ id = none ∧ (s.perform around .didChange none params).answer = .broken e := by
  by_cases kind : id.isSome = method.isRequest
  · rw [take_of_kind kind]
    by_cases changes : method = .didChange
    · subst changes
      obtain rfl : id = none := by simpa [Method.isRequest] using kind
      simp
    · simp [changes, answer_perform_ne_broken changes]
  · have refuses : (s.take around method id params).answer ≠ .broken e := by
      rw [take]
      cases request : method.isRequest with
      | true =>
        cases given : id.isSome with
        | true => exact absurd (given.trans request.symm) kind
        | false => simp [passedOver, noticed]
      | false =>
        cases given : id.isSome with
        | true => exact answerTo_ne_broken _
        | false => exact absurd (given.trans request.symm) kind
    refine iff_of_false refuses ?_
    rintro ⟨rfl, rfl, _⟩
    exact kind rfl

lemma answer_enter_iff : (s.enter around method id params).answer = .broken e ↔
    s.phase = .initialized ∧ method = .didChange ∧ id = none ∧
      (s.perform around .didChange none params).answer = .broken e := by
  unfold enter
  split
  · simp [noticed]
  · simp [answer_take_iff]
  · split
    · simp [answer_take_iff]
    · simp [refused, answerTo_ne_broken]
  · split
    · simp [answer_take_iff]
    · simp [refused, answerTo_ne_broken]
  · split
    · rename_i phase
      simp [answer_take_iff, phase]
    · rename_i phase
      simp [refused, answerTo_ne_broken, phase]

/-- Only the method for changes tells of changes. -/
lemma Notice.eq_didChange {document : Path} {changes : List Change}
    (told : Notice.read? method params = some (.changed document changes)) : method = .didChange := by
  have located_ne {α : Type} {read : Except ParamsFault α} {uri : α → Uri} {notice : α → Path → Notice}
      (other : ∀ a d, notice a d ≠ .changed document changes) :
      Notice.located read uri notice ≠ some (.changed document changes) := by
    unfold Notice.located
    split
    · simp [other]
    · simp
  cases method with
  | didChange => rfl
  | didOpen | didSave | didClose | activeDocumentChanged => exact absurd told (located_ne fun _ _ => by simp)
  | start | started | shutdown | exit | openGallery | closeGallery | navigate | cancel | unsupportedRequest _
  | unsupportedNotification => simp [Notice.read?] at told

/-- What breaks the server off is a notification of changes that an initialized server takes. -/
lemma answer_receive_iff {message : Incoming} :
    (s.receive around message).answer = .broken e ↔ s.phase = .initialized ∧ message.id = none ∧
      ∃ document changes, Notice.ofMessage? message = some (.changed document changes) ∧
        (s.workspace.applyChanges document changes).2 = some e := by
  unfold receive
  split
  · rename_i phase
    simp [phase]
  · rw [Notice.ofMessage?]
    cases known : Method.ofName? message.method with
    | none =>
      dsimp only
      split
      · simp [passedOver, noticed]
      · simp [refused, answerTo_ne_broken]
    | some method =>
      rw [answer_enter_iff, answer_perform_didChange_iff]
      refine and_congr_right fun _ => ?_
      constructor
      · rintro ⟨rfl, none, document, changes, told, failed⟩
        exact ⟨none, document, changes, told, failed⟩
      · rintro ⟨none, document, changes, told, failed⟩
        obtain rfl := Notice.eq_didChange told
        exact ⟨rfl, none, document, changes, told, failed⟩

/-- Changes that break the server off leave the text of the changes before the reversed range, and nothing else changes. -/
lemma step_receive_of_breaksOff (phase : s.phase = .initialized) {message : Incoming} (id : message.id = none)
    {document : Path} {changes : List Change} {text left : String} {range : Text.Range}
    (told : Notice.ofMessage? message = some (.changed document changes))
    (isOpen : s.workspace.buffers.get? document = some text) (breaks : BreaksOff text changes left range) :
    (s.receive around message).step =
      ⟨{ s with workspace := { s.workspace with buffers := s.workspace.buffers.set document left } }, []⟩ := by
  obtain ⟨method, known, read⟩ := Option.bind_eq_some_iff.mp told
  obtain rfl := Notice.eq_didChange read
  have kind : message.method ∈ Notice.methods := Method.mem_methods known (by simp)
  rw [step_receive phase around kind id, answerOf, told, Option.elim_some, Notice.answer,
    Workspace.applyChanges_of_breaksOff isOpen breaks]
  rfl

/-- Changes of a document fail exactly if it is open and one of them has a range that is reversed in the text that the
changes before it leave; the document is left with that text, and the changes behind are lost. A server breaks off exactly
at a notification of such changes: it has applied the first of them then, and the session has not been told of any. -/
theorem breaks_off_iff_reversed (w : Workspace) (document : Path) (changes : List Change) (s : Server)
    (around : Surroundings) (message : Incoming) (e : ChangeError) :
    ((w.applyChanges document changes).2 = some e ↔ ∃ text left range, w.buffers.get? document = some text ∧
      BreaksOff text changes left range ∧ e = .reversedRange range ∧
      (w.applyChanges document changes).1 = { w with buffers := w.buffers.set document left }) ∧
    ((s.receive around message).answer = .broken e ↔ s.phase = .initialized ∧ message.id = none ∧
      ∃ document changes text left range, Notice.ofMessage? message = some (.changed document changes) ∧
        s.workspace.buffers.get? document = some text ∧ BreaksOff text changes left range ∧ e = .reversedRange range ∧
        (s.receive around message).step =
          ⟨{ s with workspace := { s.workspace with buffers := s.workspace.buffers.set document left } }, []⟩) := by
  constructor
  · rw [Workspace.applyChanges_eq_some_iff]
    constructor
    · rintro ⟨text, left, range, isOpen, breaks, rfl⟩
      exact ⟨text, left, range, isOpen, breaks, rfl, by rw [Workspace.applyChanges_of_breaksOff isOpen breaks]⟩
    · rintro ⟨text, left, range, isOpen, breaks, rfl, _⟩
      exact ⟨text, left, range, isOpen, breaks, rfl⟩
  · rw [answer_receive_iff]
    constructor
    · rintro ⟨phase, id, document, changes, told, failed⟩
      obtain ⟨text, left, range, isOpen, breaks, rfl⟩ := Workspace.applyChanges_eq_some_iff.mp failed
      exact ⟨phase, id, document, changes, text, left, range, told, isOpen, breaks, rfl,
        step_receive_of_breaksOff phase id told isOpen breaks⟩
    · rintro ⟨phase, id, document, changes, text, left, range, told, isOpen, breaks, rfl, _⟩
      exact ⟨phase, id, document, changes, told,
        Workspace.applyChanges_eq_some_iff.mpr ⟨text, left, range, isOpen, breaks, rfl⟩⟩

/-- A batch whose second range is reversed in the text that its first change leaves, and whose last change is lost. -/
theorem breaks_off_iff_reversed_second :
    let around : Surroundings := ⟨⟨[], []⟩, 0, .null⟩
    let start : Incoming := ⟨"initialize", some (.object [("capabilities", .object [])]), some (.nat 1)⟩
    let uri := ("uri", Json.string "file:///a.typ")
    let opening : Incoming := ⟨"textDocument/didOpen", some (.object [("textDocument", .object [
      uri, ("languageId", .string "typst"), ("version", .nat 1), ("text", .string "ab\nc")])]), none⟩
    let s := ((fresh.receive around start).step.server.receive around opening).step.server
    let position (line character : Nat) := Json.object [("line", .nat line), ("character", .nat character)]
    let change : Incoming := ⟨"textDocument/didChange", some (.object [
      ("textDocument", .object [uri, ("version", .nat 2)]), ("contentChanges", .array [
        .object [("range", .object [("start", position 0 1), ("end", position 0 1)]), ("text", .string "é😀")],
        .object [("range", .object [("start", position 1 1), ("end", position 0 4)]), ("text", .string "")],
        .object [("text", .string "lost")]])]), none⟩
    let range : Text.Range := ⟨⟨1, 1⟩, ⟨0, 4⟩⟩
    let changes : List Change := [⟨some ⟨⟨0, 1⟩, ⟨0, 1⟩⟩, "é😀"⟩, ⟨some range, ""⟩, ⟨none, "lost"⟩]
    ¬ Change.Reverses "ab\nc" range ∧ BreaksOff "ab\nc" changes "aé😀b\nc" range ∧
      Notice.ofMessage? change = some (.changed ⟨"/a.typ"⟩ changes) ∧
      (s.receive around change).answer = .broken (.reversedRange range) ∧
      (s.receive around change).step.server.workspace.buffers.get? ⟨"/a.typ"⟩ = some "aé😀b\nc" := by
  intro around start uri opening s position change range changes
  have absent : ¬ Change.Reverses "ab\nc" range := by
    rintro ⟨_, stop, _⟩
    exact absurd stop (by decide)
  have reverses : Change.Reverses "aé😀b\nc" range := ⟨by decide, by decide, .inl (by decide)⟩
  have first : Change.apply "ab\nc" ⟨some ⟨⟨0, 1⟩, ⟨0, 1⟩⟩, "é😀"⟩ = .ok "aé😀b\nc" := by decide
  have breaks : BreaksOff "ab\nc" changes "aé😀b\nc" range := .later first (.here reverses)
  have phase : s.phase = .initialized := by decide +kernel
  have isOpen : s.workspace.buffers.get? ⟨"/a.typ"⟩ = some "ab\nc" := by decide +kernel
  have told : Notice.ofMessage? change = some (.changed ⟨"/a.typ"⟩ changes) := by decide +kernel
  have broken := (breaks_off_iff_reversed s.workspace ⟨"/a.typ"⟩ changes s around change (.reversedRange range)).2.mpr
    ⟨phase, rfl, _, changes, _, _, range, told, isOpen, breaks, rfl,
      step_receive_of_breaksOff phase rfl told isOpen breaks⟩
  exact ⟨absent, breaks, told, broken, by decide +kernel⟩

end Server

end FigureGallery
