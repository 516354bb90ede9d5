import FigureGallery.Session
import Mathlib.Tactic.Lemma

/-!
# The history of a session

A session keeps one deadline, or none. When it is due follows from what the session was asked and what it answered: it
is set by each trigger that is answered with a scan to come, and taken away when a scan is due, when the gallery is
asked for, and when it is closed. Nothing else touches it, so that it belongs to the last trigger that was accepted
since then.
-/

namespace FigureGallery.Session

section Since

variable {α : Type} {p q : α → Prop} {history : List α} {event : α}

/-- One of the events is a `p`, and all that came after it are `q`. -/
def Since (p q : α → Prop) (history : List α) : Prop :=
  ∃ before event after, history = before ++ event :: after ∧ p event ∧ ∀ later ∈ after, q later

/-- The last event decides, or it is a `q` and the events before it decide. -/
lemma since_concat : Since p q (history ++ [event]) ↔ p event ∨ q event ∧ Since p q history := by
  constructor
  · rintro ⟨before, first, after, e, holds, rest⟩
    -- Either the `p` is the last event itself, or the last event is one of those after it.
    obtain rfl | ⟨after, last, rfl⟩ := List.eq_nil_or_concat after
    · obtain ⟨_, e⟩ := List.append_inj' e rfl
      obtain rfl := List.singleton_inj.mp e
      exact .inl holds
    · rw [List.concat_eq_append] at e rest
      rw [← List.cons_append, ← List.append_assoc] at e
      obtain ⟨rfl, final⟩ := List.append_inj' e rfl
      obtain rfl := List.singleton_inj.mp final
      exact .inr ⟨rest event (by simp), before, first, after, rfl, holds,
        fun later mem => rest later (List.mem_append_left _ mem)⟩
  · rintro (holds | ⟨last, before, first, after, rfl, holds, rest⟩)
    · exact ⟨history, event, [], rfl, holds, by simp⟩
    · refine ⟨before, first, after ++ [event], by simp, holds, fun later mem => ?_⟩
      obtain mem | mem := List.mem_append.mp mem
      · exact rest later mem
      · obtain rfl := List.mem_singleton.mp mem
        exact last

lemma not_since_nil : ¬ Since p q [] := by
  rintro ⟨before, event, after, e, _⟩
  simp at e

end Since

variable {s : Session}

/-- Making a document active changes nothing else. -/
lemma withActive_eq (s : Session) (document : Path) : ∃ active, s.withActive document = { s with active } := by
  rw [withActive]
  split
  · exact ⟨some document, rfl⟩
  · exact ⟨s.active, rfl⟩

/-- Forgetting the active document changes nothing else. -/
lemma withoutActive_eq (s : Session) (document : Path) : ∃ active, s.withoutActive document = { s with active } := by
  rw [withoutActive]
  split
  · exact ⟨none, rfl⟩
  · exact ⟨s.active, rfl⟩

/-- A trigger other than the request for the gallery sets the deadline of an open gallery, or it is ignored and leaves the
deadline alone. -/
lemma handle_cases (s : Session) {trigger : Trigger} (other : trigger ≠ .openRequested) (now : Nat) :
    ((s.handle trigger now).1 = .debounced ∧ (s.handle trigger now).2.isOpen ∧
        (s.handle trigger now).2.debouncer = s.debouncer.trigger now) ∨
      ((s.handle trigger now).1 = .ignore ∧ (s.handle trigger now).2.isOpen = s.isOpen ∧
        (s.handle trigger now).2.debouncer = s.debouncer) := by
  cases trigger with
  | openRequested => exact absurd rfl other
  | activeChanged document =>
    obtain ⟨active, e⟩ := s.withActive_eq document
    rw [handle, e]
    split
    · rename_i h
      exact .inl ⟨rfl, (Bool.and_eq_true_iff.mp h).2, rfl⟩
    · exact .inr ⟨rfl, rfl, rfl⟩
  | textChanged document =>
    rw [handle]
    split
    · rename_i h
      exact .inl ⟨rfl, (Bool.and_eq_true_iff.mp h).1, rfl⟩
    · exact .inr ⟨rfl, rfl, rfl⟩

/-- What a session can be asked. -/
inductive Call where
  | handle (trigger : Trigger) (now : Nat)
  | opened
  | closed
  | withActive (document : Path)
  | withoutActive (document : Path)
  | takeDue (now : Nat)
deriving DecidableEq

/-- What a session says to a call. -/
inductive Answer where
  | silent
  | action (action : Action)
  /-- Whether a scan is due. -/
  | due (isDue : Bool)
deriving DecidableEq

/-- The answer to a call, and the session after it. -/
def call (s : Session) : Call → Answer × Session
  | .handle trigger now => (.action (s.handle trigger now).1, (s.handle trigger now).2)
  | .opened => (.silent, s.opened)
  | .closed => (.silent, s.closed)
  | .withActive document => (.silent, s.withActive document)
  | .withoutActive document => (.silent, s.withoutActive document)
  | .takeDue now => (.due (s.takeDue now).1, (s.takeDue now).2)

/-- A call and the answer to it. -/
structure Event where
  call : Call
  answer : Answer
deriving DecidableEq

namespace Event

/-- The time of a trigger that was answered with a scan to come. -/
def accepted? : Event → Option Nat
  | ⟨.handle _ now, .action .debounced⟩ => some now
  | _ => none

/-- Whether a scan was due. -/
def fires : Event → Bool
  | ⟨.takeDue _, .due true⟩ => true
  | _ => false

/-- Whether the gallery was asked for. -/
def requests : Event → Bool
  | ⟨.handle .openRequested _, _⟩ => true
  | _ => false

/-- Whether the gallery was opened. -/
def opens : Event → Bool
  | ⟨.opened, _⟩ => true
  | e => e.requests

/-- Whether the gallery was closed. -/
def closes : Event → Bool
  | ⟨.closed, _⟩ => true
  | _ => false

/-- Whether a scan that was to come is no longer: it takes place, or it is given up. -/
def settles (e : Event) : Bool :=
  e.fires || e.requests || e.closes

end Event

/-- The event that a call is. -/
def event (s : Session) (c : Call) : Event :=
  ⟨c, (s.call c).1⟩

/-- The events of calls, one after another, and the session after them. -/
def run : Session → List Call → List Event × Session
  | s, [] => ([], s)
  | s, c :: calls => (s.event c :: ((s.call c).2.run calls).1, ((s.call c).2.run calls).2)

/-- The last trigger that was answered with a scan to come, since a scan took place or was given up, was at a time. -/
def LastAccepted (history : List Event) (time : Nat) : Prop :=
  Since (fun e => e.accepted? = some time) (fun e => e.accepted? = none ∧ ¬ e.settles) history

/-- The gallery was opened, and it was not closed since then. -/
def LastOpened (history : List Event) : Prop :=
  Since (fun e => e.opens) (fun e => ¬ e.closes) history

/-- What a call does to the deadline: an accepted trigger sets it, and what settles the scan takes it away. -/
lemma debouncer_call (s : Session) (c : Call) : (s.call c).2.debouncer =
    match (s.event c).accepted? with
    | some now => s.debouncer.trigger now
    | none => if (s.event c).settles then s.debouncer.cancel else s.debouncer := by
  cases c with
  | handle trigger now =>
    by_cases requested : trigger = .openRequested
    · subst requested
      rfl
    · have pending : (s.event (.handle trigger now)).settles = false := by
        cases trigger with
        | openRequested => exact absurd rfl requested
        | activeChanged _ => rfl
        | textChanged _ => rfl
      rw [pending]
      obtain ⟨answer, _, debouncer⟩ | ⟨answer, _, debouncer⟩ := s.handle_cases requested now
      · simp only [event, call, answer, Event.accepted?]
        exact debouncer
      · simp only [event, call, answer, Event.accepted?]
        exact debouncer
  | opened => rfl
  | closed => rfl
  | withActive document =>
    obtain ⟨active, e⟩ := s.withActive_eq document
    change (s.withActive document).debouncer = s.debouncer
    rw [e]
  | withoutActive document =>
    obtain ⟨active, e⟩ := s.withoutActive_eq document
    change (s.withoutActive document).debouncer = s.debouncer
    rw [e]
  | takeDue now =>
    simp only [event, call, takeDue, Debouncer.takeDue]
    split
    · split <;> rfl
    · rfl

/-- What a call does to the gallery: it opens or closes the gallery, or leaves it as it is. -/
lemma isOpen_call (s : Session) (c : Call) :
    (s.call c).2.isOpen ↔ (s.event c).opens ∨ ¬ (s.event c).closes ∧ s.isOpen := by
  cases c with
  | handle trigger now =>
    cases trigger with
    | openRequested => simp [event, call, handle, opened, Event.opens, Event.requests]
    | activeChanged document =>
      obtain ⟨active, e⟩ := s.withActive_eq document
      have same : (s.handle (.activeChanged document) now).2.isOpen = s.isOpen := by
        rw [handle, e]
        split <;> rfl
      simp [event, call, same, Event.opens, Event.requests, Event.closes]
    | textChanged document =>
      have same : (s.handle (.textChanged document) now).2.isOpen = s.isOpen := by
        rw [handle]
        split <;> rfl
      simp [event, call, same, Event.opens, Event.requests, Event.closes]
  | opened => simp [event, call, opened, Event.opens]
  | closed => simp [event, call, closed, Event.opens, Event.requests, Event.closes]
  | withActive document =>
    obtain ⟨active, e⟩ := s.withActive_eq document
    simp [event, call, e, Event.opens, Event.requests, Event.closes]
  | withoutActive document =>
    obtain ⟨active, e⟩ := s.withoutActive_eq document
    simp [event, call, e, Event.opens, Event.requests, Event.closes]
  | takeDue now =>
    have same : (s.takeDue now).2.isOpen = s.isOpen := by
      rw [takeDue]
      split <;> rfl
    simp [event, call, same, Event.opens, Event.requests, Event.closes]

/-- A trigger is accepted only while the gallery is open. -/
lemma isOpen_of_accepted {c : Call} {now : Nat} (accepted : (s.event c).accepted? = some now) :
    (s.call c).2.isOpen := by
  cases c with
  | handle trigger time =>
    by_cases requested : trigger = .openRequested
    · subst requested
      simp [event, call, handle, Event.accepted?] at accepted
    · obtain ⟨_, isOpen, _⟩ | ⟨answer, _⟩ := s.handle_cases requested time
      · exact isOpen
      · simp [event, call, answer, Event.accepted?] at accepted
  | opened => simp [event, Event.accepted?] at accepted
  | closed => simp [event, Event.accepted?] at accepted
  | withActive document => simp [event, Event.accepted?] at accepted
  | withoutActive document => simp [event, Event.accepted?] at accepted
  | takeDue time => simp [event, Event.accepted?] at accepted

lemma delay_call (s : Session) (c : Call) : (s.call c).2.debouncer.delay = s.debouncer.delay := by
  rw [debouncer_call]
  split
  · rfl
  · split <;> rfl

/-- A deadline is set only while the gallery is open. -/
def IsSettled (s : Session) : Prop :=
  s.debouncer.isPending → s.isOpen

/-- A call keeps the deadline of an open gallery, sets one, or takes it away. -/
lemma IsSettled.call (ok : s.IsSettled) (c : Call) : (s.call c).2.IsSettled := by
  intro isPending
  rw [debouncer_call] at isPending
  cases accepted : (s.event c).accepted? with
  | some now => exact isOpen_of_accepted accepted
  | none =>
    rw [accepted] at isPending
    dsimp only at isPending
    split at isPending
    · simp [Debouncer.cancel, Debouncer.isPending] at isPending
    · rename_i unsettled
      refine (s.isOpen_call c).mpr (.inr ⟨fun closes => unsettled ?_, ok isPending⟩)
      simp [Event.settles, closes]

/-- A session is as its history says: open or not, and with the deadline of the last trigger that was accepted, if any. -/
structure Explains (delay : Nat) (history : List Event) (s : Session) : Prop where
  delay_eq : s.debouncer.delay = delay
  isOpen : s.isOpen ↔ LastOpened history
  deadline : ∀ time, s.debouncer.deadline = some time ↔ ∃ since, LastAccepted history since ∧ since + delay = time

variable {delay : Nat} {history : List Event}

lemma explains_start (extension : String) (delay : Nat) : Explains delay [] (start extension delay) where
  delay_eq := rfl
  isOpen := by simp [start, LastOpened, not_since_nil]
  deadline time := by simp [start, Debouncer.idle, LastAccepted, not_since_nil]

/-- A call adds its event to the history. -/
lemma Explains.call (explains : Explains delay history s) (c : Call) :
    Explains delay (history ++ [s.event c]) (s.call c).2 where
  delay_eq := (s.delay_call c).trans explains.delay_eq
  isOpen := by rw [isOpen_call, explains.isOpen, LastOpened, LastOpened, since_concat]
  deadline time := by
    rw [debouncer_call]
    simp only [LastAccepted, since_concat]
    cases accepted : (s.event c).accepted? with
    | some now => simp [Debouncer.trigger, explains.delay_eq]
    | none =>
      dsimp only
      split
      · rename_i settles
        simp [Debouncer.cancel, settles]
      · rename_i unsettled
        rw [explains.deadline]
        simp [LastAccepted, unsettled]

lemma Explains.run (explains : Explains delay history s) (calls : List Call) :
    Explains delay (history ++ (s.run calls).1) (s.run calls).2 := by
  induction calls generalizing history s with
  | nil => simpa [Session.run] using explains
  | cons c calls ih => simpa [Session.run] using ih (explains.call c)

lemma IsSettled.run (ok : s.IsSettled) (calls : List Call) : (s.run calls).2.IsSettled := by
  induction calls generalizing s with
  | nil => exact ok
  | cons c calls ih => exact ih (ok.call c)

/-- What settles a scan leaves no deadline behind. -/
lemma deadline_of_settles {c : Call} (settles : (s.event c).settles) : (s.call c).2.debouncer.deadline = none := by
  have ignored : (s.event c).accepted? = none := by
    cases c with
    | handle trigger now =>
      cases trigger with
      | openRequested => rfl
      | activeChanged _ => simp [event, Event.settles, Event.fires, Event.requests, Event.closes] at settles
      | textChanged _ => simp [event, Event.settles, Event.fires, Event.requests, Event.closes] at settles
    | _ => rfl
  rw [debouncer_call, ignored]
  dsimp only
  rw [if_pos settles]
  rfl

/-- A scan is due when the gallery is open and its deadline has passed. -/
lemma takeDue_iff {now : Nat} :
    (s.takeDue now).1 ↔ s.isOpen ∧ ∃ time, s.debouncer.deadline = some time ∧ time ≤ now := by
  rw [takeDue]
  cases s.isOpen with
  | false => simp
  | true =>
    rw [if_pos rfl, Debouncer.takeDue, Debouncer.isDue]
    cases s.debouncer.deadline with
    | none => simp
    | some time => by_cases late : time ≤ now <;> simp [late]

/-- Until a trigger is accepted, a session without a deadline stays without one, and no scan is due. -/
lemma run_of_idle (idle : s.debouncer.deadline = none) {calls : List Call}
    (ignored : ∀ e ∈ (s.run calls).1, e.accepted? = none) :
    (s.run calls).2.debouncer.deadline = none ∧ ∀ e ∈ (s.run calls).1, ¬ e.fires := by
  induction calls generalizing s with
  | nil => exact ⟨idle, by simp [run]⟩
  | cons c calls ih =>
    obtain ⟨first, rest⟩ := List.forall_mem_cons.mp ignored
    have still : (s.call c).2.debouncer.deadline = none := by
      rw [debouncer_call, first]
      dsimp only
      split
      · rfl
      · exact idle
    obtain ⟨final, quiet⟩ := ih still rest
    refine ⟨final, List.forall_mem_cons.mpr ⟨fun fires => ?_, quiet⟩⟩
    cases c with
    | takeDue now =>
      have early : (s.takeDue now).1 = false := by
        rw [← Bool.not_eq_true, takeDue_iff, idle]
        simp
      simp [event, call, early, Event.fires] at fires
    | _ => simp [event, Event.fires] at fires

/-- Whether a scan is due, and when the next one is, follows from the history: the gallery is open, and the last trigger
that was accepted since a scan was due, was asked for or was given up lies so far back as the delay says. After such an
event no scan is due until another trigger is accepted, however often the gallery is opened. -/
theorem takeDue_iff_lastAccepted (extension : String) (delay : Nat) (calls : List Call) :
    let history := ((start extension delay).run calls).1
    let s := ((start extension delay).run calls).2
    (s.isOpen ↔ LastOpened history) ∧
    (∀ now, (s.takeDue now).1 ↔ s.isOpen ∧ ∃ since, LastAccepted history since ∧ since + delay ≤ now) ∧
    (∀ now since, LastAccepted history since →
      s.remaining now = some (since + delay - now) ∧ ((s.takeDue now).1 ↔ since + delay ≤ now)) ∧
    (∀ now, (∀ since, ¬ LastAccepted history since) → s.remaining now = none) ∧
    ∀ c more, (s.event c).settles → (∀ e ∈ ((s.call c).2.run more).1, e.accepted? = none) →
      (∀ e ∈ ((s.call c).2.run more).1, ¬ e.fires) ∧
      ∀ now, (((s.call c).2.run more).2.takeDue now).1 = false ∧ ((s.call c).2.run more).2.remaining now = none := by
  intro history s
  have explains : Explains delay history s := by simpa using (explains_start extension delay).run calls
  have settled : s.IsSettled :=
    IsSettled.run (s := start extension delay) (by simp [IsSettled, start, Debouncer.idle, Debouncer.isPending]) calls
  have due {now : Nat} :
      (s.takeDue now).1 ↔ s.isOpen ∧ ∃ since, LastAccepted history since ∧ since + delay ≤ now := by
    rw [takeDue_iff]
    simp only [explains.deadline]
    exact and_congr_right fun _ => ⟨fun ⟨_, ⟨since, last, e⟩, late⟩ => ⟨since, last, e ▸ late⟩,
      fun ⟨since, last, late⟩ => ⟨_, ⟨since, last, rfl⟩, late⟩⟩
  refine ⟨explains.isOpen, fun now => due, fun now since last => ?_, fun now none => ?_, fun c more settles ignored => ?_⟩
  · have deadline := (explains.deadline _).mpr ⟨since, last, rfl⟩
    refine ⟨by simp [remaining, Debouncer.remaining, deadline], ?_⟩
    have isOpen : s.isOpen := settled (by simp [Debouncer.isPending, deadline])
    rw [takeDue_iff, deadline]
    simp [isOpen]
  · have deadline : s.debouncer.deadline = .none := by
      refine Option.eq_none_iff_forall_ne_some.mpr fun time e => ?_
      obtain ⟨since, last, _⟩ := (explains.deadline time).mp e
      exact none since last
    simp [remaining, Debouncer.remaining, deadline]
  · obtain ⟨idle, quiet⟩ := run_of_idle (deadline_of_settles settles) ignored
    refine ⟨quiet, fun now => ⟨?_, by simp [remaining, Debouncer.remaining, idle]⟩⟩
    rw [← Bool.not_eq_true, takeDue_iff, idle]
    simp

/-- A burst of two triggers and a file that is no document; after it the gallery is closed and opened again. -/
theorem takeDue_iff_lastAccepted_burst :
    let calls : List Call := [.handle .openRequested 0, .handle (.textChanged ⟨"/a.typ"⟩) 10,
      .handle (.activeChanged ⟨"/b.typ"⟩) 50, .handle (.textChanged ⟨"/c.txt"⟩) 60, .takeDue 349]
    let more : List Call := [.closed, .opened, .takeDue 900]
    let history := ((start ".typ" 300).run calls).1
    let s := ((start ".typ" 300).run calls).2
    LastAccepted history 50 ∧ s.remaining 349 = some 1 ∧ ¬ (s.takeDue 349).1 ∧ (s.takeDue 350).1 ∧
      (s.event (.takeDue 350)).settles ∧ (∀ e ∈ ((s.call (.takeDue 350)).2.run more).1, e.accepted? = none) ∧
      (((s.call (.takeDue 350)).2.run more).2.takeDue 900).1 = false := by
  intro calls more history s
  have last : LastAccepted history 50 := by
    refine ⟨history.take 2, ⟨.handle (.activeChanged ⟨"/b.typ"⟩) 50, .action .debounced⟩, history.drop 3, ?_, rfl, ?_⟩
    · decide +kernel
    · decide +kernel
  have settles : (s.event (.takeDue 350)).settles := by decide +kernel
  have ignored : ∀ e ∈ ((s.call (.takeDue 350)).2.run more).1, e.accepted? = none := by decide +kernel
  obtain ⟨_, _, waits, _, quiet⟩ := takeDue_iff_lastAccepted ".typ" 300 calls
  refine ⟨last, (waits 349 50 last).1, ?_, (waits 350 50 last).2.mpr (by decide), settles, ignored, ?_⟩
  · rw [(waits 349 50 last).2]
    decide
  · exact ((quiet _ more settles ignored).2 900).1

end FigureGallery.Session
