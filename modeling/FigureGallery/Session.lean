import FigureGallery.Path.Basic

/-!
# The gallery session

When the gallery scans again. Changes come in bursts, so a scan waits until no change has come for a while: each change
sets one deadline anew. A session also knows whether the gallery is open and which document is active. No clock is
read here: the time, in milliseconds, is given with every event.
-/

namespace FigureGallery

/-- A single deadline, set anew by every trigger. -/
structure Debouncer where
  /-- How long after the last trigger the deadline lies. -/
  delay : Nat
  deadline : Option Nat
deriving DecidableEq

namespace Debouncer

/-- No deadline is set. -/
def idle (delay : Nat) : Debouncer := ⟨delay, none⟩

/-- Sets the deadline, in place of any that was set. -/
def trigger (d : Debouncer) (now : Nat) : Debouncer :=
  { d with deadline := some (now + d.delay) }

/-- Takes the deadline away. -/
def cancel (d : Debouncer) : Debouncer :=
  { d with deadline := none }

/-- Whether a deadline is set. -/
def isPending (d : Debouncer) : Bool :=
  d.deadline.isSome

/-- The time left until the deadline. -/
def remaining (d : Debouncer) (now : Nat) : Option Nat :=
  d.deadline.map (· - now)

/-- Whether the deadline has passed. -/
def isDue (d : Debouncer) (now : Nat) : Bool :=
  d.deadline.any (· ≤ now)

/-- Whether the deadline has passed, and the debouncer after that: a deadline counts once. -/
def takeDue (d : Debouncer) (now : Nat) : Bool × Debouncer :=
  if d.isDue now then (true, d.cancel) else (false, d)

end Debouncer

/-- What may call for a scan. -/
inductive Trigger where
  /-- The text of a document changed. -/
  | textChanged (document : Path)
  /-- Another document became active. -/
  | activeChanged (document : Path)
  /-- The gallery was asked for. -/
  | openRequested
deriving DecidableEq

/-- The answer to a trigger. -/
inductive Action where
  /-- Nothing is to be done. -/
  | ignore
  /-- A scan is due at once. -/
  | scanNow
  /-- A scan is due at the deadline. -/
  | debounced
deriving DecidableEq

/-- Whether the gallery is open, which document is active, and when the next scan is due. -/
structure Session where
  isOpen : Bool
  active : Option Path
  /-- The extension of documents, without leading dots. -/
  extension : String
  debouncer : Debouncer
deriving DecidableEq

namespace Session

/-- A closed gallery without an active document. -/
def start (extension : String) (delay : Nat) : Session where
  isOpen := false
  active := none
  extension := Path.bareExtension extension
  debouncer := .idle delay

/-- Opens the gallery. -/
def opened (s : Session) : Session :=
  { s with isOpen := true }

/-- Closes the gallery; a scan that was due is no longer. -/
def closed (s : Session) : Session :=
  { s with isOpen := false, debouncer := s.debouncer.cancel }

/-- Whether a path is a document. -/
def accepts (s : Session) (document : Path) : Bool :=
  document.hasExtension s.extension

/-- Makes a document active; other files leave the session as it is. -/
def withActive (s : Session) (document : Path) : Session :=
  if s.accepts document then { s with active := some document } else s

/-- Forgets the active document if it is the given one. -/
def withoutActive (s : Session) (document : Path) : Session :=
  if s.active.any document.same then { s with active := none } else s

/-- Sets the deadline of the next scan. -/
def armed (s : Session) (now : Nat) : Session :=
  { s with debouncer := s.debouncer.trigger now }

/-- The answer to a trigger at a time, and the session after it. -/
def handle (s : Session) (trigger : Trigger) (now : Nat) : Action × Session :=
  match trigger with
  | .openRequested => (.scanNow, { s.opened with debouncer := s.debouncer.cancel })
  | .activeChanged document =>
    if s.accepts document && s.isOpen then (.debounced, (s.withActive document).armed now)
    else (.ignore, s.withActive document)
  | .textChanged document =>
    if s.isOpen && s.accepts document then (.debounced, s.armed now) else (.ignore, s)

/-- Whether a scan is due, and the session after that. A closed gallery never scans. -/
def takeDue (s : Session) (now : Nat) : Bool × Session :=
  if s.isOpen then ((s.debouncer.takeDue now).1, { s with debouncer := (s.debouncer.takeDue now).2 })
  else (false, s)

/-- The time left until the next scan. -/
def remaining (s : Session) (now : Nat) : Option Nat :=
  s.debouncer.remaining now

end Session

end FigureGallery
