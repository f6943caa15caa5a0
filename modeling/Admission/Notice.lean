import Admission.Error
import Admission.Event
import Admission.Journal
import Admission.Job

/-!
# Notices

Whatever a part of the program does is told in notices, in the order in which it happens: events
published, records written, tasks woken or started, jobs forwarded and results reached. The parts
themselves are functions from a state to a state and a list of notices, so that the history of a
run is the list of its notices.
-/

namespace Admission

/-- What a task can wait for. -/
inductive Source where
  | cancelled (token : Nat)
  | fired (signal : Nat)
  /-- The last clone of a stale signal is dropped. -/
  | forsaken (signal : Nat)
  | clock (tick : Nat)
  | gate (name : String)
  /-- A stream has something to read, or has ended. -/
  | stream (stream : Nat)
  /-- A watch is synced, or has ended. -/
  | barrier (watch : Nat)
  /-- A bus has something to receive, or is closed. -/
  | bus (limiter : Nat)
  /-- A sink has something in its queue, or gets no more. -/
  | queue (sink : Nat)
  | worker (sink : Nat)
deriving DecidableEq, Repr

instance decidableEqResult {Failure Value : Type} [DecidableEq Failure] [DecidableEq Value] :
    DecidableEq (Except Failure Value)
  | .ok value, .ok other => decidable_of_iff (value = other) ⟨congrArg _, Except.ok.inj⟩
  | .error failure, .error other =>
      decidable_of_iff (failure = other) ⟨congrArg _, Except.error.inj⟩
  | .ok _, .error _ => isFalse nofun
  | .error _, .ok _ => isFalse nofun

/-- How a task ends. -/
inductive Outcome where
  /-- A token was claimed. -/
  | acquired
  | canceled
  /-- A wait was given up because of its stale signal. -/
  | stale
  /-- A wait for a cancellation ended; the cause reported then. -/
  | cause (cause : Option String)
  /-- A wait for a stale signal ended; whether it was stale then. -/
  | staleness (isStale : Bool)
  | handled (result : Except HandlerError Unit)
  | registered (result : Except SyncError Unit)
  /-- The task was brought down by a fault. -/
  | panicked (text : String)
  | aborted
  /-- The task came to its end. -/
  | ended
deriving DecidableEq

/-- A job as the last handler received it. -/
structure Arrival where
  job : Job
  /-- Whether its context was cancelled by then. -/
  isCanceled : Bool
  isStale : Bool
deriving Repr

/-- The most items that a reader takes in during one turn. One that has taken in so many lets the
others act before it looks for more. -/
def turnLimit : Nat := 128

/-- One thing that happened. -/
inductive Notice where
  | published (limiter : Nat) (event : Event)
  | logged (record : LogRecord)
  /-- A task was handed a token. -/
  | woken (task : Nat)
  /-- A task took in all that one turn allows, and goes on once the others have acted. -/
  | yielded (task : Nat)
  /-- A source spoke to all that wait for it. -/
  | told (source : Source)
  | spawned (task : Nat)
  /-- A job reached the last handler. -/
  | forwarded (arrival : Arrival)
  | finished (task : Nat) (outcome : Outcome)

namespace Notice

/-- The notice that a waiter was handed a token, if one was. -/
def wokenOf : Option Nat → List Notice
  | some task => [woken task]
  | none => []

def event? : Notice → Option (Nat × Event)
  | published limiter event => some (limiter, event)
  | _ => none

end Notice

end Admission
