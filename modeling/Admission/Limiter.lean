import Admission.Notice
import Admission.Pool

/-!
# Limiters and chains of limiters

A limiter lets a job pass to the handler behind it once the job has claimed a token of its pool.
The token stays claimed when the handler succeeds, for then the job is in flight; it is given
back when the handler fails, and the failure is passed on unchanged.

The handler behind a limiter may be another limiter, so that limiters form a chain in front of
the last handler. A job moves along the chain in turns. Each turn takes it past every limiter
that has a token for it, up to the first one that has none, or up to the last handler, or out of
the chain again with an error. On its way out it passes the same limiters in reverse.
-/

namespace Admission

structure Limiter where
  pool : Pool
  /-- The name of the handler behind it. -/
  next : String
  /-- How long a feed may take to sync. -/
  syncTimeout : Option Duration := none
deriving Repr

/-- What a job brings to a turn. -/
structure Visit where
  task : Nat
  /-- The job's identifier. -/
  uuid : String
  /-- The cause of the cancellation of its context, if it is cancelled. -/
  cause : Option String
  isStale : Bool
  /-- How long it has waited for its next token. -/
  waited : Duration
deriving Repr

/-- How far a job got in a turn. -/
inductive Passage where
  /-- It waits for a token of the limiter at this place in the chain. -/
  | waiting (place : Nat)
  /-- It passed every limiter. -/
  | through
  /-- It was turned away. -/
  | stopped (error : HandlerError)
deriving DecidableEq, Repr

namespace Limiter

/-- The name under which a limiter is known to the one in front of it. -/
def handlerName : String := "max_in_flight"

/-- The limiter with its parts. -/
def describe (limiter : Limiter) : String :=
  Text.record "MaxInFlight"
    [("max_in_flight", toString limiter.pool.capacity),
     ("tokens_available", toString limiter.pool.available),
     ("next", Text.quoted limiter.next)]

/-- A record written while a job is handled. -/
def record (uuid message : String) (fields : List (String × FieldValue)) : Notice :=
  .logged { origin := .limiter, level := .debug, message, fields, span := some uuid }

/-- What is told when a job has claimed a token and moves on. -/
def admitted (limiter : Limiter) (place : Nat) (visit : Visit) : List Notice :=
  let available := limiter.pool.available
  [record visit.uuid "token acquired" [("available_tokens", .number available)],
   .published place
     { kind := .tokenAcquired, job := some visit.uuid, wait := some visit.waited,
       available := some available },
   record visit.uuid "passing job to next handler" [("handler", .text limiter.next)]]

/-- Gives back the token of a job that a later handler failed. -/
def takeBack (limiter : Limiter) (place : Nat) (uuid : String) (error : HandlerError) :
    Limiter × List Notice :=
  let (returned, pool, woken) := limiter.pool.tryRelease
  ({ limiter with pool },
    Notice.wokenOf woken ++
      [record uuid "next handler failed"
         [("handler", .text limiter.next), ("error", .text error.message),
          ("returned", .truth returned), ("available_tokens", .number pool.available)],
       .published place
         { kind := .tokenReturned, job := some uuid, reason := some error.message,
           available := some pool.available }])

/-- What becomes of a limiter that a job has passed: its token is given back if the job was
turned away further on. -/
def afterwards (limiter : Limiter) (place : Nat) (uuid : String) (rest : List Limiter)
    (passage : Passage) (notices : List Notice) : List Limiter × Passage × List Notice :=
  match passage with
  | .stopped error =>
      let (limiter, told) := limiter.takeBack place uuid error
      (limiter :: rest, passage, notices ++ told)
  | _ => (limiter :: rest, passage, notices)

end Limiter

namespace Chain

/--
One turn of a job that has passed a number of limiters. The first argument is the place of the
first limiter of the list in the chain.
-/
def advance (place passed : Nat) (visit : Visit) :
    List Limiter → List Limiter × Passage × List Notice
  | [] => ([], .through, [])
  | limiter :: rest =>
      match passed with
      | passed + 1 =>
          let (rest, passage, notices) := advance (place + 1) passed visit rest
          limiter.afterwards place visit.uuid rest passage notices
      | 0 =>
          let (wait, pool, woken) :=
            limiter.pool.turn visit.task visit.cause.isSome visit.isStale
          let limiter := { limiter with pool }
          match wait with
          | .pending => (limiter :: rest, .waiting place, [])
          | .canceled =>
              let cause := visit.cause.getD ""
              (limiter :: rest, .stopped (.canceled cause),
                Notice.wokenOf woken ++
                  [.published place
                    { kind := .waitCanceled, job := some visit.uuid, reason := some cause }])
          | .stale =>
              (limiter :: rest, .stopped .staleJob,
                Notice.wokenOf woken ++
                  [.published place { kind := .jobStale, job := some visit.uuid }])
          | .acquired =>
              let told := limiter.admitted place visit
              let (rest, passage, notices) :=
                advance (place + 1) 0 { visit with waited := ⟨0⟩ } rest
              limiter.afterwards place visit.uuid rest passage (told ++ notices)

/-- The last handler answers: a failure gives back the token of every limiter, innermost
first. -/
def conclude (place : Nat) (uuid : String) (result : Except HandlerError Unit) :
    List Limiter → List Limiter × List Notice
  | [] => ([], [])
  | limiter :: rest =>
      let (rest, notices) := conclude (place + 1) uuid result rest
      match result with
      | .ok _ => (limiter :: rest, notices)
      | .error error =>
          let (limiter, told) := limiter.takeBack place uuid error
          (limiter :: rest, notices ++ told)

/-- A job that waits for a token of some limiter is dropped. -/
def withdraw (task : Nat) : Nat → List Limiter → List Limiter × List Notice
  | _, [] => ([], [])
  | 0, limiter :: rest =>
      let (pool, woken) := limiter.pool.withdraw task
      ({ limiter with pool } :: rest, Notice.wokenOf woken)
  | place + 1, limiter :: rest =>
      let (rest, notices) := withdraw task place rest
      (limiter :: rest, notices)

/-- Replaces the pool of the limiter at some place. -/
def setPool (pool : Pool) : Nat → List Limiter → List Limiter
  | _, [] => []
  | 0, limiter :: rest => { limiter with pool } :: rest
  | place + 1, limiter :: rest => limiter :: setPool pool place rest

end Chain

end Admission
