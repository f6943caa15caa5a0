import Admission.Feed.Item
import Admission.Limiter

/-!
# Reconciliation

A reconciler keeps the claimed tokens of a pool in step with the jobs that the cluster knows. A
job that was running before the watch began claims a token, as far as there is one; a job that
finishes or disappears while unfinished gives one back. All other changes leave the pool alone.
Each change is told in one event.
-/

namespace Admission

namespace Reconciler

/-- A record written while a feed is applied. -/
def record (message : String) (fields : List (String × FieldValue)) : Notice :=
  .logged { origin := .reconciler, level := .debug, message, fields }

/-- What a change asks of the pool. -/
inductive Demand where
  /-- Claim a token for a job that was running already. -/
  | claim
  /-- Give back the token of a job that is over. -/
  | giveBack
  | nothing
deriving DecidableEq, Repr

/-- What a change asks of the pool. -/
def demand : ResourceEvent → Demand
  | .added resource initialList =>
      if initialList && !resource.isFinished then .claim else .nothing
  | .updated previous current =>
      if !previous.isFinished && current.isFinished then .giveBack else .nothing
  | .deleted lastKnown => if lastKnown.isFinished then .nothing else .giveBack
  | .unrecognized _ _ => .nothing

/-- The message under which a token is given back. -/
def giveBackMessage : ResourceEvent → String
  | .deleted _ => "unfinished job deleted, returned token"
  | _ => "job finished, returned token"

def settle (pool : Pool) (change : ResourceEvent) : Pool × List Notice :=
  let uid := change.uid?.getD ""
  match demand change with
  | .claim =>
      let (took, pool) := pool.tryAcquire
      (pool,
        [record "counted pre-existing running job"
          [("uid", .text uid), ("took", .truth took),
           ("available_tokens", .number pool.available)]])
  | .giveBack =>
      let (returned, pool, woken) := pool.tryRelease
      (pool,
        Notice.wokenOf woken ++
          [record (giveBackMessage change)
            [("uid", .text uid), ("returned", .truth returned),
             ("available_tokens", .number pool.available)]])
  | .nothing => (pool, [])

/-- The event that tells of a change, given the tokens available after it. -/
def eventOf (available : Nat) : ResourceEvent → Event
  | .added resource initialList =>
      { kind := .resourceAdded, resource := some resource.uid, initialList := some initialList,
        available := some available }
  | .updated _ current =>
      { kind := .resourceUpdated, resource := some current.uid, available := some available }
  | .deleted lastKnown =>
      { kind := .resourceDeleted, resource := some lastKnown.uid, available := some available }
  | .unrecognized kind reason =>
      { kind := .resourceIgnored, notification := some kind, reason := some reason }

/-- The record of a notification that makes no sense. -/
def ignoredRecord : ResourceEvent → List Notice
  | .unrecognized kind reason =>
      [record "ignoring unrecognized notification"
        [("notification", .text kind.label), ("reason", .text reason)]]
  | _ => []

/-- Applies a change to the pool of the limiter at some place, and tells of it. -/
def apply (place : Nat) (pool : Pool) (change : ResourceEvent) : Pool × List Notice :=
  let (pool, notices) := settle pool change
  (pool, notices ++ ignoredRecord change ++ [.published place (eventOf pool.available change)])

/-- The event that tells that a feed has replayed all that existed. -/
def syncedEvent (feed : String) (available : Nat) : Event :=
  { kind := .feedSynced, reason := some feed, available := some available }

end Reconciler

end Admission
