import Admission.Proofs.Frame

/-!
# The calls of a reconciler

A reconciler calls its pool for the resources that it is told of: it tries to claim a token for one,
or to give one back. Each call leaves a record with the resource and the answer of the pool, and the
records tell the calls in order.

That is all that a reconciler does to its pool. The recorded calls, made one after the other, take
the pool from its state before a change to its state afterwards.
-/

namespace Admission

/-- A call of a reconciler to its pool for a resource, with the answer of the pool. -/
inductive ReconcilerCall where
  | tryAcquire (uid : String) (took : Bool)
  | tryRelease (uid : String) (returned : Bool)
deriving DecidableEq

/-- Whether somebody tries to give a token back for a resource. -/
def ReconcilerCall.releasesFor (uid : String) : ReconcilerCall → Bool
  | tryRelease other _ => other == uid
  | tryAcquire _ _ => false

/-- The call that a record of a reconciler tells of. -/
def LogRecord.call? (record : LogRecord) : Option ReconcilerCall :=
  if record.origin = .reconciler then
    match record.textField? "uid", record.fields.lookup "took",
      record.fields.lookup "returned" with
    | some uid, some (.truth took), none => some (.tryAcquire uid took)
    | some uid, none, some (.truth returned) => some (.tryRelease uid returned)
    | _, _, _ => none
  else none

namespace Notice

def call? : Notice → Option ReconcilerCall
  | logged record => record.call?
  | _ => none

theorem filterMap_call?_wokenOf (waiter : Option Nat) : (wokenOf waiter).filterMap call? = [] := by
  cases waiter <;> rfl

end Notice

/-- Calls take a pool from one state to another, if each of them is one call of the pool with the
answer that it gives. -/
inductive Pool.Serves : Pool → List ReconcilerCall → Pool → Prop where
  | nil (pool : Pool) : Serves pool [] pool
  | tryAcquire {pool last : Pool} {calls : List ReconcilerCall} (uid : String)
      (rest : Serves pool.tryAcquire.2 calls last) :
      Serves pool (.tryAcquire uid pool.tryAcquire.1 :: calls) last
  | tryRelease {pool last : Pool} {calls : List ReconcilerCall} (uid : String)
      (rest : Serves pool.tryRelease.2.1 calls last) :
      Serves pool (.tryRelease uid pool.tryRelease.1 :: calls) last

theorem Pool.Serves.append {pool middle last : Pool} {calls more : List ReconcilerCall}
    (serves : pool.Serves calls middle) (rest : middle.Serves more last) :
    pool.Serves (calls ++ more) last := by
  induction serves with
  | nil pool => exact rest
  | tryAcquire uid _ ih => exact .tryAcquire uid (ih rest)
  | tryRelease uid _ ih => exact .tryRelease uid (ih rest)

namespace Reconciler

/-- The calls that are made for a change. -/
def calls (pool : Pool) (change : ResourceEvent) : List ReconcilerCall :=
  (apply 0 pool change).2.filterMap Notice.call?

/-- A change asks for one call, or for none. -/
theorem calls_eq (pool : Pool) (change : ResourceEvent) :
    calls pool change =
      match demand change with
      | .claim => [.tryAcquire (change.uid?.getD "") pool.tryAcquire.1]
      | .giveBack => [.tryRelease (change.uid?.getD "") pool.tryRelease.1]
      | .nothing => [] := by
  have ignored : (ignoredRecord change).filterMap Notice.call? = [] := by
    cases change <;> rfl
  have told (event : Event) : [Notice.published 0 event].filterMap Notice.call? = [] := rfl
  simp only [calls, apply, settle]
  cases demand change with
  | claim =>
      simp only [List.filterMap_append, ignored, told, List.append_nil]
      rfl
  | giveBack =>
      simp only [List.filterMap_append, ignored, told, Notice.filterMap_call?_wokenOf,
        List.append_nil, List.nil_append]
      rfl
  | nothing => simp only [List.filterMap_append, ignored, told, List.filterMap_nil, List.append_nil]

theorem apply_serves (pool : Pool) (change : ResourceEvent) :
    pool.Serves (calls pool change) (apply 0 pool change).1 := by
  rw [calls_eq]
  simp only [apply, settle]
  cases demand change with
  | claim => exact .tryAcquire _ (.nil _)
  | giveBack => exact .tryRelease _ (.nil _)
  | nothing => exact .nil pool

end Reconciler

end Admission
