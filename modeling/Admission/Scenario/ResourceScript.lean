import Admission.Reconciler
import Admission.Staleness

/-!
# Scripts for single parts

Small scripts for a resource that goes through changes, for a pool that a reconciler keeps in
step with changes, and for a job that is shared, given payloads and made stale.
-/

namespace Admission

/-- A step that changes a resource. -/
inductive ResourceStep where
  | complete
  | fail
  | condition (kind : ConditionKind) (status : Bool)
  /-- A condition is added at the end of the list. -/
  | push (condition : Condition)
  | status (status : JobStatus)

def JobResource.after (resource : JobResource) : ResourceStep → JobResource
  | .complete => resource.complete
  | .fail => resource.fail
  | .condition kind status => { resource with status := resource.status.withCondition kind status }
  | .push condition =>
      { resource with
        status :=
          { resource.status with conditions := resource.status.conditions ++ [condition] } }
  | .status status => { resource with status }

/-- The states of a resource, from the first one to the one after the last step. -/
def JobResource.states (resource : JobResource) : List ResourceStep → List JobResource
  | [] => [resource]
  | step :: rest => resource :: (resource.after step).states rest

/-- A pool of which some tokens were claimed before. -/
def Pool.withHeld (capacity held : Nat) : Except SetupError Pool :=
  (Pool.create capacity).map fun pool =>
    (List.range held).foldl (fun pool _ => pool.tryAcquire.2) pool

/-- What is seen of one change: the pool after it and what was told. -/
structure Reconciled where
  change : ResourceEvent
  pool : Pool
  notices : List Notice

namespace Reconciled

/-- The events among what was told. -/
def events (seen : Reconciled) : List Event :=
  seen.notices.filterMap fun notice => notice.event?.map (·.2)

/-- The records among what was told. -/
def records (seen : Reconciled) : List (Origin × List LogRecord) :=
  journalByOrigin (seen.notices.filterMap fun
    | .logged record => some record
    | _ => none)

/-- Applies changes one after the other. -/
def run (pool : Pool) : List ResourceEvent → List Reconciled
  | [] => []
  | change :: rest =>
      let (pool, notices) := Reconciler.apply 0 pool change
      ⟨change, pool, notices⟩ :: run pool rest

end Reconciled

/-- A job and its clone: the job without and with its payloads, its signal before anything and
at the end. All three handles share the signal. -/
structure SharedJob where
  plain : Job
  /-- The job, and its clone, with the payload attached last. -/
  laden : Job
  before : StaleSignal
  after : StaleSignal

/-- Attaches payloads to a job one after the other, and fires its signal if told so. -/
def SharedJob.create (uuid : String) (payloads : List Payload) (fires : Bool) : SharedJob :=
  let plain : Job := { uuid, signal := 0 }
  let before : StaleSignal := {}
  { plain, laden := payloads.foldl Job.withPayload plain, before
    after := if fires then before.fire else before }

end Admission
