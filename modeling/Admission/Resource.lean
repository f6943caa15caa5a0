import Admission.Text.Quoted
import Admission.Text.Fields

/-!
# Job resources

The cluster keeps a resource for every job that was started: a unique identifier, a name, and a
status that counts its runs and lists conditions. A resource is finished as soon as one of the
two terminal conditions holds.
-/

namespace Admission

/-- What a condition speaks of. -/
inductive ConditionKind where
  | complete
  | failed
  /-- The job is on hold. -/
  | suspended
deriving DecidableEq, Repr

namespace ConditionKind

def name : ConditionKind → String
  | complete => "Complete"
  | failed => "Failed"
  | suspended => "Suspended"

def ofName? (name : String) : Option ConditionKind :=
  [complete, failed, suspended].find? fun kind => kind.name == name

/-- Whether a job does not go on once the condition holds. -/
def isTerminal : ConditionKind → Bool
  | complete => true
  | failed => true
  | suspended => false

end ConditionKind

/-- A statement that a condition does or does not hold. -/
structure Condition where
  kind : ConditionKind
  status : Bool
deriving DecidableEq, Repr

namespace Condition

/-- The condition with its parts. -/
def describe (condition : Condition) : String :=
  Text.record "JobCondition"
    [("kind", condition.kind.name), ("status", Text.truthWord condition.status)]

end Condition

/-- Sets the first condition of a kind, or adds one at the end. -/
def setCondition (kind : ConditionKind) (status : Bool) : List Condition → List Condition
  | [] => [⟨kind, status⟩]
  | condition :: rest =>
      if condition.kind = kind then ⟨kind, status⟩ :: rest
      else condition :: setCondition kind status rest

/-- The state of a job in the cluster. -/
structure JobStatus where
  active : Nat := 0
  succeeded : Nat := 0
  failed : Nat := 0
  /-- What is stated about the job; the list is open to any writer. -/
  conditions : List Condition := []
deriving DecidableEq, Repr

namespace JobStatus

/-- Whether some terminal condition holds. -/
def isFinished (status : JobStatus) : Bool :=
  status.conditions.any fun condition => condition.status && condition.kind.isTerminal

def withCondition (status : JobStatus) (kind : ConditionKind) (value : Bool) : JobStatus :=
  { status with conditions := setCondition kind value status.conditions }

/-- The status with its parts. -/
def describe (status : JobStatus) : String :=
  Text.record "JobStatus"
    [("active", toString status.active),
     ("succeeded", toString status.succeeded),
     ("failed", toString status.failed),
     ("conditions", Text.bracketed (status.conditions.map Condition.describe))]

end JobStatus

/-- A job as the cluster knows it. -/
structure JobResource where
  /-- Its identifier, unique in a feed. -/
  uid : String
  name : String
  status : JobStatus
deriving DecidableEq, Repr

namespace JobResource

/-- A job that has just been started. -/
def running (uid name : String) : JobResource :=
  ⟨uid, name, { active := 1 }⟩

def complete (resource : JobResource) : JobResource :=
  let status :=
    { resource.status with active := 0, succeeded := resource.status.succeeded + 1 }
  { resource with status := status.withCondition .complete true }

def fail (resource : JobResource) : JobResource :=
  let status := { resource.status with active := 0, failed := resource.status.failed + 1 }
  { resource with status := status.withCondition .failed true }

/-- A job that was started and succeeded. -/
def completed (uid name : String) : JobResource :=
  (running uid name).complete

def isFinished (resource : JobResource) : Bool :=
  resource.status.isFinished

/-- The job with its parts. -/
def describe (resource : JobResource) : String :=
  Text.record "JobResource"
    [("uid", Text.quoted resource.uid), ("name", Text.quoted resource.name),
     ("status", resource.status.describe)]

end JobResource

end Admission
