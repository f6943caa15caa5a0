import Admission.Text.Quoted
import Admission.Text.Fields

/-!
# Jobs

A job is an identifier, the signal that says whether what is known about it is out of date, and
a payload that only its reader understands. A payload is read at the type at which it was
attached, and at no other.
-/

namespace Admission

/-- What can be attached to a job. -/
inductive Payload where
  | word (value : UInt32)
  | integer (value : Int)
  | truth (value : Bool)
  | text (value : String)
deriving DecidableEq, Repr

namespace Payload

def word? : Payload → Option UInt32
  | word value => some value
  | _ => none

def integer? : Payload → Option Int
  | integer value => some value
  | _ => none

def truth? : Payload → Option Bool
  | truth value => some value
  | _ => none

def text? : Payload → Option String
  | text value => some value
  | _ => none

end Payload

/-- A job that asks for admission. -/
structure Job where
  uuid : String
  signal : Nat
  payload : Option Payload := none
deriving DecidableEq, Repr

namespace Job

/-- The job with a payload in place of the one it had. -/
def withPayload (job : Job) (payload : Payload) : Job :=
  { job with payload := some payload }

/-- The job with its parts, given whether it is stale. -/
def describe (job : Job) (isStale : Bool) : String :=
  Text.record "Job"
    [("uuid", Text.quoted job.uuid), ("stale", Text.truthWord isStale),
     ("payload", Text.truthWord job.payload.isSome)]

end Job

end Admission
