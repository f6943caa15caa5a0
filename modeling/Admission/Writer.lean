import Admission.Event
import Admission.Journal

/-!
# Writing events down

One subscriber writes every event into the journal. Routine admission is written at the lowest
level; what an operator wants to see (stale jobs, failures behind the limiter, a synced feed) is
written above it. A job or resource that an event does not name is written as a dash, a missing
reason as an empty text.
-/

namespace Admission

namespace Writer

def name : String := "log"

def numberField (name : String) (value : Option Nat) : List (String × FieldValue) :=
  value.toList.map fun value => (name, .number value)

/-- A wait in milliseconds, as a word of 64 bits holds it. -/
def waitField (wait : Option Duration) : List (String × FieldValue) :=
  wait.toList.map fun wait => ("wait_ms", .number (wait.milliseconds % Nat.pow 2 64))

def level : EventKind → Level
  | .capacityConfigured => .info
  | .tokenAcquired => .debug
  | .tokenReturned => .warn
  | .jobStale => .info
  | .waitCanceled => .info
  | .resourceAdded => .debug
  | .resourceUpdated => .debug
  | .resourceDeleted => .debug
  | .resourceIgnored => .debug
  | .feedSynced => .info

/-- The message under which a kind of event is written. -/
def message : EventKind → String
  | .capacityConfigured => "capacity configured"
  | .tokenAcquired => "token acquired"
  | .tokenReturned => "token returned after downstream failure"
  | .jobStale => "job stale before a token was available"
  | .waitCanceled => "token wait canceled"
  | .resourceAdded => "resource added"
  | .resourceUpdated => "resource updated"
  | .resourceDeleted => "resource deleted"
  | .resourceIgnored => "ignoring unrecognized resource notification"
  | .feedSynced => "event feed synced"

def fields (event : Event) : List (String × FieldValue) :=
  let job := ("job", FieldValue.text (event.job.getD "-"))
  let resource := ("resource", FieldValue.text (event.resource.getD "-"))
  let reason := FieldValue.text (event.reason.getD "")
  let available := numberField "available" event.available
  match event.kind with
  | .capacityConfigured => numberField "max_in_flight" event.capacity ++ available
  | .tokenAcquired => job :: available ++ waitField event.wait
  | .tokenReturned => job :: available ++ [("reason", reason)]
  | .jobStale => [job]
  | .waitCanceled => [job, ("reason", reason)]
  | .resourceAdded =>
      resource :: (event.initialList.toList.map fun value => ("initial_list", .truth value)) ++
        available
  | .resourceUpdated => resource :: available
  | .resourceDeleted => resource :: available
  | .resourceIgnored =>
      (event.notification.toList.map fun kind => ("notification", .text kind.label)) ++
        [("reason", reason)]
  | .feedSynced => ("feed", reason) :: available

def record (event : Event) : LogRecord :=
  { origin := .writer, level := level event.kind, message := message event.kind,
    fields := fields event }

end Writer

end Admission
