import Admission.Duration

/-!
# Events

What a limiter and its reconciler tell about admission. An event has a kind, a number that
grows with every event made, and the particulars that its kind calls for.
-/

namespace Admission

/-- What an event is about. -/
inductive EventKind where
  /-- The limiter was set up. -/
  | capacityConfigured
  /-- A job won a token. -/
  | tokenAcquired
  /-- A token came back after a later handler failed. -/
  | tokenReturned
  /-- A job went stale before it won a token. -/
  | jobStale
  /-- A wait for a token was cancelled. -/
  | waitCanceled
  | resourceAdded
  | resourceUpdated
  | resourceDeleted
  /-- A notification was not understood. -/
  | resourceIgnored
  /-- A feed has replayed all it knew. -/
  | feedSynced
deriving DecidableEq, Repr, Inhabited

namespace EventKind

def names : List (EventKind × String) :=
  [(capacityConfigured, "CapacityConfigured"), (tokenAcquired, "TokenAcquired"),
   (tokenReturned, "TokenReturned"), (jobStale, "JobStale"), (waitCanceled, "WaitCanceled"),
   (resourceAdded, "ResourceAdded"), (resourceUpdated, "ResourceUpdated"),
   (resourceDeleted, "ResourceDeleted"), (resourceIgnored, "ResourceIgnored"),
   (feedSynced, "FeedSynced")]

def name (kind : EventKind) : String :=
  (names.lookup kind).getD ""

def ofName? (name : String) : Option EventKind :=
  (names.find? fun entry => entry.2 == name).map (·.1)

/-- Whether the kind tells how a wait for a token or its aftermath went. -/
def isAdmission : EventKind → Bool
  | tokenAcquired => true
  | tokenReturned => true
  | jobStale => true
  | waitCanceled => true
  | _ => false

def isGivenUp : EventKind → Bool
  | jobStale => true
  | waitCanceled => true
  | _ => false

end EventKind

/-- The three ways in which a resource can change. -/
inductive NotificationKind where
  | add
  | update
  /-- It went away. -/
  | delete
deriving DecidableEq, Repr

namespace NotificationKind

def label : NotificationKind → String
  | add => "add"
  | update => "update"
  | delete => "delete"

def ofLabel? (word : String) : Option NotificationKind :=
  [add, update, delete].find? fun kind => kind.label == word

end NotificationKind

/-- One event; particulars that its kind does not call for are absent. -/
structure Event where
  kind : EventKind
  /-- Its number among all events made. -/
  sequence : Nat := 0
  job : Option String := none
  resource : Option String := none
  /-- Why it came about. -/
  reason : Option String := none
  /-- The tokens available at that moment. -/
  available : Option Nat := none
  capacity : Option Nat := none
  /-- How long the job waited. -/
  wait : Option Duration := none
  /-- Whether the resource was part of the first listing. -/
  initialList : Option Bool := none
  notification : Option NotificationKind := none
deriving DecidableEq, Repr, Inhabited

namespace Event

/-- The same event under another number. -/
def numbered (event : Event) (sequence : Nat) : Event :=
  { event with sequence }

/-- Whether a wait given up is listed no later than another: by job, an absent job first, then
staleness before cancellation. -/
def isListedNoLater (first second : Event) : Bool :=
  match first.job, second.job with
  | none, some _ => true
  | some _, none => false
  | none, none => kindNoLater
  | some firstJob, some secondJob =>
      if firstJob = secondJob then kindNoLater else firstJob < secondJob
where
  /-- Staleness is listed before cancellation. -/
  kindNoLater : Bool := first.kind == .jobStale || second.kind == .waitCanceled

end Event

end Admission
