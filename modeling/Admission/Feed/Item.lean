import Admission.Event
import Admission.Resource

/-!
# Feed items

A feed of the cluster tells of resources that were added, updated or deleted, and marks the
point at which it has told everything that existed when the watch began. A notification that
the feed could not make sense of is passed on as such.
-/

namespace Admission

/-- A change of a resource as a feed tells it. -/
inductive ResourceEvent where
  /-- A resource is there; it may have been there before the watch began. -/
  | added (resource : JobResource) (initialList : Bool)
  | updated (previous current : JobResource)
  | deleted (lastKnown : JobResource)
  /-- A notification that makes no sense. -/
  | unrecognized (kind : NotificationKind) (reason : String)
deriving DecidableEq, Repr

namespace ResourceEvent

/-- The resource that a change is about. -/
def uid? : ResourceEvent → Option String
  | added resource _ => some resource.uid
  | updated _ current => some current.uid
  | deleted lastKnown => some lastKnown.uid
  | unrecognized _ _ => none

end ResourceEvent

/-- An element of the stream of a watch. -/
inductive FeedItem where
  | event (event : ResourceEvent)
  /-- All that existed when the watch began has been told. -/
  | synced
deriving DecidableEq, Repr

end Admission
