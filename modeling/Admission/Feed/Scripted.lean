import Admission.Error
import Admission.Feed.Item

/-!
# The scripted feed

A feed that tells what a script makes it tell: a watch fails, or gets the items laid down for
it, and then ends or stays open for items sent later.
-/

namespace Admission

/-- A feed that follows a script. -/
structure ScriptedFeed where
  name : String := "script"
  /-- What every watch is told at its start. -/
  items : List FeedItem := []
  closes : Bool := false
  /-- Why every watch fails, if it does. -/
  failure : Option SyncError := none
  /-- The streams of the watches that are open. -/
  streams : List Nat := []
deriving DecidableEq, Repr

end Admission
