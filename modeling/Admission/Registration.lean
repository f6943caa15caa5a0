import Admission.Cancellation.Context
import Admission.Reconciler

/-!
# Registering a feed

To register a feed is to start a watch and to wait until everything that existed when it began
has been applied. Two tasks share the watch: a listener, which applies the items of the stream
in order until the watch is cancelled or the stream ends, and the caller, which waits for the
first mark that all has been told. The caller gives up when its own context is cancelled, when
the listener ends before the mark, or when the mark takes too long, and then cancels the watch.
-/

namespace Admission

structure Watch where
  feed : String
  /-- The context that ends the watch. -/
  context : Context
  stream : Nat
  /-- Whether the listener has met the mark that all has been told. -/
  isSynced : Bool := false
  hasEnded : Bool := false
deriving DecidableEq, Repr

namespace Watch

/-- What the listener does with an item: the pool, whether the watch is synced, and what it
tells. The barrier that the caller waits at is opened by the first mark only. -/
def take (place index : Nat) (feed : String) (pool : Pool) (isSynced : Bool) :
    FeedItem → Pool × Bool × List Notice
  | .event change =>
      let (pool, notices) := Reconciler.apply place pool change
      (pool, isSynced, notices)
  | .synced =>
      if isSynced then (pool, true, [])
      else
        (pool, true,
          [.published place (Reconciler.syncedEvent feed pool.available),
           .told (.barrier index)])

/-- What the listener does with the items that it finds in the stream. -/
def takeAll (place index : Nat) (feed : String) :
    Pool → Bool → List FeedItem → Pool × Bool × List Notice
  | pool, isSynced, [] => (pool, isSynced, [])
  | pool, isSynced, item :: rest =>
      let (pool, isSynced, told) := take place index feed pool isSynced item
      let (pool, isSynced, notices) := takeAll place index feed pool isSynced rest
      (pool, isSynced, told ++ notices)

def endedNotice (feed : String) : Notice :=
  Reconciler.record "event feed watch ended" [("feed", .text feed)]

end Watch

namespace Registration

/-- What the caller finds at a turn: nothing yet, or how the registration ended. A cancelled
context counts before the mark, the mark before the end of the stream, and both before the time
limit. -/
def verdict (watch : Watch) (cause : Option String) (limit : Option Duration) (isOver : Bool) :
    Option (Except SyncError Unit) :=
  match cause with
  | some cause => some (.error (.canceled cause))
  | none =>
      if watch.isSynced then some (.ok ())
      else if watch.hasEnded then some (.error (.feedClosed watch.feed))
      else
        match limit with
        | some limit => if isOver then some (.error (.timeout limit)) else none
        | none => none

def syncedNotice (feed : String) (available : Nat) : Notice :=
  .logged
    { origin := .registration, level := .info, message := "event feed synced",
      fields := [("feed", .text feed), ("available_tokens", .number available)] }

def failedNotice (feed : String) (error : SyncError) : Notice :=
  .logged
    { origin := .registration, level := .warn, message := "failed to sync event feed",
      fields := [("feed", .text feed), ("error", .text error.message)] }

end Registration

end Admission
