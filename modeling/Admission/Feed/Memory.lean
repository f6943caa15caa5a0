import Admission.Cancellation.Context
import Admission.Feed.Item

/-!
# The feed in memory

A feed that holds its resources itself, in the order of their identifiers. Every change is told
to every watcher; a watcher whose context is cancelled or whose reader is gone is given up when
the next change is told. A new watch begins with the resources that are there, each as one of
the first listing, and the mark that all of them have been told.
-/

namespace Admission

/-- Somebody who watches a feed. -/
structure Watcher where
  /-- Ends the watch when it is cancelled. -/
  context : Context
  /-- Where the items go. -/
  stream : Nat
deriving DecidableEq, Repr

/-- What a feed does for a change: who is told, and who is given up. -/
structure Broadcast where
  /-- The watchers that are told, in order, with the change. -/
  told : List (Watcher × ResourceEvent) := []
  givenUp : List Watcher := []
deriving DecidableEq, Repr

/-- Resources with those who watch them. -/
structure MemoryFeed where
  /-- The resources, in ascending order of their identifiers. -/
  resources : List JobResource := []
  /-- The watchers, in the order in which they came. -/
  watchers : List Watcher := []
deriving DecidableEq, Repr

namespace MemoryFeed

def name : String := "memory"

/-- Puts a resource in its place, over the one of the same identifier. -/
def insert (resource : JobResource) : List JobResource → List JobResource
  | [] => [resource]
  | first :: rest =>
      if first.uid = resource.uid then resource :: rest
      else if resource.uid < first.uid then resource :: first :: rest
      else first :: insert resource rest

/-- A feed with some resources; of two with one identifier, the later one counts. -/
def ofResources (resources : List JobResource) : MemoryFeed :=
  { resources := resources.foldl (fun held resource => insert resource held) [] }

def get? (feed : MemoryFeed) (uid : String) : Option JobResource :=
  feed.resources.find? fun resource => resource.uid == uid

/-- Tells a change to the watchers that are still there. -/
def broadcast (feed : MemoryFeed) (isLive : Watcher → Bool) (change : ResourceEvent) :
    MemoryFeed × Broadcast :=
  let kept := feed.watchers.filter isLive
  ({ feed with watchers := kept },
    { told := kept.map fun watcher => (watcher, change)
      givenUp := feed.watchers.filter fun watcher => !isLive watcher })

/-- Puts a resource into the feed. -/
def apply (feed : MemoryFeed) (isLive : Watcher → Bool) (resource : JobResource) :
    MemoryFeed × Broadcast :=
  let change :=
    match feed.get? resource.uid with
    | some previous => ResourceEvent.updated previous resource
    | none => .added resource false
  { feed with resources := insert resource feed.resources }.broadcast isLive change

/-- Takes a resource out of the feed; without it, nothing is told. -/
def delete (feed : MemoryFeed) (isLive : Watcher → Bool) (uid : String) :
    MemoryFeed × Broadcast × Option JobResource :=
  match feed.get? uid with
  | none => (feed, {}, none)
  | some lastKnown =>
      let left := feed.resources.filter fun resource => resource.uid != uid
      let (feed, broadcast) :=
        { feed with resources := left }.broadcast isLive (.deleted lastKnown)
      (feed, broadcast, some lastKnown)

/-- Tells a change that the feed did not make. -/
def inject (feed : MemoryFeed) (isLive : Watcher → Bool) (change : ResourceEvent) :
    MemoryFeed × Broadcast :=
  feed.broadcast isLive change

/-- The items with which a new watch begins. -/
def replay (feed : MemoryFeed) : List FeedItem :=
  (feed.resources.map fun resource => .event (.added resource true)) ++ [.synced]

def addWatcher (feed : MemoryFeed) (watcher : Watcher) : MemoryFeed :=
  { feed with watchers := feed.watchers ++ [watcher] }

end MemoryFeed

end Admission
