import Admission.Notice

/-!
# The scheduler

Actors that can act stand in a queue, in the order in which they were started or woken, and none
stands in it twice. All others are parked at what they wait for, in the order in which they
began to wait. When a source speaks, all that are parked at it join the queue in that order. An
actor that has more to do than one turn allows is deferred: it joins the queue again when nobody
else can act, and at the latest after a fixed number of turns.
-/

namespace Admission

/-- Who can act, and who waits for what. -/
structure Scheduler (Actor : Type) where
  /-- Those who can act, first come first. -/
  ready : List Actor := []
  /-- Those who wait, in the order in which they began to. -/
  parked : List (Source × Actor) := []
  /-- Those who have more to do and let the others act first. -/
  deferred : List Actor := []

namespace Scheduler

variable {Actor : Type} [DecidableEq Actor]

/-- Puts an actor at the end of the queue, unless it stands there already. -/
def wake (scheduler : Scheduler Actor) (actor : Actor) : Scheduler Actor :=
  if actor ∈ scheduler.ready then scheduler
  else { scheduler with ready := scheduler.ready ++ [actor] }

def tell (scheduler : Scheduler Actor) (source : Source) : Scheduler Actor :=
  let heard := (scheduler.parked.filter fun entry => entry.1 == source).map (·.2)
  let parked := scheduler.parked.filter fun entry => entry.1 != source
  heard.foldl wake { scheduler with parked }

/-- Parks an actor at exactly the given sources; where it is parked already, it keeps its
place. One that is deferred waits for nothing. -/
def park (scheduler : Scheduler Actor) (actor : Actor) (sources : List Source) :
    Scheduler Actor :=
  let sources := if actor ∈ scheduler.deferred then [] else sources
  let kept := scheduler.parked.filter fun entry =>
    entry.2 != actor || sources.contains entry.1
  let added := sources.filter fun source => !kept.contains (source, actor)
  { scheduler with parked := kept ++ added.map fun source => (source, actor) }

/-- Ends all waits of an actor. -/
def unpark (scheduler : Scheduler Actor) (actor : Actor) : Scheduler Actor :=
  { scheduler with parked := scheduler.parked.filter fun entry => entry.2 != actor }

def defer (scheduler : Scheduler Actor) (actor : Actor) : Scheduler Actor :=
  if actor ∈ scheduler.deferred then scheduler
  else { scheduler with deferred := scheduler.deferred ++ [actor] }.unpark actor

/-- Lets all that are deferred join the queue. -/
def callBack (scheduler : Scheduler Actor) : Scheduler Actor :=
  scheduler.deferred.foldl wake { scheduler with deferred := [] }

/-- The first deadline of a parked actor that is not later than some tick. -/
def nextDeadline? (scheduler : Scheduler Actor) (last : Nat) : Option Nat :=
  (scheduler.parked.filterMap fun entry =>
    match entry.1 with
    | .clock tick => if tick ≤ last then some tick else none
    | _ => none).min?

end Scheduler

end Admission
