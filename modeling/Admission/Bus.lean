import Admission.Error
import Admission.Event

/-!
# The event bus

A bus takes every event that is published and keeps the latest ones, as many as its capacity.
Each receiver reads them in order from where it stands. One that has fallen behind the oldest
event kept is told first how many it lost, and goes on from there.

The bus is the list of all events published, and a receiver is a position in it; what is kept is
the end of that list.
-/

namespace Admission

structure Bus where
  capacity : Nat
  /-- All events published, the oldest first. -/
  log : Array Event := #[]
  /-- Whether nobody can publish any more. -/
  isClosed : Bool := false
deriving Repr

/-- What a receiver gets. -/
inductive Reception where
  | event (event : Event)
  /-- That it lost so many events. -/
  | lagged (missed : Nat)
  | empty
  /-- Nothing ever again. -/
  | closed
deriving Repr

namespace Bus

/-- The most events that a bus can keep. -/
def maxCapacity : Nat := Nat.pow 2 63 - 1

/-- The least power of two that is not below a number. -/
def roundUp (number : Nat) : Nat :=
  if number ≤ 1 then 1 else Nat.pow 2 ((number - 1).log2 + 1)

/-- Sets up a bus. It keeps at least one event, and its capacity is rounded up to a power of
two. -/
def create (capacity : Nat) : Except SetupError Bus :=
  if maxCapacity < capacity then .error .busTooLarge
  else .ok { capacity := roundUp (max capacity 1) }

def publish (bus : Bus) (event : Event) : Bus :=
  { bus with log := bus.log.push event }

/-- Where a new receiver stands. -/
def subscribe (bus : Bus) : Nat :=
  bus.log.size

/-- The position of the oldest event kept. -/
def oldest (bus : Bus) : Nat :=
  bus.log.size - bus.capacity

/-- The bus once nobody can publish any more. -/
def close (bus : Bus) : Bus :=
  { bus with isClosed := true }

/-- What a receiver at a position gets, and where it stands afterwards. -/
def receive (bus : Bus) (position : Nat) : Reception × Nat :=
  if position < bus.oldest then (.lagged (bus.oldest - position), bus.oldest)
  else
    match bus.log[position]? with
    | some event => (.event event, position + 1)
    | none => (if bus.isClosed then .closed else .empty, position)

/-- What a receiver gets that asks for more up to some number of times, as long as the bus has
more for it. -/
def take (bus : Bus) (count position : Nat) : List Reception × Nat :=
  let lag :=
    if position < bus.oldest then [Reception.lagged (bus.oldest - position)] else []
  let start := max position bus.oldest
  let stop := min bus.log.size (start + (count - lag.length))
  (lag ++ ((bus.log.extract start stop).toList.map .event), stop)

/-- All that a receiver gets until the bus has no more for it. -/
def drain (bus : Bus) (position : Nat) : List Reception × Nat :=
  bus.take (bus.log.size + 1) position

end Bus

end Admission
