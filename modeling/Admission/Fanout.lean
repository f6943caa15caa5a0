import Admission.Notice

/-!
# Fan-out to subscribers

Every subscriber has a sink: a bounded queue and a worker that hands the queued events to the
subscriber one at a time. An event that finds a queue full is lost for that sink and for no
other. A subscriber may be slow, wait for ever, or panic. A panic over an event costs it that event,
and its worker goes on with the next one. But the worker catches a panic only while the event is
being handled: a panic at the call or in the cleaning up brings the worker down. The events that
wait are then lost without a record, and no event gets in any more.

What becomes of an event at a sink is told in deliveries, from which the records of the fan-out
are written.
-/

namespace Admission

/-- What a subscriber does with an event. -/
inductive Conduct where
  | completes
  /-- It waits until a gate is open, and then handles the event or panics over it. -/
  | waitsFor (gate : String) (fault : Option String := none)
  | panics (text : String)
  /-- It panics when it is called, before its worker can catch anything. -/
  | collapses
  /-- It does what another conduct says, and then panics while it cleans up, where its worker does
  not catch it. -/
  | fells (first : Conduct)
deriving DecidableEq, Repr

namespace Conduct

/-- The gate that a subscriber waits for first. -/
def gate? : Conduct → Option String
  | waitsFor gate _ => some gate
  | fells first => first.gate?
  | _ => none

/-- The text with which a subscriber panics in the end, where its worker catches it. -/
def fault? : Conduct → Option String
  | completes => none
  | waitsFor _ fault => fault
  | panics text => some text
  | collapses => none
  | fells first => first.fault?

/-- Whether a subscriber never begins to handle the event. -/
def isSudden : Conduct → Bool
  | collapses => true
  | fells first => first.isSudden
  | _ => false

/-- Whether a subscriber brings its worker down. -/
def isFatal : Conduct → Bool
  | collapses => true
  | fells _ => true
  | _ => false

end Conduct

/-- What is asked of a subscriber. -/
structure Subscriber where
  name : String
  /-- How many events may wait for it. -/
  queueCapacity : Nat := 1024
  conduct : Event → Conduct := fun _ => .completes

/-- A subscriber with its queue and the state of its worker. -/
structure Sink where
  /-- Whom it serves. -/
  subscriber : Subscriber
  /-- The events that wait, the oldest first. -/
  queue : List Event := []
  /-- The event that the subscriber is busy with. -/
  handling : Option Event := none
  /-- Whether no further event can arrive. -/
  isClosed : Bool := false
  /-- Whether the worker has ended. -/
  isDone : Bool := false
  /-- Whether the subscriber has brought the worker down. -/
  isFallen : Bool := false

/-- What became of an event at a sink. -/
inductive Delivery where
  | accepted (sink : Nat) (event : Event)
  /-- It found the queue full. -/
  | missed (sink : Nat) (event : Event)
  /-- It found the worker gone. -/
  | refused (sink : Nat) (event : Event)
  | handled (sink : Nat) (event : Event)
  /-- The subscriber panicked over it. -/
  | panicked (sink : Nat) (event : Event) (text : String)
  /-- The subscriber brought its worker down when it was called with it. -/
  | fatal (sink : Nat) (event : Event)
  /-- It was waiting when the worker went down. -/
  | lost (sink : Nat) (event : Event)
deriving Repr

/-- What a worker gets done of some events. -/
structure Progress where
  deliveries : List Delivery := []
  /-- The event that the subscriber is stuck with. -/
  handling : Option Event := none
  /-- The events that it has not come to. -/
  left : List Event := []
  /-- Whether the subscriber has brought the worker down. -/
  isFallen : Bool := false

namespace Sink

/-- How many events may wait: at least one. -/
def capacity (sink : Sink) : Nat :=
  max sink.subscriber.queueCapacity 1

def offer (sink : Sink) (index : Nat) (event : Event) : Sink × Delivery :=
  if sink.isFallen then (sink, .refused index event)
  else if sink.queue.length < sink.capacity then
    ({ sink with queue := sink.queue ++ [event] }, .accepted index event)
  else
    (sink, .missed index event)

/-- What becomes of an event that a subscriber does not have to wait with any more. -/
def outcome (conduct : Event → Conduct) (index : Nat) (event : Event) : Delivery :=
  if (conduct event).isSudden then .fatal index event
  else
    match (conduct event).fault? with
    | none => .handled index event
    | some text => .panicked index event text

/-- What a worker gets done of a list of events, as long as its subscriber lets it stand. -/
def process (conduct : Event → Conduct) (isOpen : String → Bool) (index : Nat) :
    List Event → Progress
  | [] => {}
  | event :: rest =>
      if (conduct event).gate?.all isOpen then
        if (conduct event).isFatal then
          { deliveries := [outcome conduct index event], left := rest, isFallen := true }
        else
          let later := process conduct isOpen index rest
          { later with deliveries := outcome conduct index event :: later.deliveries }
      else { handling := some event, left := rest }

/-- One turn of the worker of a sink, which takes as many events from the queue as one turn
allows. It ends with the last turn of a closed sink that does not take so many, or goes down and
takes with it what waits. -/
def work (sink : Sink) (isOpen : String → Bool) (index : Nat) : Sink × List Delivery :=
  if sink.isFallen then (sink, [])
  else
    let progress :=
      process sink.subscriber.conduct isOpen index
        (sink.handling.toList ++ sink.queue.take turnLimit)
    let waiting := progress.left ++ sink.queue.drop turnLimit
    if progress.isFallen then
      ({ sink with queue := [], handling := none, isDone := true, isFallen := true },
        progress.deliveries ++ waiting.map (.lost index))
    else
      let isDone :=
        sink.isClosed && progress.handling.isNone && decide (sink.queue.length < turnLimit)
      ({ sink with queue := waiting, handling := progress.handling, isDone }, progress.deliveries)

/-- The gate at which the worker of a sink is held up. -/
def heldUpAt (sink : Sink) : Option String :=
  sink.handling.bind fun event => (sink.subscriber.conduct event).gate?

end Sink

def offerAll (event : Event) : Nat → List Sink → List Sink × List Delivery
  | _, [] => ([], [])
  | index, sink :: rest =>
      let (sink, delivery) := sink.offer index event
      let (rest, deliveries) := offerAll event (index + 1) rest
      (sink :: rest, delivery :: deliveries)

/-- The record of an event that did not get into a queue. -/
def missedRecord (name : String) (event : Event) (reason : String) : LogRecord :=
  { origin := .fanout, level := .warn, message := "subscriber missed an event",
    fields :=
      [("subscriber", .text name), ("kind", .text event.kind.name),
       ("seq", .number event.sequence), ("dropped", .text reason)] }

/-- The record of a delivery that went wrong. An event that is lost with its worker leaves none. -/
def Delivery.record? (names : Nat → String) : Delivery → Option LogRecord
  | .missed sink event => some (missedRecord (names sink) event "queue full")
  | .refused sink event => some (missedRecord (names sink) event "worker gone")
  | .panicked sink event text =>
      some
        { origin := .fanout, level := .error, message := "subscriber panicked",
          fields :=
            [("subscriber", .text (names sink)), ("seq", .number event.sequence),
             ("panic", .text text)] }
  | _ => none

def fellBehindRecord (skipped : Nat) : LogRecord :=
  { origin := .fanout, level := .warn, message := "subscriber listener fell behind the bus",
    fields := [("skipped", .number skipped)] }

end Admission
