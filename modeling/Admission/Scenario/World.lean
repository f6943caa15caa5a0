import Admission.Bus
import Admission.Fanout
import Admission.Metrics.Limiter
import Admission.Scheduler
import Admission.System.Turn
import Admission.Writer

/-!
# Worlds

A world is a system together with its observers: the bus of each limiter, the sinks of the
subscribers, and the scheduler that gives turns to tasks, to the listener that reads the first
bus, and to the workers of the sinks. Whatever the system notes is passed on to the buses and to
the scheduler; nothing that an observer does reaches the system.
-/

namespace Admission

/-- Whoever can have a turn. -/
inductive Actor where
  | task (index : Nat)
  /-- The listener that passes the events of the first bus to the sinks. -/
  | listener
  | worker (sink : Nat)
  /-- The caller that shuts the sinks down. -/
  | closer
deriving DecidableEq, Repr

/-- What a subscriber does with the events that it handles. -/
inductive Role where
  | keeping
  | writing
  | measuring (space : String)
deriving DecidableEq, Repr

/-- A system with its observers. -/
structure World where
  system : System := {}
  scheduler : Scheduler Actor := {}
  buses : Array Bus := #[]
  sinks : List Sink := []
  /-- What the subscriber of each sink does with an event. -/
  roles : Array Role := #[]
  /-- Where the listener stands on the first bus. -/
  position : Nat := 0
  /-- Whether the sinks get no more events. -/
  isClosing : Bool := false
  /-- Whether all workers have ended after a caller shut the sinks down. -/
  isShutDown : Bool := false
  /-- Whether the limiters are still held from outside. -/
  isHeld : Bool := true
  registries : Array Registry := #[]
  journal : Array LogRecord := #[]
  /-- The events that subscribers keep, each with its sink. -/
  kept : Array (Nat × Event) := #[]
  /-- How much of the history of the system has been passed on. -/
  passedOn : Nat := 0

namespace World

/-- Lets a source speak. -/
def tell (world : World) (source : Source) : World :=
  { world with scheduler := world.scheduler.tell source }

/-- Puts an actor at the end of the queue. -/
def wake (world : World) (actor : Actor) : World :=
  { world with scheduler := world.scheduler.wake actor }

/-- Parks an actor at exactly the given sources. -/
def park (world : World) (actor : Actor) (sources : List Source) : World :=
  { world with scheduler := world.scheduler.park actor sources }

/-- Lets an actor go on once the others have acted. -/
def defer (world : World) (actor : Actor) : World :=
  { world with scheduler := world.scheduler.defer actor }

def log (world : World) (record : LogRecord) : World :=
  { world with journal := world.journal.push record }

/-- Passes a notice of the system on. -/
def passOn (world : World) : Notice → World
  | .published place event =>
      { world with buses := world.buses.modify place (·.publish event) }.tell (.bus place)
  | .logged record => world.log record
  | .woken task => world.wake (.task task)
  | .yielded task => world.defer (.task task)
  | .told source => world.tell source
  | .spawned task => world.wake (.task task)
  | .forwarded _ => world
  | .finished _ _ => world

/-- Takes over a new state of the system, and passes on what it noted. -/
def withSystem (world : World) (system : System) : World :=
  let news := system.history.extract world.passedOn system.history.size
  news.foldl passOn { world with system, passedOn := system.history.size }

def sinkName (world : World) (sink : Nat) : String :=
  (world.sinks[sink]?.map (·.subscriber.name)).getD ""

/-- Lets the subscriber of a sink do its work on an event. -/
def serve (world : World) (sink : Nat) (event : Event) : World :=
  match world.roles[sink]? with
  | some .keeping => { world with kept := world.kept.push (sink, event) }
  | some .writing => world.log (Writer.record event)
  | some (.measuring space) =>
      { world with
        registries := world.registries.modify sink fun registry =>
          LimiterMetrics.record space registry event }
  | none => world

/-- Takes account of what became of an event at a sink. -/
def account (world : World) (delivery : Delivery) : World :=
  match delivery with
  | .accepted sink _ => world.tell (.queue sink)
  | .handled sink event => world.serve sink event
  | other =>
      match other.record? world.sinkName with
      | some record => world.log record
      | none => world

def emit (world : World) (event : Event) : World :=
  let (sinks, deliveries) := offerAll event 0 world.sinks
  deliveries.foldl account { world with sinks }

/-- Lets the sinks get no more events. -/
def beginClosing (world : World) : World :=
  if world.isClosing then world
  else
    let indices := List.range world.sinks.length
    let world :=
      { world with
        isClosing := true
        sinks := world.sinks.map fun sink => { sink with isClosed := true } }
    indices.foldl (fun world index => world.tell (.queue index)) world

/-- Whoever shuts the sinks down waits for the first worker that has not ended. -/
def awaitWorkers (world : World) (actor : Actor) : World :=
  match world.sinks.findIdx? fun sink => !sink.isDone with
  | some index => world.park actor [.worker index]
  | none =>
      { world with isShutDown := world.isShutDown || decide (actor = Actor.closer) }.park actor []

/-- What the listener does with something that it receives. -/
def hear (world : World) : Reception → World
  | .event event => world.emit event
  | .lagged missed => world.log (fellBehindRecord missed)
  | _ => world

/-- The listener passes on what the first bus has for it, as much as one turn allows. -/
def listen (world : World) : World :=
  match world.buses[0]? with
  | none => world
  | some bus =>
      let (receptions, position) := bus.take turnLimit world.position
      let world := receptions.foldl hear { world with position }
      if turnLimit ≤ receptions.length then world.defer .listener
      else if bus.isClosed then world.beginClosing.awaitWorkers .listener
      else world.park .listener [.bus 0]

/-- The worker of a sink hands events to its subscriber. -/
def work (world : World) (index : Nat) : World :=
  match world.sinks[index]? with
  | none => world
  | some before =>
      let (sink, deliveries) := before.work world.system.isOpen index
      let world := deliveries.foldl account { world with sinks := world.sinks.set index sink }
      if sink.isDone then
        (world.park (.worker index) []).tell (.worker index)
      else if sink.handling.isNone && turnLimit ≤ before.queue.length then
        world.defer (.worker index)
      else
        let source :=
          match sink.heldUpAt with
          | some gate => Source.gate gate
          | none => .queue index
        world.park (.worker index) [source]

def holdsLimiter (state : TaskState) : Bool :=
  state.outcome.isNone &&
    match state.task with
    | .admission _ _ _ => true
    | .registration _ _ _ => true
    | .listening _ => true
    | _ => false

/-- Closes the buses once nobody holds a limiter any more. -/
def closeBuses (world : World) : World :=
  if world.isHeld || world.system.tasks.any holdsLimiter then world
  else { world with buses := world.buses.map Bus.close }.tell (.bus 0)

/-- A task has a turn. One that is further on afterwards has ended its old waits, and begins to
wait anew even for a source at which it was parked before. -/
def turnTask (world : World) (index : Nat) : World :=
  let system := world.system.turn index
  let scheduler :=
    if system.task? index = world.system.task? index then world.scheduler
    else world.scheduler.unpark (.task index)
  let world := { world with scheduler }.withSystem system
  (world.park (.task index) (system.awaits index)).closeBuses

def turn (world : World) : Actor → World
  | .task index => world.turnTask index
  | .listener => if world.isClosing then world.awaitWorkers .listener else world.listen
  | .worker index => world.work index
  | .closer => world.beginClosing.awaitWorkers .closer

/-- After how many turns without a break those who are deferred join the queue. -/
def streakLimit : Nat := 61

/-- Lets all that are deferred join the queue. -/
def callBack (world : World) : World :=
  { world with scheduler := world.scheduler.callBack }

/-- Gives turns, in the order of the queue, until nobody can act or the given number of turns is
used up. The second number counts the turns since those who are deferred were last recalled. -/
def settleWithin : Nat → Nat → World → World
  | 0, _, world => world
  | turns + 1, streak, world =>
      match world.scheduler.ready with
      | [] =>
          if world.scheduler.deferred.isEmpty then world else settleWithin turns 0 world.callBack
      | actor :: rest =>
          let world := turn { world with scheduler := { world.scheduler with ready := rest } } actor
          if streak + 1 < streakLimit then settleWithin turns (streak + 1) world
          else settleWithin turns 0 world.callBack

/-- More turns than any run of a script takes between two of its steps. -/
def patience : Nat := 10000000

/-- Gives turns until nobody can act. -/
def settle (world : World) : World :=
  world.settleWithin patience 0

def setClock (world : World) (tick : Nat) : World :=
  { world with system := { world.system with now := tick } }

/-- Moves the clock from deadline to deadline up to a tick. At each of them everybody acts who can,
except that those whose deadline is the last tick are woken and have not acted yet. -/
def advanceWithin : Nat → Nat → World → World
  | 0, tick, world => world.setClock tick
  | deadlines + 1, tick, world =>
      match world.scheduler.nextDeadline? tick with
      | none => world.setClock tick
      | some deadline =>
          let reached := max deadline world.system.now
          let world := (world.setClock reached).tell (.clock deadline)
          advanceWithin deadlines tick (if reached < tick then world.settle else world)

/-- Lets some milliseconds pass, as long as one pauses at most. If there are none, nobody acts
meanwhile. -/
def advance (world : World) (milliseconds : Nat) : World :=
  if milliseconds = 0 then world
  else advanceWithin patience (world.system.now + Duration.pause milliseconds) world.settle

end World

end Admission
