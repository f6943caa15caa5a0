import Admission.Scenario.Step
import Admission.Scenario.World

/-!
# Sessions

A session runs a script against a world, and keeps what the names of the script stand for. After
every step everybody acts until nobody can; what was seen since the step before is then reported.
-/

namespace Admission

/-- A table of names, the latest first. -/
abbrev Names (Value : Type) := List (String × Value)

def Names.put {Value : Type} (names : Names Value) (name : String) (value : Value) :
    Names Value :=
  (name, value) :: names.filter fun entry => entry.1 != name

/-- Gives up a name. -/
def Names.remove {Value : Type} (names : Names Value) (name : String) : Names Value :=
  names.filter fun entry => entry.1 != name

/-- A world with the names of a script. -/
structure Session where
  world : World := {}
  contexts : Names Context := []
  signals : Names Nat := []
  tasks : Names Nat := []
  /-- All tasks that the script started, with the names that they had then. -/
  started : Array (String × Nat) := #[]
  streams : Names Nat := []
  reported : Nat := 0
  reportedRecords : Nat := 0
  /-- How many of the events that subscribers keep have been reported. -/
  reportedKept : Nat := 0
  reportedShutDown : Bool := false
  /-- Where the reader of each bus stands. -/
  taps : Array Nat := #[]

namespace Session

def rootName : String := "root"

/-- The feed that steps use which name none: the one in which handlers start jobs. -/
def feedName : String := System.clusterFeed

def withSystem (session : Session) (system : System) : Session :=
  { session with world := session.world.withSystem system }

def system (session : Session) : System :=
  session.world.system

/-- Replaces the state of the contexts. -/
def withCancellation (session : Session) (cancellation : Cancellation) : Session :=
  session.withSystem { session.system with cancellation }

/-- Names a context; one that had the name is dropped. -/
def nameContext (session : Session) (name : String) (context : Context) : Session :=
  let old := session.contexts.lookup name
  let session := { session with contexts := session.contexts.put name context }
  match old with
  | some old => session.withSystem (session.system.dropContext old)
  | none => session

/-- Names a signal; one that had the name is dropped. -/
def nameSignal (session : Session) (name : String) (signal : Nat) : Session :=
  let old := session.signals.lookup name
  let session := { session with signals := session.signals.put name signal }
  match old with
  | some old => session.withSystem (session.system.dropSignal old)
  | none => session

def makeContext (session : Session) (name : String)
    (make : Cancellation → Cancellation × Context) : Session :=
  let (cancellation, context) := make session.system.cancellation
  (session.withCancellation cancellation).nameContext name context

def deriveContext (session : Session) (name other : String)
    (derive : Cancellation → Context → Cancellation × Context) : Session :=
  match session.contexts.lookup other with
  | some other => session.makeContext name fun state => derive state other
  | none => session

/-- The context of a step, by its name or else the root. -/
def contextOf (session : Session) (name : Option String) : Option Context :=
  session.contexts.lookup (name.getD rootName)

/-- A handle on the signal of a step: a new one with a timer if a delay is given, or else a clone
of a named one, or else a new one that nobody fires. -/
def takeSignal (session : Session) (name : Option String) (delay : Option Nat) :
    Session × Nat :=
  match delay, name.bind fun name => session.signals.lookup name with
  | some delay, _ =>
      let (system, signal) := session.system.newTimedSignal (Duration.pause delay)
      (session.withSystem system, signal)
  | none, some signal => (session.withSystem (session.system.holdSignal signal), signal)
  | none, none =>
      let (system, signal) := session.system.newSignal
      (session.withSystem system, signal)

def start (session : Session) (name : String) (task : Task) : Session :=
  let (system, index) := session.system.spawn task
  let session := session.withSystem system
  { session with
    tasks := session.tasks.put name index
    started := session.started.push (name, index) }

def startWith (session : Session) (name : String) (context : Option String)
    (task : Context → Task) : Session :=
  match session.contextOf context with
  | some context =>
      (session.withSystem (session.system.holdContext context)).start name (task context)
  | none => session

def makeEvents (session : Session) (events : List Event) : Session × List Event :=
  let first := session.system.eventsMade
  let numbered := events.zipIdx.map fun entry => entry.1.numbered (first + entry.2 + 1)
  (session.withSystem { session.system with eventsMade := first + events.length }, numbered)

/-- The last sink whose subscriber measures, with the namespace and the registry of its metrics. -/
def metricsSink (session : Session) : Option (Nat × String × Registry) :=
  session.world.roles.toList.zipIdx.reverse.findSome? fun
    | (.measuring space, sink) => some (sink, space, (session.world.registries[sink]?).getD {})
    | _ => none

/-- The tokens available in the pool of the limiter at some place. -/
def availableIn (session : Session) (place : Nat) : Nat :=
  (session.system.pool place).available

def callSignals (session : Session) : Step → Session
  | .newContext name => session.makeContext name Cancellation.create
  | .childContext name parent => session.deriveContext name parent Cancellation.child
  | .cloneContext name other =>
      session.deriveContext name other fun state other => (state.clone other, other)
  | .wrapToken name other => session.deriveContext name other Cancellation.wrap
  | .wrapChildToken name other => session.deriveContext name other Cancellation.wrapChild
  | .cancel name cause =>
      match session.contexts.lookup name with
      | some context => session.withSystem (session.system.cancel context cause)
      | none => session
  | .cancelToken name =>
      match session.contexts.lookup name with
      | some context => session.withSystem (session.system.cancelToken context)
      | none => session
  | .dropContext name =>
      match session.contexts.lookup name with
      | some context =>
          { session with contexts := session.contexts.remove name }.withSystem
            (session.system.dropContext context)
      | none => session
  | .newSignal name delay =>
      let (session, signal) := session.takeSignal none delay
      session.nameSignal name signal
  | .cloneSignal name other =>
      match session.signals.lookup other with
      | some signal =>
          (session.withSystem (session.system.holdSignal signal)).nameSignal name signal
      | none => session
  | .fire name =>
      match session.signals.lookup name with
      | some signal => session.withSystem (session.system.fire signal)
      | none => session
  | .dropSignal name =>
      match session.signals.lookup name with
      | some signal =>
          { session with signals := session.signals.remove name }.withSystem
            (session.system.dropSignal signal)
      | none => session
  | _ => session

/-- Makes a step that starts or drops a task. -/
def callTasks (session : Session) : Step → Session
  | .awaitContext name context =>
      session.startWith name (some context) .awaitCancellation
  | .awaitSignal name signal =>
      let (session, signal) := session.takeSignal (some signal) none
      session.start name (.awaitStaleness signal)
  | .acquire name context signal =>
      let (session, signal) := session.takeSignal signal none
      session.startWith name context fun context => .acquisition context signal
  | .admitJob name uuid context signal delay payload =>
      let (session, signal) := session.takeSignal signal delay
      let job : Job := { uuid, signal, payload := payload.map .text }
      session.startWith name context fun context => .admission job context .arriving
  | .register name feed context =>
      session.startWith name context fun context => .registration feed context none
  | .abort name =>
      match session.tasks.lookup name with
      | some index => session.withSystem (session.system.abort index)
      | none => session
  | _ => session

/-- Makes a step that concerns a feed. -/
def callFeeds (session : Session) : Step → Session × Reply
  | .applyResource feed resource =>
      (session.withSystem (session.system.applyResource feed resource), .nothing)
  | .finishResource feed uid fails =>
      match (session.system.memoryFeed? feed).bind (·.get? uid) with
      | some resource =>
          let finished := if fails then resource.fail else resource.complete
          (session.withSystem (session.system.applyResource feed finished), .truth true)
      | none => (session, .truth false)
  | .deleteResource feed uid =>
      let (system, lastKnown) := session.system.deleteResource feed uid
      (session.withSystem system, .resource lastKnown)
  | .injectChange feed change =>
      (session.withSystem (session.system.injectChange feed change), .nothing)
  | .getResource feed uid =>
      (session, .resource ((session.system.memoryFeed? feed).bind (·.get? uid)))
  | .watch name feed context =>
      match session.contextOf context with
      | some context =>
          match session.system.watchFeed feed context with
          | (system, .ok (_, stream)) =>
              let session := session.withSystem system
              ({ session with streams := session.streams.put name stream }, .nothing)
          | (system, .error _) => (session.withSystem system, .nothing)
      | none => (session, .nothing)
  | .drain name =>
      match session.streams.lookup name with
      | some index =>
          let stream := (session.system.streams[index]?).getD {}
          let streams := session.system.streams.modify index fun stream => stream.takeAll.1
          (session.withSystem { session.system with streams },
            .items stream.items stream.hasWriter)
      | none => (session, .items [] false)
  | .dropReader name =>
      match session.streams.lookup name with
      | some index =>
          let streams := session.system.streams.modify index Stream.endReading
          ({ session with streams := session.streams.remove name }.withSystem
            { session.system with streams }, .nothing)
      | none => (session, .nothing)
  | .sendItem feed item =>
      let (system, count) := session.system.sendItem feed item
      (session.withSystem system, .count count)
  | .closeFeed feed => (session.withSystem (session.system.closeFeed feed), .nothing)
  | _ => (session, .nothing)

/-- Makes a step that concerns the first limiter or the subscribers. -/
def callLimiter (session : Session) : Step → Session × Reply
  | .tryAcquire =>
      let (system, took) := session.system.tryAcquire 0
      (session.withSystem system, .truth took)
  | .tryRelease =>
      let (system, returned) := session.system.tryRelease 0
      (session.withSystem system, .truth returned)
  | .probe =>
      let pool := session.system.pool 0
      (session, .tokens pool.available pool.inUse)
  | .openGate name => (session.withSystem (session.system.openGate name), .nothing)
  | .reconcile change => (session.withSystem (session.system.reconcile change), .nothing)
  | .publish event =>
      (session.withSystem (session.system.note (.published 0 event)), .nothing)
  | .emit events =>
      let (session, events) := session.makeEvents events
      ({ session with world := events.foldl World.emit session.world }, .nothing)
  | .shutDown => ({ session with world := session.world.wake .closer }, .nothing)
  | .describeLimiter =>
      match session.system.limiters.head? with
      | some limiter =>
          (session, .limiter limiter.describe Limiter.handlerName limiter.pool.capacity)
      | none => (session, .nothing)
  | .readMetrics =>
      match session.metricsSink with
      | some (_, space, registry) =>
          (session,
            .lines (LimiterMetrics.withoutWaits space (registry.lines session.availableIn)))
      | none => (session, .nothing)
  | .watchPool =>
      match session.metricsSink with
      | some (sink, space, registry) =>
          match LimiterMetrics.watchPool space 0 registry with
          | .ok registry =>
              let registries := session.world.registries.setIfInBounds sink registry
              ({ session with world := { session.world with registries } }, .registered none)
          | .error error => (session, .registered (some error))
      | none => (session, .nothing)
  | .releaseLimiters =>
      ({ session with world := { session.world with isHeld := false }.closeBuses }, .nothing)
  | .advance milliseconds =>
      ({ session with world := session.world.advance milliseconds }, .nothing)
  | _ => (session, .nothing)

/-- Makes a simple step. -/
def callOne (session : Session) (step : Step) : Session × Reply :=
  match step with
  | .newContext _ | .childContext _ _ | .cloneContext _ _ | .wrapToken _ _
  | .wrapChildToken _ _ | .cancel _ _ | .cancelToken _ | .dropContext _ | .newSignal _ _
  | .cloneSignal _ _ | .fire _ | .dropSignal _ => (session.callSignals step, .nothing)
  | .awaitContext _ _ | .awaitSignal _ _ | .acquire _ _ _ | .admitJob _ _ _ _ _ _
  | .register _ _ _ | .abort _ => (session.callTasks step, .nothing)
  | .applyResource _ _ | .finishResource _ _ _ | .deleteResource _ _ | .injectChange _ _
  | .getResource _ _ | .watch _ _ _ | .drain _ | .dropReader _ | .sendItem _ _
  | .closeFeed _ => session.callFeeds step
  | _ => session.callLimiter step

mutual

/-- Makes a step, without letting anybody act in between. -/
def call (session : Session) : Step → Session × Reply
  | .batch steps =>
      let (session, replies) := callAll session steps
      (session, .several replies)
  | .repeated times step =>
      let (session, replies) := (List.range times).foldl
        (fun (session, replies) _ =>
          let (session, reply) := call session step
          (session, reply :: replies)) (session, [])
      (session, .successes (Reply.countTrue replies))
  | step => session.callOne step

/-- Makes steps back to back. -/
def callAll (session : Session) : List Step → Session × List Reply
  | [] => (session, [])
  | step :: rest =>
      let (session, reply) := call session step
      let (session, replies) := callAll session rest
      (session, reply :: replies)

end

/-- Lets everybody act until nobody can. -/
def settle (session : Session) : Session :=
  { session with world := session.world.settle }

/-- Makes a step and lets everybody act. -/
def run (session : Session) (step : Step) : Session × Reply :=
  let (session, reply) := session.call step
  (session.settle, reply)

end Session

end Admission
