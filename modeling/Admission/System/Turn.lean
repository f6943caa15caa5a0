import Admission.System.Basic

/-!
# Turns

A task acts in turns. A turn takes it as far as it can go and ends when it has to wait or is
done. Any task may have a turn at any time: one that finds nothing to do changes nothing. A
task that is to be dropped gives up its place in a queue at its next turn, and ends.
-/

namespace Admission

namespace System

/-- The rule of the last handler for a job. -/
def ruleFor (system : System) (uuid : String) : Rule :=
  ((system.rules.lookup uuid).or (system.rules.lookup "*")).getD {}

/-- What a handler of a job can see. -/
def surroundings (system : System) (context : Context) : Surroundings :=
  { now := system.now, isOpen := system.isOpen, isCancelled := system.isCancelled context }

/-- The name of the feed in which handlers start jobs. -/
def clusterFeed : String := "cluster"

/-- A job leaves the last handler with a result. -/
def concludeJob (system : System) (index : Nat) (job : Job) (result : Except HandlerError Unit) :
    System :=
  let (limiters, notices) := Chain.conclude 0 job.uuid result system.limiters
  ({ system with limiters }.noteAll notices).finish index (.handled result)

/-- The last handler goes on with a job as far as its holds allow. -/
def handleInside (system : System) (index : Nat) (job : Job) (context : Context)
    (holds : List Hold) : System :=
  let left := Hold.pass (system.surroundings context) holds
  if left.isEmpty then
    match (system.ruleFor job.uuid).verdict (system.isCancelled context) with
    | .panics text => system.finish index (.panicked text)
    | .fails error => system.concludeJob index job (.error error)
    | .succeeds starts =>
        let system :=
          if starts then system.applyResource clusterFeed (.running job.uuid job.uuid)
          else system
        system.concludeJob index job (.ok ())
  else
    system.setTask index (.admission job context (.inside left))

/-- A job that waits for the limiter at some place has a turn. -/
def admitJob (system : System) (index : Nat) (job : Job) (context : Context)
    (place since : Nat) : System :=
  let visit : Visit :=
    { task := index, uuid := job.uuid, cause := system.cancellation.cause context
      isStale := system.isFired job.signal, waited := .ofMilliseconds (system.now - since) }
  let (limiters, passage, notices) := Chain.advance 0 place visit system.limiters
  let system := { system with limiters }.noteAll notices
  match passage with
  | .waiting reached =>
      let since := if reached = place then since else system.now
      system.setTask index (.admission job context (.waiting reached since))
  | .stopped error => system.finish index (.handled (.error error))
  | .through =>
      let arrival : Arrival :=
        { job, isCanceled := system.isCancelled context, isStale := system.isFired job.signal }
      (system.note (.forwarded arrival)).handleInside index job context
        (system.ruleFor job.uuid).holds

/-- The caller of a registration looks whether it is over. -/
def settleRegistration (system : System) (index : Nat) (context : Context) (watchIndex : Nat)
    (deadline : Option Nat) : System :=
  match system.watches[watchIndex]? with
  | none => system
  | some watch =>
      let limit := (system.limiters.head?.bind (·.syncTimeout))
      let isOver := (deadline.map fun deadline => decide (deadline ≤ system.now)).getD false
      match Registration.verdict watch (system.cancellation.cause context) limit isOver with
      | none => system
      | some (.ok _) =>
          (system.note (Registration.syncedNotice watch.feed (system.pool 0).available)).finish
            index (.registered (.ok ()))
      | some (.error error) =>
          ((system.cancel watch.context none).note
            (Registration.failedNotice watch.feed error)).finish
            index (.registered (.error error))

/-- The caller of a registration starts the watch and its listener. -/
def startRegistration (system : System) (index : Nat) (feed : String) (context : Context) :
    System :=
  let (cancellation, watchContext) := system.cancellation.child context
  match { system with cancellation }.watchFeed feed watchContext with
  | (system, .error error) =>
      (system.dropContext watchContext).finish index (.registered (.error error))
  | (system, .ok (name, stream)) =>
      let watchIndex := system.watches.size
      let limit := (system.limiters.head?.bind (·.syncTimeout))
      let deadline := limit.map fun limit => system.now + limit.ticks
      let system :=
        { system with watches := system.watches.push ⟨name, watchContext, stream, false, false⟩ }
      let system := (system.holdContext watchContext).setTask index
        (.registration feed context (some (watchIndex, deadline)))
      let (system, _) := system.spawn (.listening watchIndex)
      system.settleRegistration index context watchIndex deadline

def endListening (system : System) (index watchIndex : Nat) (watch : Watch) : System :=
  let system := system.note (Watch.endedNotice watch.feed)
  let system :=
    { system with
      watches := system.watches.modify watchIndex fun watch => { watch with hasEnded := true }
      streams := system.streams.modify watch.stream Stream.endReading }
  (system.note (.told (.barrier watchIndex))).finish index .ended

/-- The listener of a watch applies what it finds in the stream, as much as one turn allows. -/
def listen (system : System) (index watchIndex : Nat) : System :=
  match system.watches[watchIndex]? with
  | none => system
  | some watch =>
      if system.isCancelled watch.context then system.endListening index watchIndex watch
      else
        let stream := (system.streams[watch.stream]?).getD {}
        let (pool, isSynced, notices) :=
          Watch.takeAll 0 watchIndex watch.feed (system.pool 0) watch.isSynced
            (stream.take turnLimit).2
        let system :=
          { system.setPool 0 pool with
            streams := system.streams.modify watch.stream fun stream => (stream.take turnLimit).1
            watches := system.watches.modify watchIndex fun watch => { watch with isSynced } }
        let system := system.noteAll notices
        if turnLimit ≤ stream.items.length then system.note (.yielded index)
        else if stream.hasWriter then system
        else system.endListening index watchIndex watch

/-- A waiter at the first limiter has a turn. -/
def acquire (system : System) (index : Nat) (context : Context) (signal : Nat) : System :=
  let (wait, pool, woken) :=
    (system.pool 0).turn index (system.isCancelled context) (system.isFired signal)
  let system := (system.setPool 0 pool).noteAll (Notice.wokenOf woken)
  match wait with
  | .pending => system
  | .acquired => system.finish index .acquired
  | .canceled => system.finish index .canceled
  | .stale => system.finish index .stale

def runTimer (system : System) (index signal delay : Nat) (deadline : Option Nat) : System :=
  let deadline := deadline.getD (system.now + delay)
  let isForsaken := (system.signals[signal]?.map (·.isForsaken)).getD true
  if system.isFired signal || isForsaken then system.finish index .ended
  else if deadline ≤ system.now then (system.fire signal).finish index .ended
  else system.setTask index (.timer signal delay (some deadline))

def dropTask (system : System) (index : Nat) : Task → System
  | .acquisition _ _ =>
      let (pool, woken) := (system.pool 0).withdraw index
      ((system.setPool 0 pool).noteAll (Notice.wokenOf woken)).finish index .aborted
  | .admission _ _ (.waiting place _) =>
      let (limiters, notices) := Chain.withdraw index place system.limiters
      ({ system with limiters }.noteAll notices).finish index .aborted
  | _ => system.finish index .aborted

def turn (system : System) (index : Nat) : System :=
  match system.tasks[index]? with
  | none => system
  | some state =>
      if state.outcome.isSome then system
      else if state.isAborted then system.dropTask index state.task
      else
        match state.task with
        | .timer signal delay deadline => system.runTimer index signal delay deadline
        | .awaitCancellation context =>
            if system.isCancelled context then
              system.finish index (.cause (system.cancellation.cause context))
            else system
        | .awaitStaleness signal =>
            if system.isFired signal then system.finish index (.staleness true) else system
        | .acquisition context signal => system.acquire index context signal
        | .admission job context .arriving => system.admitJob index job context 0 system.now
        | .admission job context (.waiting place since) =>
            system.admitJob index job context place since
        | .admission job context (.inside holds) => system.handleInside index job context holds
        | .registration feed context none => system.startRegistration index feed context
        | .registration _ context (some (watch, deadline)) =>
            system.settleRegistration index context watch deadline
        | .listening watch => system.listen index watch

/-- What a task waits for after a turn. -/
def awaits (system : System) (index : Nat) : List Source :=
  match system.tasks[index]? with
  | none => []
  | some state =>
      if state.outcome.isSome then []
      else
        match state.task with
        | .timer signal _ deadline =>
            (deadline.toList.map .clock) ++ [.fired signal, .forsaken signal]
        | .awaitCancellation context => [.cancelled context.token]
        | .awaitStaleness signal => [.fired signal]
        | .acquisition context signal => [.cancelled context.token, .fired signal]
        | .admission _ _ .arriving => []
        | .admission job context (.waiting _ _) =>
            [.cancelled context.token, .fired job.signal]
        | .admission _ context (.inside holds) =>
            match holds.head? with
            | some (.gate name) => [.gate name]
            | some (.till tick) => [.clock tick]
            | some .cancellation => [.cancelled context.token]
            | _ => []
        | .registration _ _ none => []
        | .registration _ context (some (watch, deadline)) =>
            [.cancelled context.token, .barrier watch] ++ deadline.toList.map .clock
        | .listening watch =>
            match system.watches[watch]? with
            | some watch => [.cancelled watch.context.token, .stream watch.stream]
            | none => []

/-! ### Calls from outside -/

/-- Claims a token of the limiter at some place, if one is available. -/
def tryAcquire (system : System) (place : Nat) : System × Bool :=
  let (took, pool) := (system.pool place).tryAcquire
  (system.setPool place pool, took)

/-- Gives back a token of the limiter at some place, if one is claimed. -/
def tryRelease (system : System) (place : Nat) : System × Bool :=
  let (returned, pool, woken) := (system.pool place).tryRelease
  ((system.setPool place pool).noteAll (Notice.wokenOf woken), returned)

/-- Applies a change to the first limiter directly. -/
def reconcile (system : System) (change : ResourceEvent) : System :=
  let (pool, notices) := Reconciler.apply 0 (system.pool 0) change
  (system.setPool 0 pool).noteAll notices

/-- Has a task dropped at its next turn. -/
def abort (system : System) (index : Nat) : System :=
  match system.tasks[index]? with
  | none => system
  | some state =>
      if state.outcome.isSome then system
      else
        { system with
          tasks := system.tasks.modify index fun state => { state with isAborted := true } }.note
          (.woken index)

def openGate (system : System) (gate : String) : System :=
  if system.isOpen gate then system
  else { system with gates := gate :: system.gates }.note (.told (.gate gate))

end System

end Admission
