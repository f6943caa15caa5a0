import Admission.Feed.Memory
import Admission.Feed.Scripted
import Admission.Feed.Stream
import Admission.Handler
import Admission.Registration
import Admission.Staleness

/-!
# The state of a system

A system is a chain of limiters with everything that acts on it: contexts and stale signals,
feeds and their streams, the gates that hold handlers up, a clock that counts milliseconds, and
the tasks, each at some point of what it does. Observers of the system are not part of it: what
they are told is the history of the system, and nothing that they do comes back.

The operations of this file change the state and note what they did.
-/

namespace Admission

/-- How far the handling of a job has come. -/
inductive Stage where
  /-- It has not had a turn yet. -/
  | arriving
  /-- It waits for a token of the limiter at some place, since some tick. -/
  | waiting (place since : Nat)
  /-- It is with the last handler, which has these holds left. -/
  | inside (holds : List Hold)
deriving DecidableEq, Repr

inductive Task where
  /-- Fires a stale signal after a delay; the deadline is set at the first turn. -/
  | timer (signal delay : Nat) (deadline : Option Nat)
  | awaitCancellation (context : Context)
  /-- Waits until a stale signal fires. -/
  | awaitStaleness (signal : Nat)
  /-- Waits for a token of the first limiter. -/
  | acquisition (context : Context) (signal : Nat)
  | admission (job : Job) (context : Context) (stage : Stage)
  /-- Registers a feed; the watch and its deadline are set at the first turn. -/
  | registration (feed : String) (context : Context) (watch : Option (Nat × Option Nat))
  /-- Applies the items of a watch. -/
  | listening (watch : Nat)
deriving DecidableEq, Repr

/-- A task and what became of it. -/
structure TaskState where
  task : Task
  /-- Whether it is to be dropped at its next turn. -/
  isAborted : Bool := false
  outcome : Option Outcome := none

/-- A feed of either kind. -/
inductive Feed where
  | memory (feed : MemoryFeed)
  | scripted (feed : ScriptedFeed)
deriving Repr

/-- Everything that admission depends on. -/
structure System where
  /-- The tick of the clock. -/
  now : Nat := 0
  cancellation : Cancellation := .empty
  signals : Array StaleSignal := #[]
  /-- The limiters, from the first one that a job meets to the last. -/
  limiters : List Limiter := []
  feeds : List (String × Feed) := []
  streams : Array Stream := #[]
  watches : Array Watch := #[]
  gates : List String := []
  /-- The rules of the last handler; the name of a star stands for any other job. -/
  rules : List (String × Rule) := []
  /-- All tasks ever started. -/
  tasks : Array TaskState := #[]
  eventsMade : Nat := 0
  history : Array Notice := #[]

namespace System

/-- Notes that something happened; an event gets its number here. -/
def note (system : System) (notice : Notice) : System :=
  match notice with
  | .published place event =>
      let sequence := system.eventsMade + 1
      { system with
        eventsMade := sequence
        history := system.history.push (.published place (event.numbered sequence)) }
  | other => { system with history := system.history.push other }

/-- Notes several things in order. -/
def noteAll (system : System) (notices : List Notice) : System :=
  notices.foldl note system

def isCancelled (system : System) (context : Context) : Bool :=
  system.cancellation.isCancelled context

def isFired (system : System) (signal : Nat) : Bool :=
  (system.signals[signal]?.map (·.fired)).getD false

def isOpen (system : System) (gate : String) : Bool :=
  system.gates.contains gate

def pool (system : System) (place : Nat) : Pool :=
  (system.limiters[place]?.map (·.pool)).getD (.full 0)

/-- Replaces the pool of the limiter at some place. -/
def setPool (system : System) (place : Nat) (pool : Pool) : System :=
  { system with limiters := Chain.setPool pool place system.limiters }

/-! ### Contexts and signals -/

def tellCancelled (system : System) (tokens : List Nat) : System :=
  system.noteAll (tokens.map fun token => .told (.cancelled token))

def cancel (system : System) (context : Context) (cause : Option String) : System :=
  let (cancellation, tokens) := system.cancellation.cancel context cause
  { system with cancellation }.tellCancelled tokens

/-- Cancels the token of a context without a cause. -/
def cancelToken (system : System) (context : Context) : System :=
  let (cancellation, tokens) := system.cancellation.cancelToken context.token
  { system with cancellation }.tellCancelled tokens

/-- Takes a further handle on a context. -/
def holdContext (system : System) (context : Context) : System :=
  { system with cancellation := system.cancellation.clone context }

/-- Gives up a handle on a context. -/
def dropContext (system : System) (context : Context) : System :=
  { system with cancellation := system.cancellation.drop context }

def fire (system : System) (signal : Nat) : System :=
  if system.isFired signal then system
  else
    { system with signals := system.signals.modify signal StaleSignal.fire }.note
      (.told (.fired signal))

/-- Takes a further clone of a signal. -/
def holdSignal (system : System) (signal : Nat) : System :=
  { system with signals := system.signals.modify signal StaleSignal.clone }

/-- Gives up a clone of a signal. -/
def dropSignal (system : System) (signal : Nat) : System :=
  let system := { system with signals := system.signals.modify signal StaleSignal.drop }
  match system.signals[signal]? with
  | some state =>
      if state.timed && state.isForsaken then system.note (.told (.forsaken signal)) else system
  | none => system

/-! ### Tasks -/

def spawn (system : System) (task : Task) : System × Nat :=
  let index := system.tasks.size
  ({ system with tasks := system.tasks.push { task } }.note (.spawned index), index)

def task? (system : System) (index : Nat) : Option Task :=
  system.tasks[index]?.map (·.task)

def setTask (system : System) (index : Nat) (task : Task) : System :=
  { system with tasks := system.tasks.modify index fun state => { state with task } }

def newSignal (system : System) : System × Nat :=
  ({ system with signals := system.signals.push {} }, system.signals.size)

/-- A new signal with one clone and a timer. -/
def newTimedSignal (system : System) (delay : Nat) : System × Nat :=
  let signal := system.signals.size
  let system := { system with signals := system.signals.push { timed := true } }
  ((system.spawn (.timer signal delay none)).1, signal)

/-- Gives up whatever a task held. -/
def releaseHoldings (system : System) : Task → System
  | .timer _ _ _ => system
  | .awaitCancellation context => system.dropContext context
  | .awaitStaleness signal => system.dropSignal signal
  | .acquisition context signal => (system.dropSignal signal).dropContext context
  | .admission job context _ => (system.dropSignal job.signal).dropContext context
  | .registration _ context watch =>
      let system :=
        match watch.bind fun watch => system.watches[watch.1]? with
        | some watch => system.dropContext watch.context
        | none => system
      system.dropContext context
  | .listening watch =>
      match system.watches[watch]? with
      | some watch => system.dropContext watch.context
      | none => system

def finish (system : System) (index : Nat) (outcome : Outcome) : System :=
  match system.tasks[index]? with
  | none => system
  | some state =>
      ({ system with
          tasks := system.tasks.modify index fun state =>
            { state with outcome := some outcome } }.note
        (.finished index outcome)).releaseHoldings state.task

/-! ### Streams and feeds -/

def newStream (system : System) (stream : Stream) : System × Nat :=
  ({ system with streams := system.streams.push stream }, system.streams.size)

def tellStream (system : System) (stream : Nat) (change : Stream → Stream) : System :=
  { system with streams := system.streams.modify stream change }.note (.told (.stream stream))

/-- Whether a watcher is still to be told of changes. -/
def isLive (system : System) (watcher : Watcher) : Bool :=
  !system.isCancelled watcher.context &&
    (system.streams[watcher.stream]?.map (·.hasReader)).getD false

def setFeed (system : System) (name : String) (feed : Feed) : System :=
  { system with
    feeds := system.feeds.map fun entry => if entry.1 = name then (name, feed) else entry }

/-- Passes a change on to those who are told, and lets go of those who are given up. -/
def deliver (system : System) (broadcast : Broadcast) : System :=
  let system := broadcast.givenUp.foldl
    (fun system watcher =>
      (system.tellStream watcher.stream Stream.endWriting).dropContext watcher.context) system
  broadcast.told.foldl
    (fun system entry => system.tellStream entry.1.stream (·.write (.event entry.2))) system

def memoryFeed? (system : System) (name : String) : Option MemoryFeed :=
  match system.feeds.lookup name with
  | some (.memory feed) => some feed
  | _ => none

/-- Puts a resource into a feed in memory. -/
def applyResource (system : System) (name : String) (resource : JobResource) : System :=
  match system.memoryFeed? name with
  | some feed =>
      let (feed, broadcast) := feed.apply system.isLive resource
      (system.setFeed name (.memory feed)).deliver broadcast
  | none => system

/-- Takes a resource out of a feed in memory. -/
def deleteResource (system : System) (name uid : String) : System × Option JobResource :=
  match system.memoryFeed? name with
  | some feed =>
      let (feed, broadcast, lastKnown) := feed.delete system.isLive uid
      ((system.setFeed name (.memory feed)).deliver broadcast, lastKnown)
  | none => (system, none)

/-- Tells the watchers of a feed in memory a change that the feed did not make. -/
def injectChange (system : System) (name : String) (change : ResourceEvent) : System :=
  match system.memoryFeed? name with
  | some feed =>
      let (feed, broadcast) := feed.inject system.isLive change
      (system.setFeed name (.memory feed)).deliver broadcast
  | none => system

/-- Starts a watch: the name of the feed and the stream of the watch, or why it failed. -/
def watchFeed (system : System) (name : String) (context : Context) :
    System × Except SyncError (String × Nat) :=
  match system.feeds.lookup name with
  | none => (system, .error (.watch name "no such feed"))
  | some (.memory feed) =>
      let (system, stream) := system.newStream { items := feed.replay }
      let system := (system.holdContext context).setFeed name
        (.memory (feed.addWatcher ⟨context, stream⟩))
      (system, .ok (MemoryFeed.name, stream))
  | some (.scripted feed) =>
      match feed.failure with
      | some error => (system, .error error)
      | none =>
          let (system, stream) :=
            system.newStream { items := feed.items, hasWriter := !feed.closes }
          let streams := if feed.closes then feed.streams else feed.streams ++ [stream]
          (system.setFeed name (.scripted { feed with streams }), .ok (feed.name, stream))

/-- Sends an item to every open stream of a scripted feed; how many had a reader. -/
def sendItem (system : System) (name : String) (item : FeedItem) : System × Nat :=
  match system.feeds.lookup name with
  | some (.scripted feed) =>
      let read := feed.streams.filter fun stream =>
        (system.streams[stream]?.map (·.hasReader)).getD false
      (read.foldl (fun system stream => system.tellStream stream (·.write item)) system,
        read.length)
  | _ => (system, 0)

/-- Ends all open streams of a scripted feed. -/
def closeFeed (system : System) (name : String) : System :=
  match system.feeds.lookup name with
  | some (.scripted feed) =>
      feed.streams.foldl (fun system stream => system.tellStream stream Stream.endWriting)
        (system.setFeed name (.scripted { feed with streams := [] }))
  | _ => system

end System

end Admission
