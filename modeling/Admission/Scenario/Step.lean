import Admission.Feed.Item
import Admission.Job
import Admission.Metrics.Registry

/-!
# Steps of a script

A script drives a system from outside. Contexts, signals, tasks and readers have names in the
script; taking a name again replaces what had it. A batch makes its steps back to back, before
anybody else acts.
-/

namespace Admission

/-- One step of a script. -/
inductive Step where
  | newContext (name : String)
  | childContext (name parent : String)
  | cloneContext (name other : String)
  | wrapToken (name other : String)
  /-- A context of its own around a token under that of another. -/
  | wrapChildToken (name other : String)
  | cancel (name : String) (cause : Option String)
  | cancelToken (name : String)
  | dropContext (name : String)
  /-- A signal, fired after some milliseconds if so many are given. -/
  | newSignal (name : String) (delay : Option Nat)
  | cloneSignal (name other : String)
  | fire (name : String)
  | dropSignal (name : String)
  | awaitContext (name context : String)
  /-- Starts a task that waits for a signal. -/
  | awaitSignal (name signal : String)
  | tryAcquire
  /-- Gives back a token of the first limiter if one is claimed. -/
  | tryRelease
  /-- Starts a task that waits for a token. -/
  | acquire (name : String) (context signal : Option String)
  /-- Looks at the tokens available and claimed. -/
  | probe
  | abort (name : String)
  /-- Starts a task that handles a job. -/
  | admitJob (name uuid : String) (context signal : Option String) (delay : Option Nat)
      (payload : Option String)
  | openGate (name : String)
  | register (name feed : String) (context : Option String)
  | applyResource (feed : String) (resource : JobResource)
  | finishResource (feed uid : String) (fails : Bool)
  | deleteResource (feed uid : String)
  | injectChange (feed : String) (change : ResourceEvent)
  | getResource (feed uid : String)
  | watch (name feed : String) (context : Option String)
  | drain (name : String)
  | dropReader (name : String)
  | sendItem (feed : String) (item : FeedItem)
  /-- Ends the watches of a scripted feed. -/
  | closeFeed (feed : String)
  /-- Applies a change to the first limiter directly. -/
  | reconcile (change : ResourceEvent)
  | publish (event : Event)
  /-- Offers events to the sinks; all of them are made before the first is offered. -/
  | emit (events : List Event)
  | shutDown
  | describeLimiter
  | readMetrics
  /-- Registers the gauge of the first pool. -/
  | watchPool
  /-- Gives up the limiters. -/
  | releaseLimiters
  /-- Lets some milliseconds pass. -/
  | advance (milliseconds : Nat)
  | batch (steps : List Step)
  | repeated (times : Nat) (step : Step)
deriving Inhabited

/-- What a step answers. -/
inductive Reply where
  | nothing
  | truth (value : Bool)
  | count (value : Nat)
  /-- How many times a repeated step was answered with yes. -/
  | successes (count : Nat)
  | tokens (available inUse : Nat)
  | resource (resource : Option JobResource)
  /-- What a watch had, and whether more may come. -/
  | items (items : List FeedItem) (isOpen : Bool)
  | limiter (parts name : String) (capacity : Nat)
  | lines (lines : List String)
  | registered (error : Option MetricsError)
  | several (replies : List Reply)

/-- How many answers of a list are yes. -/
def Reply.countTrue (replies : List Reply) : Nat :=
  replies.countP fun
    | .truth value => value
    | _ => false

end Admission
