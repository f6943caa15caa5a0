import Admission.Scenario.Session

/-!
# Setting a session up

A session begins with a part of a system, or with all of it: nothing but contexts and signals, a
pool, a feed in memory, the sinks of some subscribers, or a limiter in front of the last
handler, with another limiter between them if one is configured.
-/

namespace Admission

namespace Session

/-- Adds the context that steps use which name none. -/
def withRoot (session : Session) : Session :=
  session.makeContext rootName Cancellation.create

/-- A session about contexts and signals. -/
def bare : Session := {}

def ofPool (capacity : Nat) : Except SetupError Session := do
  let pool ← Pool.create capacity
  return withRoot { world := { system := { limiters := [{ pool, next := "" }] } } }

/-- A session about a feed in memory. -/
def ofFeed (resources : List JobResource) : Session :=
  withRoot
    { world :=
        { system :=
            { feeds := [(feedName, .memory (.ofResources resources))] } } }

/-- The sinks of some subscribers, with their workers about to begin. -/
def withSinks (session : Session) (subscribers : List (Subscriber × Role)) : Session :=
  let world :=
    { session.world with
      sinks := subscribers.map fun entry => { subscriber := entry.1 }
      roles := (subscribers.map (·.2)).toArray }
  let workers := List.range subscribers.length
  { session with world := workers.foldl (fun world index => world.wake (.worker index)) world }

/-- A session about the sinks of some subscribers. -/
def ofSubscribers (subscribers : List (Subscriber × Role)) : Session :=
  withSinks {} subscribers

def build (config : Config) (next : String) : Except SetupError (Limiter × Bus) := do
  match config.validate with
  | .error error => throw (.config error)
  | .ok () =>
      let pool ← Pool.create config.maxInFlight
      let bus ← Bus.create config.busCapacityClamped
      return ({ pool, next, syncTimeout := config.syncDeadline }, bus)

/-- The event that tells that a limiter was set up. -/
def configuredEvent (limiter : Limiter) : Event :=
  { kind := .capacityConfigured, capacity := some limiter.pool.capacity
    available := some limiter.pool.available }

/-- What a session about a limiter begins with. -/
structure Plan where
  config : Config
  /-- The configuration of a second limiter behind it. -/
  inner : Option Config := none
  subscribers : List (Subscriber × Role) := []
  handler : String := "next"
  rules : List (String × Rule) := []
  feeds : List (String × Feed) := []

/-- The registry with which a subscriber begins. -/
def registryOf : Role → Registry
  | .measuring space => (LimiterMetrics.enroll space {}).1
  | _ => {}

/-- Starts the sinks, and publishes for each limiter that it was set up, the innermost first. -/
def begin (session : Session) (subscribers : List (Subscriber × Role)) : Session :=
  let limiters := session.system.limiters
  let session :=
    (limiters.zipIdx.drop 1).reverse.foldl
      (fun session entry =>
        session.withSystem (session.system.note (.published entry.2 (configuredEvent entry.1))))
      session
  let session :=
    if subscribers.isEmpty then session
    else
      let session := session.withSinks subscribers
      { session with world := session.world.wake .listener }
  let session :=
    match limiters.head? with
    | some limiter =>
        session.withSystem (session.system.note (.published 0 (configuredEvent limiter)))
    | none => session
  { session with taps := session.world.buses.map Bus.subscribe }

def ofPlan (plan : Plan) : Except SetupError Session := do
  let inner ← plan.inner.mapM fun config => build config plan.handler
  let next := if inner.isSome then Limiter.handlerName else plan.handler
  let outer ← build plan.config next
  let built := outer :: inner.toList
  let system : System :=
    { limiters := built.map (·.1), rules := plan.rules, feeds := plan.feeds }
  let world : World :=
    { system, buses := (built.map (·.2)).toArray
      registries := (plan.subscribers.map fun entry => registryOf entry.2).toArray }
  return (begin { world } plan.subscribers).withRoot

end Session

end Admission
