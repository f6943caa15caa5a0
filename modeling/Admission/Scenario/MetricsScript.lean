import Admission.Metrics.Limiter
import Admission.Pool

/-!
# Scripts for metrics

A script sets up metrics under names, in registries of their own or shared, hands them events,
and lets their registries read pools.
-/

namespace Admission

/-- A step of a script for metrics. -/
inductive MetricsStep where
  /-- New metrics: in a namespace, in a registry of their own or that of other metrics, or with
  all defaults if no namespace is given. -/
  | create (name : String) (space share : Option String)
  | record (name : String) (events : List Event)
  | pool (name : String) (capacity : Nat)
  | watchPool (name pool : String)
  | tryAcquire (pool : String)
  /-- Gives back a token if one is claimed. -/
  | tryRelease (pool : String)
  | read (name : String)
  | subscriber (name : String)

/-- What a step answers. -/
inductive MetricsReply where
  | nothing
  | truth (value : Bool)
  | created (parts : String)
  | done
  | failed (error : MetricsError)
  | lines (lines : List String)
  | subscriber (name : String) (queueCapacity : Nat)

/-- Metrics and pools with their names. -/
structure MetricsScript where
  registries : Array Registry := #[]
  /-- For each name, the registry and the namespace of its metrics. -/
  metrics : List (String × Nat × String) := []
  /-- All pools ever set up. -/
  pools : Array Pool := #[]
  poolNames : List (String × Nat) := []

namespace MetricsScript

def available (script : MetricsScript) (pool : Nat) : Nat :=
  (script.pools[pool]?.map (·.available)).getD 0

/-- Adds a pool under a name. A pool that had the name stays what it is for the gauges that
read it. -/
def addPool (script : MetricsScript) (name : String) (pool : Pool) : MetricsScript :=
  { script with
    pools := script.pools.push pool
    poolNames :=
      (name, script.pools.size) :: script.poolNames.filter fun entry => entry.1 != name }

/-- Does something with a named pool, given its index and its state. -/
def withPool (script : MetricsScript) (name : String)
    (act : Nat → Pool → MetricsScript × MetricsReply) : MetricsScript × MetricsReply :=
  match script.poolNames.lookup name with
  | some index => act index ((script.pools[index]?).getD (.full 0))
  | none => (script, .nothing)

/-- Changes the state of a pool. -/
def setPool (script : MetricsScript) (index : Nat) (pool : Pool) : MetricsScript :=
  { script with pools := script.pools.setIfInBounds index pool }

/-- The registry in which new metrics are set up, and its index. -/
def registryFor (script : MetricsScript) (share : Option String) : Nat × Registry :=
  match share.bind fun share => script.metrics.lookup share with
  | some (index, _) => (index, (script.registries[index]?).getD {})
  | none => (script.registries.size, {})

/-- Puts a registry at an index, at the end if it is new. -/
def setRegistry (script : MetricsScript) (index : Nat) (registry : Registry) : MetricsScript :=
  { script with
    registries :=
      if index < script.registries.size then script.registries.setIfInBounds index registry
      else script.registries.push registry }

/-- Sets up metrics. Those without a namespace have the default one and always a registry of their
own. -/
def create (script : MetricsScript) (name : String) (space share : Option String) :
    MetricsScript × MetricsReply :=
  let (index, registry) := script.registryFor (space.bind fun _ => share)
  let space := space.getD LimiterMetrics.defaultNamespace
  let (registry, error) := LimiterMetrics.enroll space registry
  let script := script.setRegistry index registry
  match error with
  | some error => (script, .failed error)
  | none =>
      let metrics := (name, index, space) :: script.metrics.filter fun entry => entry.1 != name
      ({ script with metrics }, .created (LimiterMetrics.describe space))

/-- Does something with named metrics, given the index of their registry, the registry and the
namespace. -/
def withMetrics (script : MetricsScript) (name : String)
    (act : Nat → Registry → String → MetricsScript × MetricsReply) :
    MetricsScript × MetricsReply :=
  match script.metrics.lookup name with
  | some (index, space) => act index ((script.registries[index]?).getD {}) space
  | none => (script, .nothing)

/-- Makes a step other than that of setting up a pool. -/
def callOne (script : MetricsScript) : MetricsStep → MetricsScript × MetricsReply
  | .create name space share => script.create name space share
  | .record name events =>
      script.withMetrics name fun index registry space =>
        (script.setRegistry index (events.foldl (LimiterMetrics.record space) registry),
          .nothing)
  | .pool _ _ => (script, .nothing)
  | .watchPool name pool =>
      script.withMetrics name fun index registry space =>
        script.withPool pool fun poolIndex _ =>
          match LimiterMetrics.watchPool space poolIndex registry with
          | .ok registry => (script.setRegistry index registry, .done)
          | .error error => (script, .failed error)
  | .tryAcquire pool =>
      script.withPool pool fun index state =>
        let (took, state) := state.tryAcquire
        (script.setPool index state, .truth took)
  | .tryRelease pool =>
      script.withPool pool fun index state =>
        let (returned, state, _) := state.tryRelease
        (script.setPool index state, .truth returned)
  | .read name =>
      script.withMetrics name fun _ registry _ =>
        (script, .lines (registry.lines script.available))
  | .subscriber name =>
      script.withMetrics name fun _ _ _ => (script, .subscriber LimiterMetrics.name 1024)

/-- Makes a step; a pool that cannot be set up ends the script. -/
def call (script : MetricsScript) : MetricsStep → Except SetupError (MetricsScript × MetricsReply)
  | .pool name capacity =>
      (Pool.create capacity).map fun pool => (script.addPool name pool, .nothing)
  | step => .ok (script.callOne step)

/-- Makes steps one after the other. -/
def run (script : MetricsScript) : List MetricsStep → Except SetupError (List MetricsReply)
  | [] => .ok []
  | step :: rest => do
      let (script, reply) ← script.call step
      let replies ← script.run rest
      return reply :: replies

end MetricsScript

end Admission
