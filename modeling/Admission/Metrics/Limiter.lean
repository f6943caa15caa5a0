import Admission.Event
import Admission.Metrics.Registry
import Admission.Text.Fields
import Admission.Text.Quoted

/-!
# Limiter metrics

One subscriber measures a limiter by its events: a gauge of the configured limit, a histogram of
the waits for a token, and counters for what the feeds told, for waits given up and for failures
behind the limiter. Each set of metrics has a namespace, which begins the names of its families.
-/

namespace Admission

namespace LimiterMetrics

def name : String := "metrics"

/-- The namespace used where none is given. -/
def defaultNamespace : String := "inflight"

def fullName (space family : String) : String :=
  (if space = "" then "" else space ++ "_") ++ "limiter_" ++ family

def maxInFlight : String := "max_in_flight"

/-- How long jobs waited for a token. -/
def tokenWait : String := "token_wait_duration_seconds"

def added : String := "onadd_events_total"

def updated : String := "onupdate_events_total"

def deleted : String := "ondelete_events_total"

def staleJobs : String := "stale_jobs_total"

def canceledWaits : String := "canceled_waits_total"

/-- Failures behind the limiter. -/
def handlerErrors : String := "handler_errors_total"

def tokensAvailable : String := "tokens_available"

/-- The families of a set of metrics, in the order in which they are registered. -/
def families (space : String) : List Family :=
  let counter (family help : String) : Family :=
    ⟨fullName space family, help, .counter 0⟩
  [⟨fullName space maxInFlight, "Configured limit on number of jobs simultaneously in flight",
      .gauge 0⟩,
   ⟨fullName space tokenWait, "Time spent waiting for a limiter token to become available",
      .histogram (.ofBounds (Histogram.exponentialBounds 4 10 0.001))⟩,
   counter added "Count of resource-added notifications handled by the limiter",
   counter updated "Count of resource-updated notifications handled by the limiter",
   counter deleted "Count of resource-deleted notifications handled by the limiter",
   counter staleJobs "Count of jobs that went stale while waiting for a token",
   counter canceledWaits "Count of token waits abandoned because the context was cancelled",
   counter handlerErrors "Count of jobs whose token was returned after the next handler failed"]

def poolFamily (space : String) (pool : Nat) : Family :=
  ⟨fullName space tokensAvailable, "Limiter tokens currently available", .poolGauge pool⟩

def enroll (space : String) (registry : Registry) : Registry × Option MetricsError :=
  registry.registerAll (families space)

def watchPool (space : String) (pool : Nat) (registry : Registry) : Except MetricsError Registry :=
  registry.register (poolFamily space pool)

/-- A duration in seconds, as a number of double precision. -/
def secondsOf (duration : Duration) : Float :=
  duration.seconds.toUInt64.toFloat + duration.remainder.toUInt64.toFloat / 1000000000

def increment : Instrument → Instrument
  | .counter count => .counter (count + 1)
  | other => other

/-- Sets a gauge, as far as it goes. -/
def setGauge (value : Nat) : Instrument → Instrument
  | .gauge _ => .gauge (min value Registry.maxGauge)
  | other => other

def observe (value : Float) : Instrument → Instrument
  | .histogram observations => .histogram (observations.observe value)
  | other => other

def counterOf (event : Event) : Option String :=
  match event.kind with
  | .tokenReturned => some handlerErrors
  | .jobStale => some staleJobs
  | .waitCanceled => some canceledWaits
  | .resourceAdded => some added
  | .resourceUpdated => some updated
  | .resourceDeleted => some deleted
  | .resourceIgnored =>
      event.notification.map fun
        | .add => added
        | .update => updated
        | .delete => deleted
  | _ => none

/-- Takes an event into account. -/
def record (space : String) (registry : Registry) (event : Event) : Registry :=
  match event.kind with
  | .capacityConfigured =>
      match event.capacity with
      | some capacity => registry.adjust (fullName space maxInFlight) (setGauge capacity)
      | none => registry
  | .tokenAcquired =>
      match event.wait with
      | some wait => registry.adjust (fullName space tokenWait) (observe (secondsOf wait))
      | none => registry
  | _ =>
      match counterOf event with
      | some family => registry.adjust (fullName space family) increment
      | none => registry

/-- A set of metrics with what it shows of itself. -/
def describe (space : String) : String :=
  Text.openRecord "Metrics" [("namespace", Text.quoted space)]

/-- The lines of a registry without the buckets and the sum of the waits of a namespace. -/
def withoutWaits (space : String) (lines : List String) : List String :=
  let wait := fullName space tokenWait
  lines.filter fun line =>
    !((wait ++ "_bucket").isPrefixOf line) && !((wait ++ "_sum").isPrefixOf line)

end LimiterMetrics

end Admission
