import Admission.Duration
import Admission.Text.Fields

/-!
# Limiter configuration

How many jobs may be in flight, how many events the bus keeps, and how long a feed may take to
sync. Only the first can be wrong: a limiter that admits nothing is refused.
-/

namespace Admission

/-- What is wrong with a configuration. -/
inductive ConfigError where
  /-- No job could ever be admitted. -/
  | maxInFlight (got : Nat)
deriving DecidableEq, Repr

namespace ConfigError

/-- The error as a sentence. -/
def message : ConfigError → String
  | maxInFlight got => "max_in_flight must be at least 1 (got " ++ toString got ++ ")"

/-- A short stable name of the kind of error. -/
def label : ConfigError → String
  | maxInFlight _ => "config_max_in_flight"

/-- The error with its parts. -/
def describe : ConfigError → String
  | maxInFlight got => Text.record "MaxInFlight" [("got", toString got)]

end ConfigError

/-- The settings of a limiter. -/
structure Config where
  /-- How many jobs may hold a token at the same time. -/
  maxInFlight : Nat := 25
  /-- How many events the bus keeps for a slow receiver. -/
  busCapacity : Nat := 1024
  /-- How long a feed may take to sync; zero sets no limit. -/
  syncTimeout : Duration := ⟨0⟩
deriving DecidableEq, Repr

namespace Config

/-- The bus capacity in force: a bus keeps at least one event. -/
def busCapacityClamped (config : Config) : Nat :=
  max config.busCapacity 1

/-- The time limit for a feed to sync, if there is one. -/
def syncDeadline (config : Config) : Option Duration :=
  if config.syncTimeout.isZero then none else some config.syncTimeout

/-- Refuses a configuration under which no job could be admitted. -/
def validate (config : Config) : Except ConfigError Unit :=
  if config.maxInFlight = 0 then .error (.maxInFlight config.maxInFlight) else .ok ()

/-- The configuration with its parts. -/
def describe (config : Config) : String :=
  Text.record "Config"
    [("max_in_flight", toString config.maxInFlight),
     ("bus_capacity", toString config.busCapacity),
     ("sync_timeout", config.syncTimeout.text)]

end Config

end Admission
