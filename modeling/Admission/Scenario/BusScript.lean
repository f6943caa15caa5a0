import Admission.Bus

/-!
# Scripts for a bus

A script publishes on a bus and reads from it under the names of its receivers. It holds a first
handle on the bus and may hold a second one, which is cloned from any that is left. The handles are
dropped in this order, and the bus is closed when both are gone; from a closed bus there is no
handle to clone, nothing to publish on and nothing to subscribe to.
-/

namespace Admission

/-- A step of a script for a bus. -/
inductive BusStep where
  | subscribe (name : String)
  | publish (events : List Event)
  /-- Takes a second handle, in place of one that there may be. -/
  | holdBus
  /-- Drops the first handle, or else the second. -/
  | dropBus
  | dropReceiver (name : String)
  | receive (name : String)
  | drain (name : String)

/-- What a step answers. -/
inductive BusReply where
  | nothing
  | one (reception : Reception)
  | all (receptions : List Reception)

/-- A bus with its named receivers. -/
structure BusScript where
  bus : Bus
  receivers : List (String × Nat) := []
  holdsFirst : Bool := true
  holdsSecond : Bool := false

namespace BusScript

def move (script : BusScript) (name : String) (position : Nat) : BusScript :=
  { script with
    receivers := (name, position) :: script.receivers.filter fun entry => entry.1 != name }

/-- Takes a second handle if any is left. -/
def hold (script : BusScript) : BusScript :=
  { script with holdsSecond := script.holdsFirst || script.holdsSecond }

/-- Drops the first handle that is left; with the last one the bus is closed. -/
def letGo (script : BusScript) : BusScript :=
  let holdsSecond := script.holdsFirst && script.holdsSecond
  { script with
    holdsFirst := false
    holdsSecond
    bus := if holdsSecond then script.bus else script.bus.close }

def call (script : BusScript) : BusStep → BusScript × BusReply
  | .subscribe name =>
      if script.bus.isClosed then (script, .nothing)
      else (script.move name script.bus.subscribe, .nothing)
  | .publish events =>
      if script.bus.isClosed then (script, .nothing)
      else ({ script with bus := events.foldl Bus.publish script.bus }, .nothing)
  | .holdBus => (script.hold, .nothing)
  | .dropBus => (script.letGo, .nothing)
  | .dropReceiver name =>
      ({ script with receivers := script.receivers.filter fun entry => entry.1 != name },
        .nothing)
  | .receive name =>
      match script.receivers.lookup name with
      | some position =>
          let (reception, position) := script.bus.receive position
          (script.move name position, .one reception)
      | none => (script, .nothing)
  | .drain name =>
      match script.receivers.lookup name with
      | some position =>
          let (receptions, position) := script.bus.drain position
          (script.move name position, .all receptions)
      | none => (script, .nothing)

/-- Makes steps one after the other. -/
def run (script : BusScript) : List BusStep → List BusReply
  | [] => []
  | step :: rest =>
      let (script, reply) := script.call step
      reply :: script.run rest

end BusScript

end Admission
