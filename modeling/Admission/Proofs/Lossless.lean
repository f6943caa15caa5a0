import Admission.Proofs.Accounting
import Admission.Proofs.Measurements
import Admission.Proofs.Tellings

/-!
# Relays that lose nothing

If the listener of a relay never falls behind, the queue of a sink is never full, and nothing is left
on the way in the end, the subscriber of the sink has handled every event that was published since the
relay began, each of them once. The signs of the system tell how many there were of each kind.
-/

namespace Admission

namespace Reception

def isLagged : Reception → Bool
  | lagged _ => true
  | _ => false

/-- A receiver that never lags receives everything. -/
theorem Covers.events_eq {receptions : List Reception} {covered : List Event}
    (covers : Covers receptions covered) (unskipped : receptions.any isLagged = false) :
    Reception.events receptions = covered := by
  induction covers with
  | nil => rfl
  | event event rest ih => exact congrArg (event :: ·) (ih unskipped)
  | lagged lost rest ih => cases unskipped

end Reception

/-- A subscriber that completes whatever it begins panics over nothing, and its worker stands. -/
theorem Sink.Account.of_completes {sink : Sink} {index : Nat} {given : List Event}
    {deliveries : List Delivery} (account : sink.Account index given deliveries)
    (completes : ∀ event, sink.subscriber.conduct event = .completes) :
    sink.isFallen = false ∧ Delivery.events Delivery.isPanicked index deliveries = [] := by
  constructor
  · apply account.stands
    intro event _
    rw [completes event]
    rfl
  · rw [Delivery.events, List.map_eq_nil_iff, List.filter_eq_nil_iff]
    intro delivery member panicked
    rw [Bool.and_eq_true, beq_iff_eq] at panicked
    have given : delivery.isGiven = true := by
      simp [Delivery.isGiven, Delivery.isSettled, panicked.2]
    have told := account.told delivery member panicked.1 given
    have handled : delivery = .handled index delivery.event := by
      rw [told, outcome, completes]
      rfl
    rw [handled] at panicked
    cases panicked.2

/-- Whether a sign is an event at the first limiter that passes a test. -/
def Sign.passes (test : Event → Bool) : Sign → Bool
  | told place event => place == 0 && test event
  | _ => false

/-- The signs tell what was published, but for the numbers that depend on when it was. -/
theorem Notice.publishedAt_countP {test : Event → Bool}
    (timeless : ∀ event : Event, test event.bare = test event) (notices : List Notice) :
    (publishedAt 0 notices).countP test =
      (notices.flatMap Notice.signs).countP (Sign.passes test) := by
  induction notices with
  | nil => rfl
  | cons notice rest ih =>
      rw [publishedAt_cons, List.countP_append, ih, List.flatMap_cons, List.countP_append]
      congr 1
      cases notice with
      | published place event =>
          by_cases first : place = 0
          · subst first
            simp [publishedAt, event?, signs, Sign.passes, timeless]
          · simp [publishedAt, event?, signs, Sign.passes, first]
      | logged record =>
          have untold : (publishedAt 0 [.logged record]).countP test = 0 := rfl
          rw [untold, signs]
          split <;> rfl
      | _ => rfl

namespace Relay

/-- The moves that the system makes in a step. -/
def moves (relay : Relay) : RelayStep → List Move
  | .act move => if relay.world.firstBus.isClosed then [] else [move]
  | .openGate gate => [.elsewhere (.openGate gate)]
  | _ => []

/-- The moves that the system makes in a run. -/
def made : Relay → List RelayStep → List Move
  | _, [] => []
  | relay, step :: rest => relay.moves step ++ made (relay.perform step) rest

variable {relay : Relay} {start index : Nat} {subscribers : List Subscriber}
  {receptions : List Reception} {deliveries : List Delivery}

theorem perform_system (relay : Relay) (step : RelayStep) :
    (relay.perform step).world.system = relay.world.system.run (relay.moves step) := by
  have observed (deed : Deed) (observing : deed.isObserving = true) :
      (relay.world.perform deed).system = relay.world.system :=
    (World.LeavesAlone.of_isObserving relay.world deed observing).system
  cases step with
  | publish event =>
      simp only [perform]
      split
      · rfl
      · simp [World.perform, moves]
  | act move =>
      simp only [perform, moves]
      split
      · rfl
      · simpa using World.deed_system relay.world move
  | cloneBus =>
      simp only [perform]
      split <;> rfl
  | dropBus =>
      simp only [perform]
      split
      · rfl
      · simp [World.perform, moves]
      · rfl
  | openGate gate => exact World.deed_system relay.world (.elsewhere (.openGate gate))
  | listen => exact observed (.turn .listener) rfl
  | work sink => exact observed (.turn (.worker sink)) rfl

theorem run_system (relay : Relay) (steps : List RelayStep) :
    (relay.run steps).world.system = relay.world.system.run (relay.made steps) := by
  induction steps generalizing relay with
  | nil => rfl
  | cons step rest ih =>
      rw [made, System.run_append, ← perform_system]
      exact ih (relay.perform step)

/-- Nothing is lost in a run on the way to a sink, and nothing is left on the way. -/
structure Lossless (opened : Relay) (steps : List RelayStep) (index : Nat) : Prop where
  /-- The listener never falls behind the bus. -/
  unskipped : (opened.received steps).any Reception.isLagged = false
  /-- The sink never finds its queue full. -/
  undropped : Delivery.events Delivery.isMissed index (opened.delivered steps) = []
  heard : (opened.run steps).pending = []
  handled : ∀ sink, (opened.run steps).world.sinks[index]? = some sink →
    sink.queue = [] ∧ sink.handling = none

/-- If nothing is lost, the subscriber handles what is published. -/
theorem Lossless.handled_perm {steps : List RelayStep} (lossless : relay.Lossless steps index)
    (kept : relay.Kept relay.log.length subscribers [] [])
    {subscriber : Subscriber} (served : subscribers[index]? = some subscriber)
    (completes : ∀ event, subscriber.conduct event = .completes) :
    ((relay.run steps).log.drop relay.log.length).Perm
      (Delivery.events Delivery.isHandled index (relay.delivered steps)) := by
  have after := kept.run steps
  simp only [List.nil_append] at after
  have atEnd : (relay.run steps).log.length ≤ (relay.run steps).world.position := by
    have nothing := lossless.heard
    rwa [pending, List.drop_eq_nil_iff] at nothing
  have received : Reception.events (relay.received steps) =
      (relay.run steps).log.drop relay.log.length := by
    rw [after.passed.events_eq lossless.unskipped, List.take_of_length_le]
    rw [List.length_drop]
    omega
  have sized := congrArg List.length after.accounts.served
  rw [List.length_map] at sized
  have within : index < (relay.run steps).world.sinks.length := by
    rw [sized]
    exact (List.getElem?_eq_some_iff.mp served).1
  have found := List.getElem?_eq_getElem within
  have own : (relay.run steps).world.sinks[index].subscriber = subscriber := by
    have listed := congrArg (·[index]?) after.accounts.served
    simpa [found, served] using listed
  have account := (after.accounts.ledgers index _ found).account
  rcases account.of_completes (own.symm ▸ completes) with ⟨stands, unpanicked⟩
  have whole := account.standing stands
  rcases lossless.handled _ found with ⟨queue, handling⟩
  rwa [received, lossless.undropped, unpanicked, queue, handling, List.nil_append,
    List.append_nil, Option.toList_none, List.append_nil, List.append_nil] at whole

/-- If nothing is lost, the signs of the system tell what the subscriber has handled. -/
theorem Lossless.countP {steps : List RelayStep} (lossless : relay.Lossless steps index)
    (kept : relay.Kept relay.log.length subscribers [] [])
    {subscriber : Subscriber} (served : subscribers[index]? = some subscriber)
    (completes : ∀ event, subscriber.conduct event = .completes)
    (shared : ∀ step ∈ steps, step.isOwn = false) {test : Event → Bool}
    (timeless : ∀ event : Event, test event.bare = test event) :
    (relay.run steps).world.system.signs.countP (Sign.passes test) =
      relay.world.system.signs.countP (Sign.passes test) +
        (Delivery.events Delivery.isHandled index (relay.delivered steps)).countP test := by
  rcases kept.extends_run shared with ⟨noted, extended, published⟩
  have handled := (lossless.handled_perm kept served completes).countP_eq test
  rw [kept.log_run, List.drop_left, published] at handled
  rw [← handled, Notice.publishedAt_countP timeless, System.signs, extended.history,
    List.flatMap_append, List.countP_append]
  rfl

end Relay

end Admission
