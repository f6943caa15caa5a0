import Admission.Proofs.Relay

/-!
# Accounting for events

What is published on the bus of a relay comes from two sides. Whoever holds the bus publishes events
of its own, and limiters and reconcilers publish those that they note. Nothing else gets onto the
bus.

Every event published during a run is accounted for exactly once on its way to each subscriber. The
listener has yet to come to it, or was told that it lost it, or offered it to the sinks. Each sink
then accounts for what it was offered. If its subscriber panics over events only while it handles
them, as an asynchronous body does, the event is in the queue, being handled or handled, or one
record tells that it was missed or panicked over. A subscriber that panics where its worker does not
catch it brings the worker down, and the account also says what goes with it.
-/

namespace Admission

namespace RelayStep

/-- Whether somebody publishes an event of its own, under whatever number. -/
def isOwn : RelayStep → Bool
  | publish _ => true
  | _ => false

end RelayStep

namespace Relay

/-! ### What is published -/

/-- What limiters, reconcilers and those around them note in a step. -/
def noted (relay : Relay) (step : RelayStep) : List Notice :=
  (relay.perform step).world.system.history.toList.drop relay.world.system.history.size

/-- The events that are to be published in a step. Nobody can publish an event of its own when the
last handle is gone. -/
def published (relay : Relay) : RelayStep → List Event
  | .publish event => if relay.handles = 0 then [] else [event]
  | step => Notice.publishedAt 0 (relay.noted step)

/-- The events that are to be published in a run. -/
def publishedIn : Relay → List RelayStep → List Event
  | _, [] => []
  | relay, step :: rest => relay.published step ++ publishedIn (relay.perform step) rest

variable {relay : Relay} {start : Nat} {subscribers : List Subscriber}
  {receptions : List Reception} {deliveries : List Delivery}

theorem published_of_shared {step : RelayStep} (shared : step.isOwn = false) :
    relay.published step = Notice.publishedAt 0 (relay.noted step) := by
  cases step with
  | publish event => cases shared
  | _ => rfl

/-- On the way to another state, the system of a relay notes something, and the events among it are
what gets onto the bus. -/
structure Publishes (relay next : Relay) (noted : List Notice) : Prop where
  notes : Notice.Extend relay.world.system.history relay.world.system.eventsMade
    next.world.system.history next.world.system.eventsMade noted
  log : next.log = relay.log ++ Notice.publishedAt 0 noted

namespace Publishes

variable {next : Relay}

theorem of_same (system : next.world.system = relay.world.system) (log : next.log = relay.log) :
    relay.Publishes next [] := by
  refine ⟨?_, ?_⟩
  · rw [system]
    exact .nil
  · rw [log]
    exact (List.append_nil _).symm

theorem of_deed (caughtUp : relay.world.passedOn = relay.world.system.history.size)
    (present : 0 < relay.world.buses.size) (move : Move) :
    ∃ noted,
      relay.Publishes { relay with world := relay.world.perform (World.deed move) } noted := by
  rcases World.deed_fed caughtUp move with ⟨noted, extended, fed, -⟩
  refine ⟨noted, ?_, fed.log_eq present⟩
  rwa [World.deed_system]

/-- The listener and the workers publish nothing. -/
theorem of_isObserving (deed : Deed) (observing : deed.isObserving = true) :
    relay.Publishes { relay with world := relay.world.perform deed } [] := by
  have alone := World.LeavesAlone.of_isObserving relay.world deed observing
  refine of_same alone.system ?_
  rw [Relay.log, World.firstBus, alone.buses, Relay.log, World.firstBus]

end Publishes

/-- What limiters and reconcilers note is published, and nothing else is. -/
theorem Kept.publishes (kept : relay.Kept start subscribers receptions deliveries)
    {step : RelayStep} (shared : step.isOwn = false) :
    relay.Publishes (relay.perform step) (relay.noted step) := by
  suffices grows : ∃ noted, relay.Publishes (relay.perform step) noted by
    rcases grows with ⟨news, publishes⟩
    have same : relay.noted step = news := by
      rw [noted, publishes.notes.history, ← Array.length_toList, List.drop_left]
    rw [same]
    exact publishes
  cases step with
  | publish event => cases shared
  | act move =>
      simp only [Relay.perform]
      split
      · exact ⟨[], .of_same rfl rfl⟩
      · rcases Publishes.of_deed kept.caughtUp kept.present move with ⟨noted, publishes⟩
        refine ⟨noted, by simpa using publishes.notes, ?_⟩
        rw [Relay.log, World.closeBuses_log]
        exact publishes.log
  | cloneBus =>
      simp only [Relay.perform]
      split <;> exact ⟨[], .of_same rfl rfl⟩
  | dropBus =>
      simp only [Relay.perform]
      split
      · exact ⟨[], .of_same rfl rfl⟩
      · refine ⟨[], .of_same (by simp [World.perform]) ?_⟩
        rw [Relay.log, World.perform, World.closeBuses_log, Relay.log, World.firstBus,
          World.firstBus]
      · exact ⟨[], .of_same rfl rfl⟩
  | openGate gate =>
      exact Publishes.of_deed kept.caughtUp kept.present (.elsewhere (.openGate gate))
  | listen => exact ⟨[], Publishes.of_isObserving (.turn .listener) rfl⟩
  | work sink => exact ⟨[], Publishes.of_isObserving (.turn (.worker sink)) rfl⟩

/-- Whoever holds the bus can publish. -/
theorem Kept.log_publish (kept : relay.Kept start subscribers receptions deliveries)
    (event : Event) :
    (relay.perform (.publish event)).log = relay.log ++ relay.published (.publish event) := by
  simp only [Relay.perform, published]
  split
  · exact (List.append_nil _).symm
  · have plain : (Notice.published 0 event).isPlain = true := rfl
    exact (World.Fed.passOn relay.world plain).log_eq kept.present

theorem Kept.log_perform (kept : relay.Kept start subscribers receptions deliveries)
    (step : RelayStep) : (relay.perform step).log = relay.log ++ relay.published step := by
  cases own : step.isOwn with
  | false =>
      rw [published_of_shared own]
      exact (kept.publishes own).log
  | true =>
      cases step with
      | publish event => exact kept.log_publish event
      | _ => cases own

/-- The bus tells what was published on it, in order. -/
theorem Kept.log_run (kept : relay.Kept start subscribers receptions deliveries)
    (steps : List RelayStep) : (relay.run steps).log = relay.log ++ relay.publishedIn steps := by
  induction steps generalizing relay receptions deliveries with
  | nil => exact (List.append_nil _).symm
  | cons step rest ih =>
      change ((relay.perform step).run rest).log = _
      rw [ih (kept.perform step), kept.log_perform step, List.append_assoc, publishedIn]

theorem Kept.extends_run (kept : relay.Kept start subscribers receptions deliveries)
    {steps : List RelayStep} (shared : ∀ step ∈ steps, step.isOwn = false) :
    ∃ noted, Notice.Extend relay.world.system.history relay.world.system.eventsMade
        (relay.run steps).world.system.history (relay.run steps).world.system.eventsMade noted ∧
      relay.publishedIn steps = Notice.publishedAt 0 noted := by
  induction steps generalizing relay receptions deliveries with
  | nil => exact ⟨[], .nil, rfl⟩
  | cons step rest ih =>
      have first := shared step (by simp)
      rcases ih (kept.perform step) (fun later member => shared later (by simp [member])) with
        ⟨more, extended, published⟩
      refine ⟨relay.noted step ++ more, (kept.publishes first).notes.append extended, ?_⟩
      rw [publishedIn, published, published_of_shared first, Notice.publishedAt_append]

/-- A subscriber that panics over what it is given, and for which one event may wait. -/
def faulty : Subscriber where
  name := "faulty"
  queueCapacity := 1
  conduct := fun _ => .panics "fault"

/-- A subscriber that brings its worker down over the first event that it is given. -/
def fragile : Subscriber where
  name := "fragile"
  conduct := fun _ => .collapses

def troubled : List (Subscriber × Role) :=
  [(faulty, .keeping), (fragile, .keeping), ({ name := "sound" }, .keeping)]

def stale (sequence : Nat) : Event :=
  { kind := .jobStale, sequence }

/-- The listener comes late and loses two events. The first subscriber misses one of the others and
panics over the rest. The second one goes down over the first of them. -/
def losses : List RelayStep :=
  [.publish (stale 1), .publish (stale 2), .publish (stale 3), .publish (stale 4), .listen,
    .work 0, .work 1, .work 2, .publish (stale 5), .dropBus, .publish (stale 6), .listen, .work 2,
    .work 1, .work 0]

end Relay

end Admission
