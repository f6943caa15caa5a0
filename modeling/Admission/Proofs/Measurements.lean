import Admission.Proofs.Meters
import Admission.Proofs.Relay

/-!
# What a subscriber measures

A subscriber that measures takes every event into account that its worker hands to it, in this order,
and nothing else ever changes its registry. If no event was lost on the way, and none is left, these
are the events published on the bus since the listener subscribed.
-/

namespace Admission

open LimiterMetrics

/-- The registry after all deliveries at a sink were taken into account. -/
def Registry.after (registry : Registry) (space : String) (index : Nat)
    (deliveries : List Delivery) : Registry :=
  (Delivery.events Delivery.isHandled index deliveries).foldl (record space) registry

section Registries

variable {registry : Registry} {space : String} {index : Nat}

theorem Registry.after_append (deliveries more : List Delivery) :
    registry.after space index (deliveries ++ more) =
      (registry.after space index deliveries).after space index more := by
  rw [after, Delivery.events_append, List.foldl_append]
  rfl

/-- What is only offered is not measured. -/
theorem Registry.after_of_unhandled {deliveries : List Delivery}
    (unhandled : ∀ delivery ∈ deliveries, delivery.isHandled = false) :
    registry.after space index deliveries = registry := by
  rw [after, Delivery.events_otherKind _ _ unhandled]
  rfl

theorem Registry.after_of_offered {deliveries : List Delivery}
    (offered : ∀ delivery ∈ deliveries, delivery.isEnd = false) :
    registry.after space index deliveries = registry := by
  apply after_of_unhandled
  intro delivery member
  cases delivery with
  | handled sink event => cases offered _ member
  | _ => rfl

/-- A fresh set of metrics shows in each counter how many of the events that were handled it counts. -/
theorem Registry.after_counter (accepted : (enroll space {}).2 = none) {family : String}
    (counts : family ∈ [added, updated, deleted, staleJobs, canceledWaits, handlerErrors])
    (deliveries : List Delivery) :
    ((enroll space {}).1.after space index deliveries).reading? (fullName space family) =
      some ((Delivery.events Delivery.isHandled index deliveries).countP (isCountedBy family)) := by
  have stood := (enroll_fresh accepted).2.2 family counts
  have apart : family ≠ maxInFlight ∧ family ≠ tokenWait := by
    simp only [List.mem_cons, List.not_mem_nil, or_false] at counts
    rcases counts with rfl | rfl | rfl | rfl | rfl | rfl <;> decide
  rw [Registry.reading?, Registry.after, foldl_counter apart.1 apart.2 stood, Nat.zero_add]
  rfl

/-- It has observed every wait that it was told. -/
theorem Registry.after_histogram (accepted : (enroll space {}).2 = none)
    (deliveries : List Delivery) :
    ((enroll space {}).1.after space index deliveries).reading? (fullName space tokenWait) =
      some ((Delivery.events Delivery.isHandled index deliveries).countP isObserved) := by
  rcases (enroll_fresh accepted).2.1 with ⟨observations, empty, stood⟩
  rcases foldl_histogram stood (Delivery.events Delivery.isHandled index deliveries) with
    ⟨later, observed, total⟩
  rw [Registry.reading?, Registry.after, observed, Option.bind_some, Instrument.reading?, total,
    empty, Nat.zero_add]

/-- Its gauge shows the capacity once this was told. -/
theorem Registry.after_gauge (accepted : (enroll space {}).2 = none) {capacity : Nat}
    {deliveries : List Delivery} (configured : ∃ event ∈
      Delivery.events Delivery.isHandled index deliveries, event.kind = .capacityConfigured)
    (told : ∀ event ∈ Delivery.events Delivery.isHandled index deliveries,
      event.kind = .capacityConfigured → event.capacity = some capacity) :
    ((enroll space {}).1.after space index deliveries).reading? (fullName space maxInFlight) =
      some (min capacity Registry.maxGauge) := by
  have stands := foldl_gauge (enroll_fresh accepted).1 told
  rw [if_pos (by simpa using configured)] at stands
  rw [Registry.reading?, Registry.after, stands]
  rfl

theorem offerAll_isEnd (event : Event) (first : Nat) (sinks : List Sink) :
    ∀ delivery ∈ (offerAll event first sinks).2, delivery.isEnd = false := by
  induction sinks generalizing first with
  | nil => simp [offerAll]
  | cons sink rest ih =>
      intro delivery member
      simp only [offerAll, List.mem_cons] at member
      rcases member with rfl | later
      · exact (Delivery.of_isOffer (sink.offer_frame first event).2.2.1).1
      · exact ih (first + 1) delivery later

theorem deliveriesOf_isEnd (sinks : List Sink) (receptions : List Reception) :
    ∀ delivery ∈ deliveriesOf sinks receptions, delivery.isEnd = false := by
  induction receptions generalizing sinks with
  | nil => simp [deliveriesOf]
  | cons reception rest ih =>
      intro delivery member
      rcases List.mem_append.mp member with first | later
      · cases reception with
        | event event => exact offerAll_isEnd event 0 sinks delivery first
        | _ => cases first
      · exact ih _ delivery later

end Registries

namespace World

/-- The subscriber of a sink measures, and its registry is this one. -/
structure Measures (world : World) (index : Nat) (space : String) (registry : Registry) : Prop where
  role : world.roles[index]? = some (.measuring space)
  registered : world.registries[index]? = some registry

namespace Measures

variable {world next : World} {index : Nat} {space : String} {registry : Registry}

theorem congr (measures : world.Measures index space registry) (roles : next.roles = world.roles)
    (registries : next.registries = world.registries) : next.Measures index space registry where
  role := by rw [roles, measures.role]
  registered := by rw [registries, measures.registered]

theorem account (measures : world.Measures index space registry) (delivery : Delivery) :
    (world.account delivery).Measures index space (registry.after space index [delivery]) := by
  have others (unhandled : delivery.isHandled = false)
      (roles : (world.account delivery).roles = world.roles)
      (registries : (world.account delivery).registries = world.registries) :
      (world.account delivery).Measures index space (registry.after space index [delivery]) := by
    rw [Registry.after_of_unhandled (by simpa using unhandled)]
    exact measures.congr roles registries
  cases delivery with
  | accepted | missed | refused | panicked | fatal | lost => exact others rfl rfl rfl
  | handled sink event =>
      simp only [World.account, serve]
      by_cases own : sink = index
      · subst own
        rw [measures.role]
        refine ⟨measures.role, ?_⟩
        simp [Array.getElem?_modify, measures.registered, Registry.after, Delivery.events,
          Delivery.sink, Delivery.isHandled, Delivery.event]
      · have elsewhere : registry.after space index [.handled sink event] = registry := by
          simp [Registry.after, Delivery.events, Delivery.sink, own]
        rw [elsewhere]
        split
        · exact measures.congr rfl rfl
        · exact measures.congr rfl rfl
        · refine ⟨measures.role, ?_⟩
          simp [Array.getElem?_modify, own, measures.registered]
        · exact measures

theorem accountAll (measures : world.Measures index space registry) (deliveries : List Delivery) :
    (deliveries.foldl World.account world).Measures index space
      (registry.after space index deliveries) := by
  induction deliveries generalizing world registry with
  | nil => exact measures
  | cons delivery rest ih =>
      have whole : registry.after space index (delivery :: rest) =
          (registry.after space index [delivery]).after space index rest :=
        Registry.after_append [delivery] rest
      rw [whole]
      exact ih (measures.account delivery)

theorem hear (measures : world.Measures index space registry) (reception : Reception) :
    (world.hear reception).Measures index space registry := by
  cases reception with
  | event event =>
      have offered : World.Measures { world with sinks := (offerAll event 0 world.sinks).1 }
          index space registry := measures.congr rfl rfl
      have heard := offered.accountAll (offerAll event 0 world.sinks).2
      rwa [Registry.after_of_offered (offerAll_isEnd event 0 world.sinks)] at heard
  | lagged missed => exact measures.congr rfl rfl
  | empty => exact measures
  | closed => exact measures

theorem hearAll (measures : world.Measures index space registry) (receptions : List Reception) :
    (receptions.foldl World.hear world).Measures index space registry := by
  induction receptions generalizing world with
  | nil => exact measures
  | cons reception rest ih => exact ih (measures.hear reception)

theorem beginClosing (measures : world.Measures index space registry) :
    world.beginClosing.Measures index space registry := by
  cases closing : world.isClosing with
  | true => simpa [World.beginClosing, closing] using measures
  | false =>
      rcases world.beginClosing_eq closing with ⟨scheduler, closes⟩
      rw [closes]
      exact measures.congr rfl rfl

theorem awaitWorkers (measures : world.Measures index space registry) (actor : Actor) :
    (world.awaitWorkers actor).Measures index space registry := by
  simp only [World.awaitWorkers]
  split <;> exact measures.congr rfl rfl

theorem listen (measures : world.Measures index space registry) :
    world.listen.Measures index space registry := by
  simp only [World.listen]
  split
  · exact measures
  · rename_i bus _
    have begun : World.Measures { world with
        position := (bus.take turnLimit world.position).2 } index space registry :=
      measures.congr rfl rfl
    have heard := begun.hearAll (bus.take turnLimit world.position).1
    split
    · exact heard.congr rfl rfl
    · split
      · exact heard.beginClosing.awaitWorkers .listener
      · exact heard.congr rfl rfl

theorem work (measures : world.Measures index space registry) (sink : Nat) :
    (world.work sink).Measures index space
      (registry.after space index (world.deliveriesBy sink)) := by
  cases found : world.sinks[sink]? with
  | none => simpa [World.work, found, deliveriesBy, Registry.after] using measures
  | some before =>
      rcases world.work_eq found with ⟨scheduler, works⟩
      have begun : World.Measures { world with
          sinks := world.sinks.set sink (before.work world.system.isOpen sink).1 } index space
            registry := measures.congr rfl rfl
      have worked := begun.accountAll (before.work world.system.isOpen sink).2
      rw [works, deliveriesBy, found]
      exact worked.congr rfl rfl

theorem passOn (measures : world.Measures index space registry) (notice : Notice) :
    (world.passOn notice).Measures index space registry := by
  cases notice <;> exact measures.congr rfl rfl

theorem withSystem (measures : world.Measures index space registry) (system : System) :
    (world.withSystem system).Measures index space registry := by
  rw [withSystem_eq]
  generalize system.history.toList.drop world.passedOn = news
  have taken : World.Measures { world with system, passedOn := system.history.size } index space
      registry := measures.congr rfl rfl
  revert taken
  generalize ({ world with system, passedOn := system.history.size } : World) = begun
  intro taken
  induction news generalizing begun with
  | nil => exact taken
  | cons notice rest ih => exact ih _ (taken.passOn notice)

theorem closeBuses (measures : world.Measures index space registry) :
    world.closeBuses.Measures index space registry := by
  simp only [World.closeBuses]
  split
  · exact measures
  · exact measures.congr rfl rfl

theorem turnTask (measures : world.Measures index space registry) (task : Nat) :
    (world.turnTask task).Measures index space registry := by
  have scheduled (scheduler : Scheduler Actor) :
      (World.park ({ world with scheduler }.withSystem (world.system.turn task)) (.task task)
        ((world.system.turn task).awaits task)).Measures index space registry := by
    have begun : World.Measures { world with scheduler } index space registry :=
      measures.congr rfl rfl
    exact (begun.withSystem (world.system.turn task)).congr rfl rfl
  exact closeBuses (scheduled _)

theorem deed (measures : world.Measures index space registry) (move : Move) :
    (world.perform (World.deed move)).Measures index space registry := by
  cases move with
  | turn task => exact measures.turnTask task
  | _ => exact measures.withSystem _

end Measures

end World

namespace Relay

variable {relay : Relay} {index : Nat} {space : String} {registry : Registry}

theorem perform_measures (measures : relay.world.Measures index space registry)
    (step : RelayStep) :
    (relay.perform step).world.Measures index space
      (registry.after space index (relay.deliveries step)) := by
  cases step with
  | publish event =>
      simp only [perform]
      split
      · exact measures
      · exact measures.passOn (.published 0 event)
  | act move =>
      simp only [perform]
      split
      · exact measures
      · exact (measures.deed move).closeBuses
  | cloneBus =>
      simp only [perform]
      split <;> exact measures
  | dropBus =>
      simp only [perform]
      split
      · exact measures
      · exact World.Measures.closeBuses (measures.congr rfl rfl)
      · exact measures
  | openGate gate => exact measures.deed (.elsewhere (.openGate gate))
  | listen =>
      rw [deliveries, Registry.after_of_offered (deliveriesOf_isEnd _ _)]
      simp only [perform, World.perform, World.turn]
      split
      · exact measures.awaitWorkers .listener
      · exact measures.listen
  | work sink => exact measures.work sink

/-- A registry has taken account of what was handled at its sink, and of nothing else. -/
theorem run_measures (measures : relay.world.Measures index space registry)
    (steps : List RelayStep) :
    (relay.run steps).world.Measures index space
      (registry.after space index (relay.delivered steps)) := by
  induction steps generalizing relay registry with
  | nil => exact measures
  | cons step rest ih =>
      rw [delivered, Registry.after_append]
      exact ih (perform_measures measures step)

end Relay

end Admission
