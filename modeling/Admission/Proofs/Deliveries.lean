import Admission.Proofs.Worlds

/-!
# What becomes of an event

A receiver of a bus gets every event that was published after it subscribed, or is told that it lost
it: its receptions cover what it has passed.

What becomes of an event at a sink is told in deliveries. An event is offered first, and is accepted
or turned away. One that was accepted leaves the sink later, when the subscriber is done with it or
when it is lost with the worker.
-/

namespace Admission

namespace Reception

def event? : Reception → Option Event
  | event received => some received
  | _ => none

/-- The events that were received. -/
def events (receptions : List Reception) : List Event :=
  receptions.filterMap event?

/-- The record of what was lost, if anything was. -/
def record? : Reception → Option LogRecord
  | lagged missed => some (fellBehindRecord missed)
  | _ => none

/-- Receptions account for events one after the other: each event is received or counted among
those that were lost. -/
inductive Covers : List Reception → List Event → Prop where
  | nil : Covers [] []
  | event {receptions : List Reception} {events : List Event} (event : Event)
      (rest : Covers receptions events) : Covers (.event event :: receptions) (event :: events)
  | lagged {receptions : List Reception} {events : List Event} (lost : List Event)
      (rest : Covers receptions events) :
      Covers (.lagged lost.length :: receptions) (lost ++ events)

theorem Covers.append {receptions more : List Reception} {events later : List Event}
    (covers : Covers receptions events) (next : Covers more later) :
    Covers (receptions ++ more) (events ++ later) := by
  induction covers with
  | nil => exact next
  | event event rest ih => exact .event event ih
  | lagged lost rest ih =>
      rw [List.append_assoc]
      exact .lagged lost ih

theorem Covers.all (events : List Event) : Covers (events.map .event) events := by
  induction events with
  | nil => exact .nil
  | cons event rest ih => exact .event event ih

/-- The events received are among those accounted for, in the same order. -/
theorem Covers.events_sublist {receptions : List Reception} {covered : List Event}
    (covers : Covers receptions covered) : (Reception.events receptions).Sublist covered := by
  induction covers with
  | nil => exact List.Sublist.slnil
  | event event rest ih =>
      simp only [Reception.events, List.filterMap_cons, event?]
      exact ih.cons_cons event
  | lagged lost rest ih =>
      simp only [Reception.events, List.filterMap_cons, event?]
      exact ih.trans (List.sublist_append_right lost _)

end Reception

/-- What lies between two positions of a list lies before or behind any position between them. -/
theorem List.take_drop_split {Item : Type} (items : List Item) {first middle last : Nat}
    (lower : first ≤ middle) (upper : middle ≤ last) :
    (items.drop first).take (last - first) =
      (items.drop first).take (middle - first) ++ (items.drop middle).take (last - middle) := by
  have parts : last - first = (middle - first) + (last - middle) := by omega
  rw [parts, List.take_add, List.drop_drop, Nat.add_sub_cancel' lower]

namespace Bus

theorem oldest_le (bus : Bus) : bus.oldest ≤ bus.log.size :=
  Nat.sub_le _ _

/-- Whatever a receiver gets accounts for the events that it has passed. -/
theorem take_covers (bus : Bus) (count : Nat) {position : Nat} (within : position ≤ bus.log.size) :
    position ≤ (bus.take count position).2 ∧ (bus.take count position).2 ≤ bus.log.size ∧
      Reception.Covers (bus.take count position).1
        ((bus.log.toList.drop position).take ((bus.take count position).2 - position)) := by
  have old := bus.oldest_le
  by_cases behind : position < bus.oldest
  · simp only [take, behind, if_true, Nat.max_eq_right (Nat.le_of_lt behind)]
    generalize reached : min bus.log.size _ = stop
    refine ⟨by omega, by omega, ?_⟩
    rw [List.take_drop_split _ (Nat.le_of_lt behind) (by omega : bus.oldest ≤ stop)]
    have lost : ((bus.log.toList.drop position).take (bus.oldest - position)).length =
        bus.oldest - position := by
      simp
      omega
    have covers := Reception.Covers.lagged
      ((bus.log.toList.drop position).take (bus.oldest - position))
      (.all ((bus.log.toList.drop bus.oldest).take (stop - bus.oldest)))
    rw [lost] at covers
    rw [Array.toList_extract, List.extract_eq_take_drop]
    exact covers
  · simp only [take, behind, if_false, Nat.max_eq_left (Nat.le_of_not_lt behind)]
    generalize reached : min bus.log.size _ = stop
    refine ⟨by omega, by omega, ?_⟩
    rw [Array.toList_extract, List.extract_eq_take_drop]
    exact .all _

/-- A receiver that gets less than it asked for has passed everything. -/
theorem take_exhausts (bus : Bus) (count : Nat) {position : Nat} (within : position ≤ bus.log.size)
    (fewer : (bus.take count position).1.length < count) :
    (bus.take count position).2 = bus.log.size := by
  have old := bus.oldest_le
  by_cases behind : position < bus.oldest
  · simp [take, behind] at fewer ⊢
    omega
  · simp [take, behind] at fewer ⊢
    omega

end Bus

namespace Delivery

def sink : Delivery → Nat
  | accepted sink _ => sink
  | missed sink _ => sink
  | refused sink _ => sink
  | handled sink _ => sink
  | panicked sink _ _ => sink
  | fatal sink _ => sink
  | lost sink _ => sink

def event : Delivery → Event
  | accepted _ event => event
  | missed _ event => event
  | refused _ event => event
  | handled _ event => event
  | panicked _ event _ => event
  | fatal _ event => event
  | lost _ event => event

def isAccepted : Delivery → Bool
  | accepted _ _ => true
  | _ => false

def isMissed : Delivery → Bool
  | missed _ _ => true
  | _ => false

def isRefused : Delivery → Bool
  | refused _ _ => true
  | _ => false

def isHandled : Delivery → Bool
  | handled _ _ => true
  | _ => false

def isPanicked : Delivery → Bool
  | panicked _ _ _ => true
  | _ => false

def isFatal : Delivery → Bool
  | fatal _ _ => true
  | _ => false

def isLost : Delivery → Bool
  | lost _ _ => true
  | _ => false

/-- Whether it tells of an event that did not get into the queue. -/
def isTurnedAway (delivery : Delivery) : Bool :=
  delivery.isMissed || delivery.isRefused

/-- Whether it tells of an event that was offered to a sink. -/
def isOffer (delivery : Delivery) : Bool :=
  delivery.isAccepted || delivery.isTurnedAway

/-- Whether it tells of an event that the worker is done with. -/
def isSettled (delivery : Delivery) : Bool :=
  delivery.isHandled || delivery.isPanicked

/-- Whether it tells of an event that the subscriber was given and is done with. -/
def isGiven (delivery : Delivery) : Bool :=
  delivery.isSettled || delivery.isFatal

/-- Whether it tells of an event that has left the sink. -/
def isEnd (delivery : Delivery) : Bool :=
  delivery.isGiven || delivery.isLost

/-- The events of the deliveries of some kind at a sink. -/
def events (kind : Delivery → Bool) (index : Nat) (deliveries : List Delivery) : List Event :=
  (deliveries.filter fun delivery => delivery.sink == index && kind delivery).map event

variable (kind : Delivery → Bool) (index : Nat)

@[simp]
theorem events_nil : events kind index [] = [] := rfl

@[simp]
theorem events_append (deliveries more : List Delivery) :
    events kind index (deliveries ++ more) =
      events kind index deliveries ++ events kind index more := by
  simp [events]

theorem events_here {deliveries : List Delivery}
    (here : ∀ delivery ∈ deliveries, delivery.sink = index ∧ kind delivery = true) :
    events kind index deliveries = deliveries.map event := by
  rw [events, List.filter_eq_self.mpr]
  intro delivery member
  simp [here delivery member]

theorem events_otherKind {deliveries : List Delivery}
    (other : ∀ delivery ∈ deliveries, kind delivery = false) :
    events kind index deliveries = [] := by
  rw [events, List.map_eq_nil_iff, List.filter_eq_nil_iff]
  intro delivery member
  simp [other delivery member]

/-- Deliveries of a kind that has two forms are those of the one form and those of the other. -/
theorem events_perm {first second : Delivery → Bool}
    (forms : ∀ delivery, kind delivery = (first delivery || second delivery))
    (apart : ∀ delivery, (first delivery && second delivery) = false)
    (deliveries : List Delivery) :
    (events kind index deliveries).Perm
      (events first index deliveries ++ events second index deliveries) := by
  induction deliveries with
  | nil => exact List.Perm.nil
  | cons delivery rest ih =>
      have form := forms delivery
      have single := apart delivery
      simp only [events] at ih
      by_cases here : delivery.sink = index
      · cases isFirst : first delivery <;> cases isSecond : second delivery <;>
          simp only [isFirst, isSecond, Bool.or_self, Bool.or_false, Bool.false_or, Bool.and_self,
            reduceCtorEq] at form single
        · simpa [events, here, form, isFirst, isSecond] using ih
        · simpa [events, here, form, isFirst, isSecond] using
            (ih.cons delivery.event).trans List.perm_middle.symm
        · simpa [events, here, form, isFirst, isSecond] using ih.cons delivery.event
      · simpa [events, here] using ih

/-- Deliveries of a narrower kind are among those of a wider one. -/
theorem events_sublist {narrow : Delivery → Bool}
    (narrower : ∀ delivery, narrow delivery = true → kind delivery = true)
    (deliveries : List Delivery) :
    (events narrow index deliveries).Sublist (events kind index deliveries) := by
  apply List.Sublist.map
  have nested : (deliveries.filter fun delivery => delivery.sink == index && narrow delivery) =
      (deliveries.filter fun delivery => delivery.sink == index && kind delivery).filter narrow := by
    rw [List.filter_filter]
    apply List.filter_congr
    intro delivery _
    cases isNarrow : narrow delivery with
    | true => simp [narrower delivery isNarrow]
    | false => simp
  rw [nested]
  exact List.filter_sublist

/-- What a subscriber was given was offered before, and is not lost with its worker. -/
theorem of_isGiven {delivery : Delivery} (given : delivery.isGiven = true) :
    delivery.isOffer = false ∧ delivery.isAccepted = false ∧ delivery.isRefused = false ∧
      delivery.isLost = false ∧ delivery.isEnd = true := by
  cases delivery with
  | handled | panicked | fatal => exact ⟨rfl, rfl, rfl, rfl, rfl⟩
  | _ => cases given

/-- What is offered has yet to leave the sink. -/
theorem of_isOffer {delivery : Delivery} (offers : delivery.isOffer = true) :
    delivery.isEnd = false ∧ delivery.isGiven = false ∧ delivery.isLost = false := by
  cases delivery with
  | accepted | missed | refused => exact ⟨rfl, rfl, rfl⟩
  | _ => cases offers

theorem events_singleton {delivery : Delivery} (place : delivery.sink = index) :
    events kind index [delivery] = if kind delivery then [delivery.event] else [] := by
  cases of : kind delivery <;> simp [events, place, of]

/-- All events that wait when a worker goes down are lost. -/
theorem events_lost {waiting : List Event} (losses : ∀ event, kind (.lost index event) = true) :
    events kind index (waiting.map (.lost index)) = waiting := by
  rw [events_here, List.map_map]
  · exact List.map_id' waiting
  · intro delivery member
    rcases List.mem_map.mp member with ⟨event, -, rfl⟩
    exact ⟨rfl, losses event⟩

theorem events_unlost {waiting : List Event} (gains : ∀ event, kind (.lost index event) = false) :
    events kind index (waiting.map (.lost index)) = [] := by
  apply events_otherKind
  intro delivery member
  rcases List.mem_map.mp member with ⟨event, -, rfl⟩
  exact gains event

end Delivery

end Admission
