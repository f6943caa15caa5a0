import Admission.Proofs.Deliveries

/-!
# The ledger of a sink

A sink accepts every event that it is offered, or turns it away; what it accepted is waiting, or in
the hands of the subscriber, or has left. This is kept as a ledger: a list of deliveries from which
the events in the queue can be read off.

As long as the worker stands, each event that a sink was given is in the queue, in the hands of the
subscriber, handled, lost to a panic, or missed because the queue was full. A subscriber that brings
its worker down ends this. The event over which it does so is the last one that it is given. What
waits then is lost, and what is offered later is refused.
-/

namespace Admission

namespace Conduct

theorem isFatal_of_isSudden {conduct : Conduct} (sudden : conduct.isSudden = true) :
    conduct.isFatal = true := by
  cases conduct with
  | collapses => rfl
  | fells first => rfl
  | _ => cases sudden

/-- A subscriber begins to handle every event that is not fatal to its worker. -/
theorem filter_isSudden {conduct : Event → Conduct} {events : List Event}
    (mild : ∀ event ∈ events, (conduct event).isFatal = false) :
    events.filter (fun event => (conduct event).isSudden) = [] := by
  rw [List.filter_eq_nil_iff]
  intro event member sudden
  have fatal := isFatal_of_isSudden sudden
  rw [mild event member] at fatal
  cases fatal

end Conduct

/-! ### What a worker gets done -/

theorem Sink.outcome_frame (conduct : Event → Conduct) (index : Nat) (event : Event) :
    (Sink.outcome conduct index event).event = event ∧
      (Sink.outcome conduct index event).sink = index ∧
      (Sink.outcome conduct index event).isGiven = true ∧
      (Sink.outcome conduct index event).isFatal = (conduct event).isSudden := by
  cases sudden : (conduct event).isSudden with
  | true =>
      simp only [Sink.outcome, sudden, if_true]
      exact ⟨rfl, rfl, rfl, rfl⟩
  | false =>
      simp only [Sink.outcome, sudden, Bool.false_eq_true, if_false]
      split <;> exact ⟨rfl, rfl, rfl, rfl⟩

/-- A worker has got some events done in order, up to the first one over which its subscriber brings
it down. -/
structure Progress.Does (conduct : Event → Conduct) (index : Nat) (events : List Event)
    (progress : Progress) : Prop where
  order : progress.deliveries.map Delivery.event ++ progress.handling.toList ++ progress.left =
    events
  told : ∀ delivery ∈ progress.deliveries,
    delivery = Sink.outcome conduct index delivery.event
  exhausted : progress.handling = none → progress.isFallen = false → progress.left = []
  standing : progress.isFallen = false →
    ∀ delivery ∈ progress.deliveries, (conduct delivery.event).isFatal = false
  fallen : progress.isFallen = true → progress.handling = none ∧
    ∃ earlier last, progress.deliveries.map Delivery.event = earlier ++ [last] ∧
      (conduct last).isFatal = true ∧ ∀ event ∈ earlier, (conduct event).isFatal = false

namespace Progress.Does

variable {conduct : Event → Conduct} {index : Nat} {events : List Event} {progress : Progress}

theorem here (does : progress.Does conduct index events) :
    ∀ delivery ∈ progress.deliveries, delivery.sink = index ∧ delivery.isGiven = true := by
  intro delivery member
  rcases Sink.outcome_frame conduct index delivery.event with ⟨-, place, given, -⟩
  rw [← does.told delivery member] at place given
  exact ⟨place, given⟩

/-- What a worker got done of some events, told kind by kind. -/
theorem kinds (does : progress.Does conduct index events) :
    Delivery.events Delivery.isOffer index progress.deliveries = [] ∧
      Delivery.events Delivery.isAccepted index progress.deliveries = [] ∧
      Delivery.events Delivery.isRefused index progress.deliveries = [] ∧
      Delivery.events Delivery.isLost index progress.deliveries = [] ∧
      Delivery.events Delivery.isEnd index progress.deliveries =
        progress.deliveries.map Delivery.event ∧
      Delivery.events Delivery.isGiven index progress.deliveries =
        progress.deliveries.map Delivery.event := by
  have of (delivery : Delivery) (member : delivery ∈ progress.deliveries) :=
    Delivery.of_isGiven (does.here delivery member).2
  refine ⟨?_, ?_, ?_, ?_, ?_, Delivery.events_here _ _ does.here⟩
  · exact Delivery.events_otherKind _ _ fun delivery member => (of delivery member).1
  · exact Delivery.events_otherKind _ _ fun delivery member => (of delivery member).2.1
  · exact Delivery.events_otherKind _ _ fun delivery member => (of delivery member).2.2.1
  · exact Delivery.events_otherKind _ _ fun delivery member => (of delivery member).2.2.2.1
  · exact Delivery.events_here _ _ fun delivery member =>
      ⟨(does.here delivery member).1, (of delivery member).2.2.2.2⟩

end Progress.Does

namespace Sink

theorem process_does (conduct : Event → Conduct) (isOpen : String → Bool) (index : Nat)
    (events : List Event) :
    (process conduct isOpen index events).Does conduct index events := by
  induction events with
  | nil => exact ⟨rfl, by simp [process], fun _ _ => rfl, by simp [process], nofun⟩
  | cons event rest ih =>
      have same := (outcome_frame conduct index event).1
      cases free : (conduct event).gate?.all isOpen with
      | false =>
          simp only [process, free, Bool.false_eq_true, if_false]
          exact ⟨rfl, by simp, nofun, by simp, nofun⟩
      | true =>
          cases fatal : (conduct event).isFatal with
          | true =>
              simp only [process, free, fatal, if_true]
              refine ⟨by simp [same], by simp [same], fun _ => nofun, nofun, ?_⟩
              exact fun _ => ⟨rfl, [], event, by simp [same], fatal, by simp⟩
          | false =>
              simp only [process, free, fatal, if_true, Bool.false_eq_true, if_false]
              refine ⟨?_, ?_, ih.exhausted, ?_, ?_⟩
              · simpa [same] using ih.order
              · simpa [same] using ih.told
              · intro stands
                simpa [same, fatal] using ih.standing stands
              · intro falls
                rcases ih.fallen falls with ⟨unheld, earlier, last, split, isFatal, mild⟩
                refine ⟨unheld, event :: earlier, last, ?_, isFatal, ?_⟩
                · rw [List.map_cons, same, split, List.cons_append]
                · simpa [fatal] using mild

/-- What a sink does with an event that it is offered. -/
theorem offer_cases (sink : Sink) (index : Nat) (event : Event) :
    (sink.isFallen = true ∧ sink.offer index event = (sink, .refused index event)) ∨
      (sink.isFallen = false ∧ sink.queue.length < sink.capacity ∧
        sink.offer index event =
          ({ sink with queue := sink.queue ++ [event] }, .accepted index event)) ∨
      (sink.isFallen = false ∧ sink.capacity ≤ sink.queue.length ∧
        sink.offer index event = (sink, .missed index event)) := by
  cases fallen : sink.isFallen with
  | true => exact Or.inl ⟨rfl, by simp [offer, fallen]⟩
  | false =>
      by_cases room : sink.queue.length < sink.capacity
      · exact Or.inr (Or.inl ⟨rfl, room, by simp [offer, fallen, room]⟩)
      · exact Or.inr (Or.inr ⟨rfl, Nat.le_of_not_lt room, by simp [offer, fallen, room]⟩)

/-- An offer is told in one delivery. It leaves everything but the queue as it was. -/
theorem offer_frame (sink : Sink) (index : Nat) (event : Event) :
    (sink.offer index event).2.sink = index ∧ (sink.offer index event).2.event = event ∧
      (sink.offer index event).2.isOffer = true ∧
      (sink.offer index event).2.isRefused = sink.isFallen ∧
      ∃ queue, (sink.offer index event).1 = { sink with queue } := by
  rcases sink.offer_cases index event with
    ⟨fallen, offered⟩ | ⟨stands, -, offered⟩ | ⟨stands, -, offered⟩
  · exact offered ▸ ⟨rfl, rfl, rfl, fallen.symm, sink.queue, rfl⟩
  · exact offered ▸ ⟨rfl, rfl, rfl, stands.symm, _, rfl⟩
  · exact offered ▸ ⟨rfl, rfl, rfl, stands.symm, sink.queue, rfl⟩

/-- What a turn does to a worker that stands: it goes on, or goes down with all that waits. -/
inductive Works (sink : Sink) (index : Nat) : Sink × List Delivery → Prop where
  | goesOn (progress : Progress)
      (does : progress.Does sink.subscriber.conduct index
        (sink.handling.toList ++ sink.queue.take turnLimit))
      (stands : progress.isFallen = false) (isDone : Bool)
      (ends : isDone = true → sink.isClosed = true ∧ progress.handling = none ∧
        sink.queue.length < turnLimit) :
      Works sink index
        ({ sink with
            queue := progress.left ++ sink.queue.drop turnLimit
            handling := progress.handling
            isDone },
          progress.deliveries)
  | goesDown (progress : Progress)
      (does : progress.Does sink.subscriber.conduct index
        (sink.handling.toList ++ sink.queue.take turnLimit))
      (falls : progress.isFallen = true) :
      Works sink index
        ({ sink with queue := [], handling := none, isDone := true, isFallen := true },
          progress.deliveries ++
            (progress.left ++ sink.queue.drop turnLimit).map (.lost index))

theorem work_of_fallen {sink : Sink} (fallen : sink.isFallen = true) (isOpen : String → Bool)
    (index : Nat) : sink.work isOpen index = (sink, []) := by
  simp [work, fallen]

theorem work_works {sink : Sink} (stands : sink.isFallen = false) (isOpen : String → Bool)
    (index : Nat) : sink.Works index (sink.work isOpen index) := by
  have does := process_does sink.subscriber.conduct isOpen index
    (sink.handling.toList ++ sink.queue.take turnLimit)
  rw [work, if_neg (by simp [stands])]
  cases falls : (process sink.subscriber.conduct isOpen index
    (sink.handling.toList ++ sink.queue.take turnLimit)).isFallen with
  | true =>
      simp only [falls, if_true]
      exact .goesDown _ does falls
  | false =>
      simp only [falls, Bool.false_eq_true, if_false]
      exact .goesOn _ does falls _ (by simp [and_assoc])

/-! ### The ledger of a sink -/

/-- What a sink was given and what became of it. -/
structure Ledger (sink : Sink) (index : Nat) (given : List Event) (deliveries : List Delivery) :
    Prop where
  /-- Every event was accepted or turned away. -/
  offered : Delivery.events Delivery.isOffer index deliveries = given
  /-- What was accepted has left the sink, is being handled, or is in the queue. -/
  accepted : Delivery.events Delivery.isAccepted index deliveries =
    Delivery.events Delivery.isEnd index deliveries ++ sink.handling.toList ++ sink.queue
  bounded : sink.queue.length ≤ sink.capacity
  /-- What became of an event that was given to the subscriber is what the subscriber made of it. -/
  told : ∀ delivery ∈ deliveries, delivery.sink = index → delivery.isGiven = true →
    delivery = outcome sink.subscriber.conduct index delivery.event
  /-- The subscriber has not brought its worker down over any event so far. -/
  standing : sink.isFallen = false →
    Delivery.events Delivery.isRefused index deliveries = [] ∧
      Delivery.events Delivery.isLost index deliveries = [] ∧
      ∀ event ∈ Delivery.events Delivery.isGiven index deliveries,
        (sink.subscriber.conduct event).isFatal = false
  /-- The subscriber has brought its worker down over the last event that it was given. -/
  fallen : sink.isFallen = true → sink.queue = [] ∧ sink.handling = none ∧
    ∃ earlier last, Delivery.events Delivery.isGiven index deliveries = earlier ++ [last] ∧
      (sink.subscriber.conduct last).isFatal = true ∧
      ∀ event ∈ earlier, (sink.subscriber.conduct event).isFatal = false

variable {sink : Sink} {index : Nat} {given : List Event} {deliveries : List Delivery}

theorem Ledger.offer (ledger : sink.Ledger index given deliveries) (event : Event) :
    (sink.offer index event).1.Ledger index (given ++ [event])
      (deliveries ++ [(sink.offer index event).2]) := by
  rcases sink.offer_frame index event with ⟨place, same, offers, refused, queue, kept⟩
  rcases Delivery.of_isOffer offers with ⟨unended, ungiven, unlost⟩
  have one (kind : Delivery → Bool) := Delivery.events_singleton kind index place
  simp only [same] at one
  have offered : Delivery.events Delivery.isOffer index
      (deliveries ++ [(sink.offer index event).2]) = given ++ [event] := by
    simp [one, offers, ledger.offered]
  have subscriber : (sink.offer index event).1.subscriber = sink.subscriber := by rw [kept]
  have standing : (sink.offer index event).1.isFallen = sink.isFallen := by rw [kept]
  refine ⟨offered, ?_, ?_, ?_, ?_, ?_⟩
  · rw [Delivery.events_append, Delivery.events_append, one, one, unended, ledger.accepted]
    rcases sink.offer_cases index event with ⟨-, offer⟩ | ⟨-, -, offer⟩ | ⟨-, -, offer⟩ <;>
      simp [offer, Delivery.isAccepted]
  · rcases sink.offer_cases index event with ⟨-, offer⟩ | ⟨-, room, offer⟩ | ⟨-, -, offer⟩
    · exact offer ▸ ledger.bounded
    · rw [offer]
      simp only [List.length_append, List.length_singleton]
      exact room
    · exact offer ▸ ledger.bounded
  · rw [subscriber]
    intro delivery member here given
    rcases List.mem_append.mp member with before | now
    · exact ledger.told delivery before here given
    · rw [List.mem_singleton.mp now, ungiven] at given
      cases given
  · intro stands
    rw [standing] at stands
    simpa [one, refused, stands, unlost, ungiven, subscriber] using ledger.standing stands
  · intro fallen
    rw [standing] at fallen
    have unchanged : (sink.offer index event).1 = sink := by simp [Sink.offer, fallen]
    simpa [one, ungiven, unchanged] using ledger.fallen fallen

/-- A turn begins with the event at hand, and leaves what it does not come to in the queue. -/
theorem work_order {progress : Progress} (does : progress.Does sink.subscriber.conduct index
    (sink.handling.toList ++ sink.queue.take turnLimit)) :
    sink.handling.toList ++ sink.queue =
      progress.deliveries.map Delivery.event ++ progress.handling.toList ++
        (progress.left ++ sink.queue.drop turnLimit) := by
  rw [← List.append_assoc, does.order, List.append_assoc, List.take_append_drop]

/-- A worker that goes on has done what it was given, and its queue is no longer than it was. -/
theorem Ledger.goOn (ledger : sink.Ledger index given deliveries) (fallen : sink.isFallen = false)
    {progress : Progress} (does : progress.Does sink.subscriber.conduct index
      (sink.handling.toList ++ sink.queue.take turnLimit))
    (stands : progress.isFallen = false) (isDone : Bool) :
    Ledger
      { sink with
        queue := progress.left ++ sink.queue.drop turnLimit, handling := progress.handling, isDone }
      index given (deliveries ++ progress.deliveries) := by
  have order := work_order does
  rcases ledger.standing fallen with ⟨unrefused, unlost, mild⟩
  rcases does.kinds with ⟨offers, accepts, refuses, loses, ended, gives⟩
  refine ⟨?_, ?_, ?_, ?_, ?_, ?_⟩
  · rw [Delivery.events_append, ledger.offered, offers, List.append_nil]
  · rw [Delivery.events_append, Delivery.events_append, ledger.accepted, accepts, ended,
      List.append_nil, List.append_assoc, order]
    simp [List.append_assoc]
  · have bounded := ledger.bounded
    have sizes := congrArg List.length order
    have started : sink.handling.toList.length ≤ 1 := by cases sink.handling <;> simp
    simp only [List.length_append, List.length_map, capacity] at bounded sizes ⊢
    cases stuck : progress.handling with
    | none =>
        rw [does.exhausted stuck stands, List.length_nil, List.length_drop]
        omega
    | some event =>
        rw [stuck, Option.toList_some, List.length_singleton] at sizes
        omega
  · intro delivery member here given
    rcases List.mem_append.mp member with before | now
    · exact ledger.told delivery before here given
    · exact does.told delivery now
  · intro _
    refine ⟨?_, ?_, ?_⟩
    · rw [Delivery.events_append, unrefused, refuses, List.append_nil]
    · rw [Delivery.events_append, unlost, loses, List.append_nil]
    · rw [Delivery.events_append, gives]
      intro event member
      rcases List.mem_append.mp member with before | now
      · exact mild event before
      · rcases List.mem_map.mp now with ⟨delivery, told, rfl⟩
        exact does.standing stands delivery told
  · intro falls
    rw [fallen] at falls
    cases falls

/-- A worker that goes down takes everything with it that waits. -/
theorem Ledger.goDown (ledger : sink.Ledger index given deliveries) (fallen : sink.isFallen = false)
    {progress : Progress} (does : progress.Does sink.subscriber.conduct index
      (sink.handling.toList ++ sink.queue.take turnLimit))
    (falls : progress.isFallen = true) :
    Ledger { sink with queue := [], handling := none, isDone := true, isFallen := true } index
      given (deliveries ++ (progress.deliveries ++
        (progress.left ++ sink.queue.drop turnLimit).map (.lost index))) := by
  have order := work_order does
  rcases does.fallen falls with ⟨unheld, earlier, last, split, isFatal, mild⟩
  rcases does.kinds with ⟨offers, accepts, -, -, ended, gives⟩
  refine ⟨?_, ?_, Nat.zero_le _, ?_, nofun, ?_⟩
  · rw [Delivery.events_append, Delivery.events_append, ledger.offered, offers,
      Delivery.events_unlost _ _ fun _ => rfl, List.append_nil, List.append_nil]
  · rw [Delivery.events_append, Delivery.events_append, Delivery.events_append,
      Delivery.events_append, ledger.accepted, accepts, ended,
      Delivery.events_unlost _ _ fun _ => rfl, Delivery.events_lost _ _ fun _ => rfl,
      List.append_nil, List.append_nil, List.append_assoc, order, unheld]
    simp
  · intro delivery member here given
    rcases List.mem_append.mp member with before | now
    · exact ledger.told delivery before here given
    · rcases List.mem_append.mp now with done | lost
      · exact does.told delivery done
      · rcases List.mem_map.mp lost with ⟨event, -, rfl⟩
        cases given
  · intro _
    have before := (ledger.standing fallen).2.2
    refine ⟨rfl, rfl, Delivery.events Delivery.isGiven index deliveries ++ earlier, last, ?_,
      isFatal, ?_⟩
    · rw [Delivery.events_append, Delivery.events_append, gives, split,
        Delivery.events_unlost _ _ fun _ => rfl, List.append_nil, List.append_assoc]
    · intro event member
      rcases List.mem_append.mp member with given | now
      · exact before event given
      · exact mild event now

theorem Ledger.work (ledger : sink.Ledger index given deliveries) (isOpen : String → Bool) :
    (sink.work isOpen index).1.Ledger index given
      (deliveries ++ (sink.work isOpen index).2) := by
  cases fallen : sink.isFallen with
  | true => simpa [work_of_fallen fallen] using ledger
  | false =>
      have works := work_works fallen isOpen index
      generalize sink.work isOpen index = worked at works ⊢
      cases works with
      | goesOn progress does stands isDone ends => exact ledger.goOn fallen does stands isDone
      | goesDown progress does falls => exact ledger.goDown fallen does falls

/-- The subscriber of a sink has brought its worker down over an event that it was given. No other
event was given to it after that one, and none before it was like it. -/
structure Downfall (sink : Sink) (index : Nat) (given : List Event) (deliveries : List Delivery) :
    Prop where
  emptied : sink.queue = [] ∧ sink.handling = none
  partition : given.Perm
    (Delivery.events Delivery.isMissed index deliveries ++
      (Delivery.events Delivery.isHandled index deliveries ++
        Delivery.events Delivery.isPanicked index deliveries) ++
      (Delivery.events Delivery.isFatal index deliveries ++
        Delivery.events Delivery.isLost index deliveries) ++
      Delivery.events Delivery.isRefused index deliveries)
  cause : ∃ earlier last, Delivery.events Delivery.isGiven index deliveries = earlier ++ [last] ∧
    (sink.subscriber.conduct last).isFatal = true ∧
    (∀ event ∈ earlier, (sink.subscriber.conduct event).isFatal = false) ∧
    Delivery.events Delivery.isFatal index deliveries =
      if (sink.subscriber.conduct last).isSudden then [last] else []

/-- What became of the events that a sink was given, each of them in one way. -/
structure Account (sink : Sink) (index : Nat) (given : List Event) (deliveries : List Delivery) :
    Prop where
  /-- There are five ways as long as the worker stands. -/
  standing : sink.isFallen = false → given.Perm
    (Delivery.events Delivery.isMissed index deliveries ++
      (Delivery.events Delivery.isHandled index deliveries ++
        Delivery.events Delivery.isPanicked index deliveries) ++
      sink.handling.toList ++ sink.queue)
  /-- The worker stands unless the subscriber brings it down. -/
  stands : (∀ event ∈ given, (sink.subscriber.conduct event).isFatal = false) →
    sink.isFallen = false
  fallen : sink.isFallen = true → sink.Downfall index given deliveries
  queued : sink.queue.length ≤ max sink.subscriber.queueCapacity 1
  /-- Whether an event was handled or the subscriber panicked over it is up to the subscriber. -/
  told : ∀ delivery ∈ deliveries, delivery.sink = index → delivery.isGiven = true →
    delivery = outcome sink.subscriber.conduct index delivery.event
  /-- The subscriber gets the events in the order in which the sink was given them. -/
  ordered :
    (Delivery.events Delivery.isGiven index deliveries ++ sink.handling.toList).Sublist given

/-- The events that the subscriber never began to handle. -/
theorem Ledger.sudden (ledger : sink.Ledger index given deliveries) :
    Delivery.events Delivery.isFatal index deliveries =
      (Delivery.events Delivery.isGiven index deliveries).filter
        fun event => (sink.subscriber.conduct event).isSudden := by
  rw [Delivery.events, Delivery.events, List.filter_map, List.filter_filter]
  congr 1
  apply List.filter_congr
  intro delivery member
  by_cases here : delivery.sink = index
  · cases gives : delivery.isGiven with
    | true =>
        have sudden := (outcome_frame sink.subscriber.conduct index delivery.event).2.2.2
        rw [← ledger.told delivery member here gives] at sudden
        simp [here, sudden]
    | false =>
        have unfatal := (Bool.or_eq_false_iff.mp gives).2
        simp [unfatal]
  · simp [beq_eq_false_iff_ne.mpr here]

/-- Every event that a sink was given is told of in one way or another. -/
theorem Ledger.perm (ledger : sink.Ledger index given deliveries) : given.Perm
    (Delivery.events Delivery.isMissed index deliveries ++
        Delivery.events Delivery.isRefused index deliveries ++
      (Delivery.events Delivery.isHandled index deliveries ++
          Delivery.events Delivery.isPanicked index deliveries ++
        Delivery.events Delivery.isFatal index deliveries ++
        Delivery.events Delivery.isLost index deliveries) ++
      sink.handling.toList ++ sink.queue) := by
  have offers := Delivery.events_perm Delivery.isOffer index (fun _ => rfl)
    (fun delivery => by cases delivery <;> rfl) deliveries
  have turnedAway := Delivery.events_perm Delivery.isTurnedAway index (fun _ => rfl)
    (fun delivery => by cases delivery <;> rfl) deliveries
  have ends := Delivery.events_perm Delivery.isEnd index (fun _ => rfl)
    (fun delivery => by cases delivery <;> rfl) deliveries
  have gives := Delivery.events_perm Delivery.isGiven index (fun _ => rfl)
    (fun delivery => by cases delivery <;> rfl) deliveries
  have settles := Delivery.events_perm Delivery.isSettled index (fun _ => rfl)
    (fun delivery => by cases delivery <;> rfl) deliveries
  rw [ledger.offered, ledger.accepted] at offers
  -- The deliveries of each kind are counted for one event at a time.
  rw [List.perm_iff_count]
  intro event
  have counts := offers.count_eq event
  have := turnedAway.count_eq event
  have := ends.count_eq event
  have := gives.count_eq event
  have := settles.count_eq event
  simp only [List.count_append] at *
  omega

/-- The subscriber gets what the sink was given in order, but for what it does not get. -/
theorem Ledger.ordered (ledger : sink.Ledger index given deliveries) :
    (Delivery.events Delivery.isGiven index deliveries ++ sink.handling.toList).Sublist given := by
  have accepted := Delivery.events_sublist Delivery.isOffer index
    (fun delivery isAccepted => by rw [Delivery.isOffer, isAccepted, Bool.true_or] :
      ∀ delivery, Delivery.isAccepted delivery = true → Delivery.isOffer delivery = true)
    deliveries
  have gives := Delivery.events_sublist Delivery.isEnd index
    (fun delivery isGiven => by rw [Delivery.isEnd, isGiven, Bool.true_or] :
      ∀ delivery, Delivery.isGiven delivery = true → Delivery.isEnd delivery = true)
    deliveries
  rw [ledger.offered, ledger.accepted] at accepted
  exact (gives.append_right _).trans ((List.sublist_append_left _ _).trans accepted)

/-- No event was fatal as long as the worker stands, and only the last one is afterwards. -/
theorem Ledger.account (ledger : sink.Ledger index given deliveries) :
    sink.Account index given deliveries where
  standing := by
    intro stands
    rcases ledger.standing stands with ⟨unrefused, unlost, mild⟩
    have unfatal : Delivery.events Delivery.isFatal index deliveries = [] := by
      rw [ledger.sudden, Conduct.filter_isSudden mild]
    have whole := ledger.perm
    rwa [unrefused, unlost, unfatal, List.append_nil, List.append_nil, List.append_nil] at whole
  stands := by
    intro mild
    cases falls : sink.isFallen with
    | false => rfl
    | true =>
        rcases ledger.fallen falls with ⟨-, -, earlier, last, split, fatal, -⟩
        have among : last ∈ given := by
          apply ledger.ordered.subset
          simp [split]
        rw [mild last among] at fatal
        cases fatal
  fallen := by
    intro falls
    rcases ledger.fallen falls with ⟨emptied, unheld, earlier, last, split, fatal, mild⟩
    refine ⟨⟨emptied, unheld⟩, ?_, earlier, last, split, fatal, mild, ?_⟩
    · have whole := ledger.perm
      rw [emptied, unheld] at whole
      refine whole.trans ?_
      rw [List.perm_iff_count]
      intro event
      simp only [List.count_append, Option.toList_none, List.count_nil]
      omega
    · rw [ledger.sudden, split, List.filter_append, Conduct.filter_isSudden mild, List.nil_append,
        List.filter_cons, List.filter_nil]
  queued := ledger.bounded
  told := ledger.told
  ordered := ledger.ordered

end Sink

end Admission
