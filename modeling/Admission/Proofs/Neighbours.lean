import Admission.Proofs.Relay

/-!
# Sinks do not influence each other

The course of one sink is made of the events that it is offered and the turns of its worker. Both
are the only occasions on which anything happens to it, and what happens depends on nothing else:
not on how many other sinks there are, how long their queues are, what their subscribers do, or
when their workers have turns.

So the fates of the events at a sink are the same in any two runs that give it the same occasions in
the same order. The runs may differ in everything else.
-/

namespace Admission

/-- What became of an event at a sink, wherever the sink stands among the others. -/
inductive Fate where
  | accepted (event : Event)
  | missed (event : Event)
  | refused (event : Event)
  | handled (event : Event)
  | panicked (event : Event) (text : String)
  | fatal (event : Event)
  | lost (event : Event)

/-- Something that happens to a sink. -/
inductive Occasion where
  | offered (event : Event)
  /-- Its worker has a turn; the subscriber would not have to wait over the given events. -/
  | turn (isReady : Event → Bool)

/-- One step of a world that has sinks. -/
inductive FanoutStep where
  /-- Whoever holds the sinks emits an event to all of them. -/
  | emit (event : Event)
  | deed (deed : Deed)

namespace Delivery

def fate : Delivery → Fate
  | accepted _ event => .accepted event
  | missed _ event => .missed event
  | refused _ event => .refused event
  | handled _ event => .handled event
  | panicked _ event text => .panicked event text
  | fatal _ event => .fatal event
  | lost _ event => .lost event

/-- The fates of events at one sink. -/
def fatesAt (index : Nat) (deliveries : List Delivery) : List Fate :=
  (deliveries.filter fun delivery => delivery.sink == index).map fate

variable {index : Nat}

theorem fatesAt_append (deliveries more : List Delivery) :
    fatesAt index (deliveries ++ more) = fatesAt index deliveries ++ fatesAt index more := by
  simp [fatesAt]

theorem fatesAt_elsewhere {deliveries : List Delivery}
    (elsewhere : ∀ delivery ∈ deliveries, delivery.sink ≠ index) :
    fatesAt index deliveries = [] := by
  rw [fatesAt, List.map_eq_nil_iff, List.filter_eq_nil_iff]
  intro delivery member
  simp [elsewhere delivery member]

theorem fatesAt_here {deliveries : List Delivery}
    (here : ∀ delivery ∈ deliveries, delivery.sink = index) :
    fatesAt index deliveries = deliveries.map fate := by
  rw [fatesAt, List.filter_eq_self.mpr]
  intro delivery member
  simp [here delivery member]

end Delivery

namespace Sink

/-! ### The course of one sink -/

/-- Whether the subscriber would not have to wait over an event. -/
def isReady (sink : Sink) (isOpen : String → Bool) (event : Event) : Bool :=
  (sink.subscriber.conduct event).gate?.all isOpen

/-- What happens to a sink on an occasion, and the fates of the events that it is about. -/
inductive Meets (sink : Sink) : Occasion → Sink → List Fate → Prop where
  | offered (event : Event) :
      Meets sink (.offered event) (sink.offer 0 event).1 [(sink.offer 0 event).2.fate]
  | turn (isOpen : String → Bool) :
      Meets sink (.turn (sink.isReady isOpen)) (sink.work isOpen 0).1
        ((sink.work isOpen 0).2.map Delivery.fate)

/-- What happens to a sink on some occasions in order. -/
inductive Lives : Sink → List Occasion → Sink → List Fate → Prop where
  | nil (sink : Sink) : Lives sink [] sink []
  | cons {sink middle last : Sink} {occasion : Occasion} {occasions : List Occasion}
      {fates more : List Fate} (meets : sink.Meets occasion middle fates)
      (rest : Lives middle occasions last more) :
      Lives sink (occasion :: occasions) last (fates ++ more)

variable {sink middle last other : Sink} {occasion : Occasion} {occasions more : List Occasion}
  {fates fates' moreFates : List Fate}

theorem process_congr (conduct : Event → Conduct) {isOpen isOpen' : String → Bool} (index : Nat)
    (same : ∀ event, (conduct event).gate?.all isOpen = (conduct event).gate?.all isOpen')
    (events : List Event) :
    process conduct isOpen index events = process conduct isOpen' index events := by
  induction events with
  | nil => rfl
  | cons event rest ih => simp only [process, same, ih]

/-- What happens to a sink is settled by the occasion. -/
theorem Meets.unique (meets : sink.Meets occasion middle fates)
    (again : sink.Meets occasion other fates') : middle = other ∧ fates = fates' := by
  cases meets with
  | offered event =>
      cases again
      exact ⟨rfl, rfl⟩
  | turn isOpen =>
      generalize ready : sink.isReady isOpen = isReady at again
      cases again with
      | turn isOpen' =>
          have same := process_congr sink.subscriber.conduct 0 (congrFun ready)
          simp only [work, same, and_self]

theorem Lives.unique (lives : Lives sink occasions middle fates)
    (again : Lives sink occasions other fates') : middle = other ∧ fates = fates' := by
  induction lives generalizing fates' with
  | nil sink =>
      cases again
      exact ⟨rfl, rfl⟩
  | cons meets rest ih =>
      cases again with
      | cons meets' rest' =>
          obtain ⟨rfl, rfl⟩ := meets.unique meets'
          obtain ⟨rfl, rfl⟩ := ih rest'
          exact ⟨rfl, rfl⟩

theorem Lives.append (lives : Lives sink occasions middle fates)
    (rest : Lives middle more last moreFates) :
    Lives sink (occasions ++ more) last (fates ++ moreFates) := by
  induction lives with
  | nil sink => exact rest
  | cons meets _ ih =>
      rw [List.append_assoc]
      exact .cons meets (ih rest)

theorem Lives.single (meets : sink.Meets occasion last fates) :
    Lives sink [occasion] last fates := by
  have lives := Lives.cons meets (.nil last)
  rwa [List.append_nil] at lives

/-! ### Sinks that may be closed -/

/-- A sink as it was before it was closed: its worker can have ended only by going down. -/
def opened (sink : Sink) : Sink :=
  { sink with isClosed := false, isDone := sink.isFallen }

/-- What a sink does with an offer does not depend on where it stands or whether it is closed. -/
theorem offer_opened (sink : Sink) (index : Nat) (event : Event) :
    (sink.opened.offer 0 event).1 = (sink.offer index event).1.opened ∧
      (sink.opened.offer 0 event).2.fate = (sink.offer index event).2.fate := by
  cases fallen : sink.isFallen with
  | true => simp [offer, opened, fallen, Delivery.fate]
  | false =>
      by_cases room : sink.queue.length < max sink.subscriber.queueCapacity 1 <;>
        simp [offer, opened, capacity, fallen, room, Delivery.fate]

theorem offer_meets (sink : Sink) (index : Nat) (event : Event) :
    sink.opened.Meets (.offered event) (sink.offer index event).1.opened
      [(sink.offer index event).2.fate] := by
  rcases sink.offer_opened index event with ⟨state, fate⟩
  rw [← state, ← fate]
  exact .offered event

theorem outcome_fate (conduct : Event → Conduct) (index : Nat) (event : Event) :
    (outcome conduct 0 event).fate = (outcome conduct index event).fate := by
  simp only [outcome]
  split
  · rfl
  · split <;> rfl

/-- Where a sink stands among the others makes no difference. -/
theorem process_place (conduct : Event → Conduct) (isOpen : String → Bool) (index : Nat)
    (events : List Event) :
    ∃ deliveries, process conduct isOpen 0 events =
        { process conduct isOpen index events with deliveries } ∧
      deliveries.map Delivery.fate =
        (process conduct isOpen index events).deliveries.map Delivery.fate := by
  induction events with
  | nil => exact ⟨[], rfl, rfl⟩
  | cons event rest ih =>
      rcases ih with ⟨later, same, fates⟩
      have outcomes := outcome_fate conduct index event
      cases free : (conduct event).gate?.all isOpen with
      | false =>
          simp only [process, free, Bool.false_eq_true, if_false]
          exact ⟨[], rfl, rfl⟩
      | true =>
          cases fatal : (conduct event).isFatal with
          | true =>
              simp only [process, free, fatal, if_true]
              exact ⟨[outcome conduct 0 event], rfl, by simp [outcomes]⟩
          | false =>
              simp only [process, free, fatal, if_true, Bool.false_eq_true, if_false, same]
              exact ⟨outcome conduct 0 event :: later, rfl, by simp [outcomes, fates]⟩

theorem work_opened (sink : Sink) (isOpen : String → Bool) (index : Nat) :
    (sink.opened.work isOpen 0).1 = (sink.work isOpen index).1.opened ∧
      (sink.opened.work isOpen 0).2.map Delivery.fate =
        (sink.work isOpen index).2.map Delivery.fate := by
  rcases process_place sink.subscriber.conduct isOpen index
    (sink.handling.toList ++ sink.queue.take turnLimit) with ⟨deliveries, same, fates⟩
  have unplaced : Delivery.fate ∘ Delivery.lost 0 = Delivery.fate ∘ Delivery.lost index := rfl
  cases fallen : sink.isFallen with
  | true => simp [work, opened, fallen]
  | false =>
      simp only [work, opened, same, fallen, Bool.false_eq_true, if_false]
      split
      · simp [fates, unplaced]
      · simp [fates]

theorem work_meets (sink : Sink) (isOpen : String → Bool) (index : Nat) :
    sink.opened.Meets (.turn (sink.isReady isOpen)) (sink.work isOpen index).1.opened
      ((sink.work isOpen index).2.map Delivery.fate) := by
  rcases sink.work_opened isOpen index with ⟨state, fates⟩
  rw [← state, ← fates]
  exact .turn isOpen

end Sink

namespace World

/-! ### Runs of a world with sinks -/

def undertake (world : World) : FanoutStep → World
  | .emit event => world.emit event
  | .deed deed => world.perform deed

def undertakeAll (world : World) (steps : List FanoutStep) : World :=
  steps.foldl undertake world

/-- What becomes of events at the sinks in a step. -/
def deliveriesIn (world : World) : FanoutStep → List Delivery
  | .emit event => (offerAll event 0 world.sinks).2
  | .deed (.turn .listener) => deliveriesOf world.sinks world.receptions
  | .deed (.turn (.worker sink)) => world.deliveriesBy sink
  | .deed _ => []

def delivered : World → List FanoutStep → List Delivery
  | _, [] => []
  | world, step :: rest => world.deliveriesIn step ++ delivered (world.undertake step) rest

/-- What happens to one sink in a step. -/
def occasionsIn (index : Nat) (world : World) : FanoutStep → List Occasion
  | .emit event => [.offered event]
  | .deed (.turn .listener) => (Reception.events world.receptions).map .offered
  | .deed (.turn (.worker sink)) =>
      if sink = index then
        (world.sinks[index]?.map fun sink => .turn (sink.isReady world.system.isOpen)).toList
      else []
  | .deed _ => []

/-- What happens to one sink in a run, in order. -/
def occasions (index : Nat) : World → List FanoutStep → List Occasion
  | _, [] => []
  | world, step :: rest =>
      world.occasionsIn index step ++ occasions index (world.undertake step) rest

/-- What a sink has met when a world has come so far. -/
def Meets (index : Nat) (sink : Sink) (occasions : List Occasion) (fates : List Fate)
    (world : World) : Prop :=
  ∃ last, world.sinks[index]? = some last ∧
    Sink.Lives sink.opened occasions last.opened fates

section Steps

variable {world next : World} {index : Nat} {sink : Sink}

theorem Meets.trans {first rest : List Occasion} {fates more : List Fate}
    (meets : Meets index sink first fates world)
    (later : ∀ middle, world.sinks[index]? = some middle → Meets index middle rest more next) :
    Meets index sink (first ++ rest) (fates ++ more) next := by
  rcases meets with ⟨middle, found, lives⟩
  rcases later middle found with ⟨last, foundLast, livesOn⟩
  exact ⟨last, foundLast, lives.append livesOn⟩

theorem Meets.of_eq (found : world.sinks[index]? = some sink) (same : next.sinks = world.sinks) :
    Meets index sink [] [] next :=
  ⟨sink, by rw [same, found], .nil sink.opened⟩

/-- Sinks that are closed meet nothing new. -/
theorem Meets.beginClosing {occasions : List Occasion} {fates : List Fate}
    (meets : Meets index sink occasions fates world) :
    Meets index sink occasions fates world.beginClosing := by
  cases closing : world.isClosing with
  | true => simpa [World.beginClosing, closing] using meets
  | false =>
      rcases world.beginClosing_eq closing with ⟨scheduler, closed⟩
      rcases meets with ⟨last, found, lives⟩
      exact ⟨{ last with isClosed := true }, by simp [closed, found], lives⟩

theorem Meets.awaitWorkers {occasions : List Occasion} {fates : List Fate}
    (meets : Meets index sink occasions fates world) (actor : Actor) :
    Meets index sink occasions fates (world.awaitWorkers actor) := by
  have same : (world.awaitWorkers actor).sinks = world.sinks := by
    simp only [World.awaitWorkers]
    split <;> rfl
  rwa [Meets, same]

/-- All sinks are offered an event, whatever becomes of it at the others. -/
theorem Meets.of_emit (found : world.sinks[index]? = some sink) (event : Event) :
    Meets index sink [.offered event]
      (Delivery.fatesAt index (offerAll event 0 world.sinks).2) (world.emit event) := by
  have sinks : (world.emit event).sinks = (offerAll event 0 world.sinks).1 :=
    (world.hear_cases (.event event)).1
  have own := offerAll_filter event 0 index world.sinks
  have offered := offerAll_getElem? event 0 index world.sinks
  rw [Nat.zero_add, found] at own offered
  refine ⟨(sink.offer index event).1, by rw [sinks, offered]; rfl, ?_⟩
  rw [Delivery.fatesAt, own]
  exact .single (sink.offer_meets index event)

theorem Meets.of_hearAll (found : world.sinks[index]? = some sink) (heard : List Reception) :
    Meets index sink ((Reception.events heard).map .offered)
      (Delivery.fatesAt index (deliveriesOf world.sinks heard)) (heard.foldl World.hear world) := by
  induction heard generalizing world sink with
  | nil => exact .of_eq found rfl
  | cons reception rest ih =>
      have after := (world.hear_cases reception).1
      have goOn (middle : Sink) (present : (world.hear reception).sinks[index]? = some middle) :
          Meets index middle ((Reception.events rest).map .offered)
            (Delivery.fatesAt index (deliveriesOf (offerHeard world.sinks reception).1 rest))
            (rest.foldl World.hear (world.hear reception)) := by
        rw [← after]
        exact ih present
      rw [deliveriesOf, Delivery.fatesAt_append, List.foldl_cons]
      cases reception with
      | event event => exact (Meets.of_emit found event).trans goOn
      | lagged missed | empty | closed => exact (Meets.of_eq found after).trans goOn

theorem Meets.of_listen (found : world.sinks[index]? = some sink) :
    Meets index sink ((Reception.events world.receptions).map .offered)
      (Delivery.fatesAt index (deliveriesOf world.sinks world.receptions))
      (world.turn .listener) := by
  cases closing : world.isClosing with
  | true =>
      have nothing : world.receptions = [] := by simp [receptions, closing]
      rw [nothing]
      simp only [World.turn, closing, if_true]
      exact (Meets.of_eq found rfl).awaitWorkers _
  | false =>
      have heard : Meets index sink ((Reception.events world.receptions).map .offered)
          (Delivery.fatesAt index (deliveriesOf world.sinks world.receptions)) world.heard := by
        have present : ({ world with
            position := (world.firstBus.take turnLimit world.position).2 } : World).sinks[index]? =
              some sink := found
        exact .of_hearAll present world.receptions
      simp only [World.turn, closing, Bool.false_eq_true, if_false]
      by_cases present : 0 < world.buses.size
      · rcases listen_cases present closing with ⟨scheduler, listens⟩ | ⟨-, -, listens⟩
        · rw [listens]
          exact heard
        · rw [listens]
          exact heard.beginClosing.awaitWorkers _
      · have absent : world.buses[0]? = none := Array.getElem?_eq_none (by omega)
        have nothing : world.receptions = [] := by simp [receptions, closing, absent]
        have same : world.listen = world := by simp [World.listen, absent]
        rw [nothing, same]
        exact .of_eq found rfl

/-- A worker has a turn, of this sink or of another. -/
theorem Meets.of_work (found : world.sinks[index]? = some sink) (worker : Nat) :
    Meets index sink (world.occasionsIn index (.deed (.turn (.worker worker))))
      (Delivery.fatesAt index (world.deliveriesBy worker)) (world.work worker) := by
  by_cases own : worker = index
  · subst own
    have inside := (List.getElem?_eq_some_iff.mp found).1
    have told := Delivery.fatesAt_here fun delivery member =>
      (sink.work_place world.system.isOpen worker delivery member).1
    simp only [occasionsIn, deliveriesBy, found, if_true, Option.map_some, Option.toList_some,
      Option.getD_some, told]
    refine ⟨(sink.work world.system.isOpen worker).1, ?_,
      .single (sink.work_meets world.system.isOpen worker)⟩
    rw [(world.work_cases found).1, List.getElem?_set_self inside]
  · simp only [occasionsIn, own, if_false]
    cases other : world.sinks[worker]? with
    | none =>
        have same : world.work worker = world := by simp [World.work, other]
        rw [same]
        simp only [deliveriesBy, other]
        exact .of_eq found rfl
    | some neighbour =>
        have elsewhere : Delivery.fatesAt index (world.deliveriesBy worker) = [] := by
          simp only [deliveriesBy, other, Option.map_some, Option.getD_some]
          apply Delivery.fatesAt_elsewhere
          intro delivery member
          rw [(neighbour.work_place world.system.isOpen worker delivery member).1]
          exact own
        rw [elsewhere]
        refine ⟨sink, ?_, .nil sink.opened⟩
        rw [(world.work_cases other).1, List.getElem?_set_ne own, found]

/-- What a sink meets in a step. -/
theorem Meets.of_undertake (found : world.sinks[index]? = some sink) (step : FanoutStep) :
    Meets index sink (world.occasionsIn index step)
      (Delivery.fatesAt index (world.deliveriesIn step)) (world.undertake step) := by
  cases step with
  | emit event => exact .of_emit found event
  | deed deed =>
      cases deed with
      | turn actor =>
          cases actor with
          | task task =>
              refine .of_eq found ?_
              simp [undertake, World.perform, World.turn, turnTask, park]
          | listener => exact .of_listen found
          | worker worker => exact .of_work found worker
          | closer => exact (Meets.of_eq found rfl).beginClosing.awaitWorkers _
      | call move => exact .of_eq found (withSystem_frame world _).2.2.1
      | publish place event => exact .of_eq found (passOn_frame world _).2.2.1
      | release => exact .of_eq found (closeBuses_frame _).2.2.1

/-- What a sink meets in a run. -/
theorem Meets.of_undertakeAll (found : world.sinks[index]? = some sink)
    (steps : List FanoutStep) :
    Meets index sink (occasions index world steps)
      (Delivery.fatesAt index (delivered world steps)) (world.undertakeAll steps) := by
  induction steps generalizing world sink with
  | nil => exact .of_eq found rfl
  | cons step rest ih =>
      rw [delivered, Delivery.fatesAt_append]
      exact (Meets.of_undertake found step).trans fun middle present => ih present

end Steps

/-- What is left of a sink: what it still has to do, and whether its worker stands. -/
def leftAt (world : World) (index : Nat) : Option (List Event × Option Event × Bool) :=
  world.sinks[index]?.map fun sink => (sink.queue, sink.handling, sink.isFallen)

/-- Two runs give a sink the same fate: it accepts, turns away, handles, loses and panics over the
same events in the same order, and is left with the same events. -/
structure SameFate (index other : Nat) (one two : World) (steps others : List FanoutStep) : Prop
    where
  fates : Delivery.fatesAt index (delivered one steps) =
    Delivery.fatesAt other (delivered two others)
  left : (one.undertakeAll steps).leftAt index = (two.undertakeAll others).leftAt other

/-- A sink that is offered the same events and whose worker has the same turns in the same order
shares its fate in any two runs. The other sinks may differ in number and in everything else, and
may have turns whenever they like. -/
theorem sameFate_of_occasions (one two : World) (steps others : List FanoutStep)
    (index other : Nat) (sink : Sink) (first : one.sinks[index]? = some sink)
    (second : two.sinks[other]? = some sink)
    (same : occasions index one steps = occasions other two others) :
    SameFate index other one two steps others := by
  rcases Meets.of_undertakeAll first steps with ⟨last, found, lives⟩
  rcases Meets.of_undertakeAll second others with ⟨last', found', lives'⟩
  rw [← same] at lives'
  rcases lives.unique lives' with ⟨alike, fates⟩
  refine ⟨fates, ?_⟩
  have contents :=
    congrArg (fun sink : Sink => some (sink.queue, sink.handling, sink.isFallen)) alike
  rw [leftAt, leftAt, found, found']
  exact contents

/-- A subscriber that panics over each claimed token and brings its worker down over each returned
one, and for which one event may wait. -/
def nervous : Subscriber where
  name := "nervous"
  queueCapacity := 1
  conduct event :=
    match event.kind with
    | .tokenAcquired => .panics "too late"
    | .tokenReturned => .collapses
    | _ => .completes

/-- A set in which the subscriber stands alone. -/
def alone : World :=
  { sinks := [{ subscriber := nervous }] }

/-- A set in which others come first: one waits for ever, one panics over everything, and one brings
its worker down over the first event. -/
def crowded : World :=
  { sinks :=
      [{ subscriber := { name := "stuck", conduct := fun _ => .waitsFor "never" } },
        { subscriber :=
            { name := "broken", queueCapacity := 3, conduct := fun _ => .panics "no" } },
        { subscriber := { name := "fragile", conduct := fun _ => .fells .completes } },
        { subscriber := nervous }] }

/-- The subscriber accepts and handles one event, misses the next one, panics over the third, and
brings its worker down over the fourth. -/
def quiet : List FanoutStep :=
  [.emit { kind := .jobStale, sequence := 1 }, .emit { kind := .jobStale, sequence := 2 },
    .deed (.turn (.worker 0)), .emit { kind := .tokenAcquired, sequence := 3 },
    .deed (.turn (.worker 0)), .emit { kind := .tokenReturned, sequence := 4 },
    .deed (.turn (.worker 0)), .emit { kind := .jobStale, sequence := 5 }]

def busy : List FanoutStep :=
  [.deed (.turn (.worker 1)), .emit { kind := .jobStale, sequence := 1 },
    .deed (.turn (.worker 0)), .deed (.turn (.worker 1)), .deed (.turn (.worker 2)),
    .emit { kind := .jobStale, sequence := 2 }, .deed (.turn (.worker 3)),
    .emit { kind := .tokenAcquired, sequence := 3 }, .deed (.turn (.worker 0)),
    .deed (.turn (.worker 3)), .deed (.turn (.worker 1)),
    .emit { kind := .tokenReturned, sequence := 4 }, .deed (.turn (.worker 2)),
    .deed (.turn (.worker 3)), .emit { kind := .jobStale, sequence := 5 }]

theorem sameFate_crowded :
    SameFate 0 3 alone crowded quiet busy ∧
      Delivery.fatesAt 3 (delivered crowded busy) =
        [.accepted { kind := .jobStale, sequence := 1 },
          .missed { kind := .jobStale, sequence := 2 },
          .handled { kind := .jobStale, sequence := 1 },
          .accepted { kind := .tokenAcquired, sequence := 3 },
          .panicked { kind := .tokenAcquired, sequence := 3 } "too late",
          .accepted { kind := .tokenReturned, sequence := 4 },
          .fatal { kind := .tokenReturned, sequence := 4 },
          .refused { kind := .jobStale, sequence := 5 }] ∧
      Delivery.fatesAt 2 (delivered crowded busy) =
        [.accepted { kind := .jobStale, sequence := 1 },
          .handled { kind := .jobStale, sequence := 1 },
          .refused { kind := .jobStale, sequence := 2 },
          .refused { kind := .tokenAcquired, sequence := 3 },
          .refused { kind := .tokenReturned, sequence := 4 },
          .refused { kind := .jobStale, sequence := 5 }] :=
  ⟨sameFate_of_occasions alone crowded quiet busy 0 3 _ rfl rfl rfl, rfl, rfl⟩

end World

end Admission
