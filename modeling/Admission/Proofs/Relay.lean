import Admission.Proofs.Accounts
import Admission.Proofs.Notes
import Admission.Scenario.Setup

/-!
# Relays

A relay passes the events of a bus to the sinks of some subscribers until the last handle on the bus
is dropped. Some handles are held from outside, the others by the tasks of the limiters. In a run
of a relay, events are published, the limiters act, handles come and go, the listener and the
workers have turns, and all of this happens in any order.

What holds along a run is kept by each step: the accounts of the sinks, where the listener stands on
the bus, and when the sinks are closed.
-/

namespace Admission

namespace World

/-- The first bus; without one, it is a bus that is closed and empty. -/
def firstBus (world : World) : Bus :=
  (world.buses[0]?).getD { capacity := 0, isClosed := true }

theorem logAt_zero {world : World} (present : 0 < world.buses.size) :
    world.logAt 0 = some world.firstBus.log.toList := by
  simp [logAt, firstBus, present]

theorem passOn_faults (world : World) {notice : Notice} (plain : notice.isPlain = true) :
    (world.passOn notice).faults = world.faults := by
  cases notice with
  | logged record =>
      rw [passOn, faults_log, if_neg, List.append_nil]
      simpa [Notice.isPlain] using plain
  | _ => rfl

/-- A bus that is published on keeps its capacity, and is as open as it was. -/
theorem passOn_firstBus (world : World) (notice : Notice) :
    (world.passOn notice).firstBus.capacity = world.firstBus.capacity ∧
      (world.passOn notice).firstBus.isClosed = world.firstBus.isClosed := by
  cases notice with
  | published place event =>
      cases present : world.buses[0]? with
      | none => simp [passOn, tell, firstBus, Array.getElem?_modify, present]
      | some bus =>
          by_cases first : place = 0 <;>
            simp [passOn, tell, firstBus, Array.getElem?_modify, present, first, Bus.publish]
  | _ => exact ⟨rfl, rfl⟩

theorem closeBuses_log (world : World) : world.closeBuses.firstBus.log = world.firstBus.log := by
  simp only [closeBuses]
  split
  · rfl
  · cases present : world.buses[0]? <;> simp [tell, firstBus, present, Bus.close]

/-- The world goes on to another one in which some more events are published on the first bus. Only
a bus that nobody holds from outside can be closed by that. -/
structure Fed (world next : World) (news : List Event) : Prop where
  sinks : next.sinks = world.sinks
  roles : next.roles = world.roles
  kept : next.kept = world.kept
  position : next.position = world.position
  isClosing : next.isClosing = world.isClosing
  isHeld : next.isHeld = world.isHeld
  faults : next.faults = world.faults
  present : next.buses.size = world.buses.size
  log : next.logAt 0 = (world.logAt 0).map (· ++ news)
  capacity : next.firstBus.capacity = world.firstBus.capacity
  stays : world.firstBus.isClosed = true → next.firstBus.isClosed = true
  closed : next.firstBus.isClosed = true → world.firstBus.isClosed = true ∨ world.isHeld = false

namespace Fed

variable {world middle next : World} {news more : List Event}

theorem refl (world : World) : world.Fed world [] where
  sinks := rfl
  roles := rfl
  kept := rfl
  position := rfl
  isClosing := rfl
  isHeld := rfl
  faults := rfl
  present := rfl
  log := by cases world.logAt 0 <;> simp
  capacity := rfl
  stays := id
  closed := Or.inl

theorem trans (first : world.Fed middle news) (second : middle.Fed next more) :
    world.Fed next (news ++ more) where
  sinks := second.sinks.trans first.sinks
  roles := second.roles.trans first.roles
  kept := second.kept.trans first.kept
  position := second.position.trans first.position
  isClosing := second.isClosing.trans first.isClosing
  isHeld := second.isHeld.trans first.isHeld
  faults := second.faults.trans first.faults
  present := second.present.trans first.present
  log := by
    rw [second.log, first.log]
    cases world.logAt 0 <;> simp
  capacity := second.capacity.trans first.capacity
  stays := fun closed => second.stays (first.stays closed)
  closed := by
    intro closed
    rcases second.closed closed with before | unheld
    · exact first.closed before
    · exact Or.inr (first.isHeld ▸ unheld)

theorem passOn (world : World) {notice : Notice} (plain : notice.isPlain = true) :
    world.Fed (world.passOn notice) (Notice.publishedAt 0 [notice]) where
  sinks := by simp
  roles := by simp
  kept := by cases notice <;> rfl
  position := by simp
  isClosing := by simp
  isHeld := by simp
  faults := passOn_faults world plain
  present := by simp
  log := passOn_logAt world notice 0
  capacity := (passOn_firstBus world notice).1
  stays := by simp [passOn_firstBus]
  closed := by
    rw [(passOn_firstBus world notice).2]
    exact Or.inl

theorem passOnAll (world : World) {notices : List Notice}
    (plain : notices.all Notice.isPlain = true) :
    world.Fed (world.passOnAll notices) (Notice.publishedAt 0 notices) := by
  induction notices generalizing world with
  | nil => exact refl world
  | cons notice rest ih =>
      rw [List.all_cons, Bool.and_eq_true] at plain
      rw [passOnAll_cons, Notice.publishedAt_cons]
      exact (passOn world plain.1).trans (ih _ plain.2)

theorem closeBuses (world : World) : world.Fed world.closeBuses [] := by
  cases held : world.isHeld || world.system.tasks.any holdsLimiter with
  | true => simpa [World.closeBuses, held] using refl world
  | false =>
      rw [Bool.or_eq_false_iff] at held
      refine ⟨by simp, by simp, ?_, by simp, by simp, by simp, ?_, by simp, ?_, ?_, ?_,
        fun _ => Or.inr held.1⟩
      · simp [World.closeBuses, held, tell]
      · rw [World.faults, (closeBuses_frame world).2.2.2.2.2.2.2.1, World.faults]
      · rw [closeBuses_logAt]
        cases world.logAt 0 <;> simp
      · cases present : world.buses[0]? <;>
          simp [World.closeBuses, held, tell, firstBus, present, Bus.close]
      · intro _
        cases present : world.buses[0]? <;>
          simp [World.closeBuses, held, tell, firstBus, present, Bus.close]

/-- The events that a world publishes when it takes over a system that went on from its own are
those that were noted. -/
theorem withSystem {system : System} (caughtUp : world.passedOn = world.system.history.size)
    {noted : List Notice} (extended : Notice.Extend world.system.history
      world.system.eventsMade system.history system.eventsMade noted) :
    world.Fed (world.withSystem system) (Notice.publishedAt 0 noted) := by
  have fresh : system.history.toList.drop world.passedOn = noted := by
    rw [extended.history, caughtUp, ← Array.length_toList, List.drop_left]
  rw [withSystem_eq, fresh]
  have taken : world.Fed { world with system, passedOn := system.history.size } [] := by
    refine ⟨rfl, rfl, rfl, rfl, rfl, rfl, rfl, rfl, ?_, rfl, id, Or.inl⟩
    exact (refl world).log
  exact taken.trans (passOnAll _ extended.plain)

/-- Who is to have the next turn does not matter. -/
theorem scheduled (world : World) (scheduler : Scheduler Actor) :
    world.Fed { world with scheduler } [] := by
  refine ⟨rfl, rfl, rfl, rfl, rfl, rfl, rfl, rfl, ?_, rfl, id, Or.inl⟩
  exact (refl world).log

theorem turnTask (caughtUp : world.passedOn = world.system.history.size) (index : Nat)
    {noted : List Notice} (extended : Notice.Extend world.system.history
      world.system.eventsMade (world.system.turn index).history
      (world.system.turn index).eventsMade noted) :
    world.Fed (world.turnTask index) (Notice.publishedAt 0 noted) := by
  have whole : Notice.publishedAt 0 noted = [] ++ Notice.publishedAt 0 noted ++ [] ++ [] := by simp
  rw [whole]
  simp only [World.turnTask, park]
  refine trans (trans (trans (scheduled world _) (withSystem ?_ ?_)) (scheduled _ _)) (closeBuses _)
  · exact caughtUp
  · exact extended

theorem log_eq (fed : world.Fed next news) (present : 0 < world.buses.size) :
    next.firstBus.log.toList = world.firstBus.log.toList ++ news := by
  have grown := fed.log
  rw [logAt_zero present, logAt_zero (fed.present ▸ present)] at grown
  exact Option.some.inj grown

end Fed

/-- A move of a system, as a deed of its world. -/
def deed : Move → Deed
  | .turn index => .turn (.task index)
  | move => .call move

theorem deed_system (world : World) (move : Move) :
    (world.perform (deed move)).system = world.system.perform move := by
  cases move <;> exact perform_system _ _

/-- Whatever a move notes is passed on. -/
theorem deed_fed {world : World} (caughtUp : world.passedOn = world.system.history.size)
    (move : Move) :
    ∃ noted, Notice.Extend world.system.history world.system.eventsMade
        (world.system.perform move).history (world.system.perform move).eventsMade noted ∧
      world.Fed (world.perform (deed move)) (Notice.publishedAt 0 noted) ∧
      (world.perform (deed move)).passedOn = (world.perform (deed move)).system.history.size := by
  rcases world.system.perform_noted move with ⟨noted, extended⟩
  refine ⟨noted, extended, ?_⟩
  cases move with
  | turn index =>
      refine ⟨Fed.turnTask caughtUp index extended, ?_⟩
      simp [deed, perform, World.turn, turnTask, park]
  | _ =>
      refine ⟨Fed.withSystem caughtUp extended, ?_⟩
      simp [deed, perform]

/-- What the listener gets if it has a turn. -/
def receptions (world : World) : List Reception :=
  if world.isClosing then []
  else ((world.buses[0]?).map fun bus => (bus.take turnLimit world.position).1).getD []

/-- The world once the listener has heard what there was, before it waits or goes on. -/
def heard (world : World) : World :=
  world.receptions.foldl hear
    { world with position := (world.firstBus.take turnLimit world.position).2 }

theorem receptions_eq {world : World} (present : 0 < world.buses.size)
    (unclosed : world.isClosing = false) :
    world.receptions = (world.firstBus.take turnLimit world.position).1 := by
  simp [receptions, firstBus, unclosed, present]

theorem heard_leavesAlone (world : World) : world.LeavesAlone world.heard := by
  refine LeavesAlone.foldl LeavesAlone.hear ?_ _
  exact ⟨rfl, rfl, rfl, rfl⟩

theorem heard_firstBus (world : World) : world.heard.firstBus = world.firstBus := by
  rw [firstBus, world.heard_leavesAlone.buses, firstBus]

theorem heard_cases {world : World}
    (opened : ∀ sink ∈ world.sinks, sink.isClosed = false ∧ sink.Sound) :
    world.heard.position = (world.firstBus.take turnLimit world.position).2 ∧
      world.heard.isClosing = world.isClosing ∧
      ∀ sink ∈ world.heard.sinks, sink.isClosed = false ∧ sink.Sound :=
  hearAll_cases { world with position := (world.firstBus.take turnLimit world.position).2 } opened
    world.receptions

/-- A listener that has heard all that there was on a closed bus closes the sinks. -/
theorem listen_cases {world : World} (present : 0 < world.buses.size)
    (unclosed : world.isClosing = false) :
    (∃ scheduler, world.listen = { world.heard with scheduler }) ∨
      (world.receptions.length < turnLimit ∧ world.firstBus.isClosed = true ∧
        world.listen = world.heard.beginClosing.awaitWorkers .listener) := by
  have bus : world.buses[0]? = some world.firstBus := by simp [firstBus, present]
  simp only [listen, bus, heard, receptions_eq present unclosed]
  split
  · exact Or.inl ⟨_, rfl⟩
  · rename_i fewer
    split
    · rename_i closed
      exact Or.inr ⟨by omega, closed, rfl⟩
    · exact Or.inl ⟨_, rfl⟩

end World

/-- One step of a relay. -/
inductive RelayStep where
  /-- Somebody who holds the bus publishes an event of its own. -/
  | publish (event : Event)
  /-- A limiter or a reconciler acts, or something happens around them. -/
  | act (move : Move)
  | cloneBus
  | dropBus
  /-- A gate is opened at which a subscriber may wait. -/
  | openGate (gate : String)
  | listen
  | work (sink : Nat)

/-- A world whose first bus is relayed to the sinks. -/
structure Relay where
  world : World
  /-- How many handles on the bus are held from outside. -/
  handles : Nat

namespace Relay

/-- A relay that has just begun: the listener has subscribed to a bus, on which some events may have
been published before, and the sinks are fresh. -/
def opening (system : System) (capacity : Nat) (log : Array Event) (others : List Bus)
    (subscribers : List (Subscriber × Role)) (handles : Nat) : Relay where
  world :=
    (Session.withSinks
      { world :=
          { system, buses := ({ capacity, log } :: others).toArray, position := log.size
            registries := (subscribers.map fun entry => Session.registryOf entry.2).toArray
            passedOn := system.history.size } } subscribers).world
  handles := handles + 1

theorem opening_eq (system : System) (capacity : Nat) (log : Array Event) (others : List Bus)
    (subscribers : List (Subscriber × Role)) (handles : Nat) :
    ∃ scheduler, opening system capacity log others subscribers handles =
      { world :=
          { system, scheduler, buses := ({ capacity, log } :: others).toArray
            sinks := subscribers.map fun entry => { subscriber := entry.1 }
            roles := (subscribers.map (·.2)).toArray, position := log.size
            registries := (subscribers.map fun entry => Session.registryOf entry.2).toArray
            passedOn := system.history.size }
        handles := handles + 1 } := by
  rcases World.foldl_scheduler
    { system, buses := ({ capacity, log } :: others).toArray
      sinks := subscribers.map fun entry => { subscriber := entry.1 }
      roles := (subscribers.map (·.2)).toArray, position := log.size
      registries := (subscribers.map fun entry => Session.registryOf entry.2).toArray
      passedOn := system.history.size }
    (fun world index => world.wake (.worker index)) (fun world index => ⟨_, rfl⟩)
    (List.range subscribers.length) with ⟨scheduler, woken⟩
  exact ⟨scheduler, congrArg (fun world => Relay.mk world (handles + 1)) woken⟩

variable (relay : Relay)

def perform : RelayStep → Relay
  | .publish event =>
      if relay.handles = 0 then relay
      else { relay with world := relay.world.perform (.publish 0 event) }
  | .act move =>
      if relay.world.firstBus.isClosed then relay
      else { relay with world := (relay.world.perform (World.deed move)).closeBuses }
  | .cloneBus =>
      if relay.handles = 0 then relay else { relay with handles := relay.handles + 1 }
  | .dropBus =>
      match relay.handles with
      | 0 => relay
      | 1 => { world := relay.world.perform .release, handles := 0 }
      | handles + 1 => { relay with handles }
  | .openGate gate =>
      { relay with world := relay.world.perform (.call (.elsewhere (.openGate gate))) }
  | .listen => { relay with world := relay.world.perform (.turn .listener) }
  | .work sink => { relay with world := relay.world.perform (.turn (.worker sink)) }

def run (steps : List RelayStep) : Relay :=
  steps.foldl perform relay

/-- What the listener gets in a step. -/
def receptions : RelayStep → List Reception
  | .listen => relay.world.receptions
  | _ => []

/-- What becomes of events at the sinks in a step. -/
def deliveries : RelayStep → List Delivery
  | .listen => deliveriesOf relay.world.sinks relay.world.receptions
  | .work sink => relay.world.deliveriesBy sink
  | _ => []

/-- All that the listener gets in a run. -/
def received : Relay → List RelayStep → List Reception
  | _, [] => []
  | relay, step :: rest => relay.receptions step ++ received (relay.perform step) rest

/-- All that becomes of events at the sinks in a run. -/
def delivered : Relay → List RelayStep → List Delivery
  | _, [] => []
  | relay, step :: rest => relay.deliveries step ++ delivered (relay.perform step) rest

/-- All events published on the bus. -/
def log : List Event :=
  relay.world.firstBus.log.toList

/-- The events that the listener has not come to yet. -/
def pending : List Event :=
  relay.log.drop relay.world.position

/-- Whether the listener has come to its end: the sinks are closed and their workers have ended. -/
def isFinished : Bool :=
  relay.world.isClosing && relay.world.sinks.all (·.isDone)

/-! ### What a step keeps -/

/-- What holds along a run in which the listener had some receptions and the sinks some
deliveries. -/
structure Kept (start : Nat) (subscribers : List Subscriber) (receptions : List Reception)
    (deliveries : List Delivery) : Prop where
  accounts : relay.world.Accounts subscribers receptions deliveries
  caughtUp : relay.world.passedOn = relay.world.system.history.size
  present : 0 < relay.world.buses.size
  held : relay.world.isHeld = decide (0 < relay.handles)
  isOpen : relay.world.isHeld = true → relay.world.firstBus.isClosed = false
  lower : start ≤ relay.world.position
  upper : relay.world.position ≤ relay.log.length
  passed : Reception.Covers receptions
    ((relay.log.drop start).take (relay.world.position - start))
  closing : relay.world.isClosing = true →
    relay.world.firstBus.isClosed = true ∧ relay.world.position = relay.log.length
  opened : relay.world.isClosing = false → ∀ sink ∈ relay.world.sinks, sink.isClosed = false
  sound : ∀ sink ∈ relay.world.sinks, sink.Sound

namespace Kept

variable {relay} {start : Nat} {subscribers : List Subscriber} {receptions : List Reception}
  {deliveries : List Delivery}

/-- Events that are published while the sinks are open leave everything else as it was. -/
theorem feed (kept : relay.Kept start subscribers receptions deliveries) {next : World}
    {news : List Event} (fed : relay.world.Fed next news)
    (caughtUp : next.passedOn = next.system.history.size)
    (silent : relay.world.isClosing = true → news = []) :
    Kept { relay with world := next } start subscribers receptions deliveries := by
  have log : Relay.log { relay with world := next } = relay.log ++ news :=
    fed.log_eq kept.present
  have longer : relay.log.length ≤ (relay.log ++ news).length := by simp
  refine ⟨kept.accounts.congr fed.sinks fed.faults fed.roles fed.kept, caughtUp, ?_, ?_, ?_, ?_,
    ?_, ?_, ?_, ?_, ?_⟩
  · simpa [fed.present] using kept.present
  · simpa [fed.isHeld] using kept.held
  · intro held
    rw [fed.isHeld] at held
    cases closed : next.firstBus.isClosed with
    | false => rfl
    | true =>
        rcases fed.closed closed with before | unheld
        · rw [kept.isOpen held] at before
          cases before
        · rw [held] at unheld
          cases unheld
  · simpa [fed.position] using kept.lower
  · rw [log]
    simpa [fed.position] using Nat.le_trans kept.upper longer
  · have same : ((relay.log ++ news).drop start).take (relay.world.position - start) =
        (relay.log.drop start).take (relay.world.position - start) := by
      have lower := kept.lower
      have upper := kept.upper
      rw [List.drop_append_of_le_length (by omega), List.take_append_of_le_length]
      simp
      omega
    rw [log]
    simpa [fed.position, same] using kept.passed
  · intro closing
    rw [fed.isClosing] at closing
    rcases kept.closing closing with ⟨closed, atEnd⟩
    rw [log, silent closing]
    simpa [fed.position] using ⟨fed.stays closed, atEnd⟩
  · simpa [fed.isClosing, fed.sinks] using kept.opened
  · simpa [fed.sinks] using kept.sound

/-- The sinks that the listener offers events to. -/
theorem openAndSound (kept : relay.Kept start subscribers receptions deliveries)
    (unclosed : relay.world.isClosing = false) :
    ∀ sink ∈ relay.world.sinks, sink.isClosed = false ∧ sink.Sound :=
  fun sink member => ⟨kept.opened unclosed sink member, kept.sound sink member⟩

/-- Whoever closes the sinks knows that nothing is published any more. -/
theorem not_closing (kept : relay.Kept start subscribers receptions deliveries)
    (isOpen : relay.world.firstBus.isClosed = false) : relay.world.isClosing = false := by
  cases closing : relay.world.isClosing with
  | false => rfl
  | true =>
      rw [(kept.closing closing).1] at isOpen
      cases isOpen

/-- A relay that has just begun owes nothing. -/
theorem opening (system : System) (capacity : Nat) (log : Array Event) (others : List Bus)
    (subscribers : List (Subscriber × Role)) (handles : Nat) :
    (Relay.opening system capacity log others subscribers handles).Kept log.size
      (subscribers.map (·.1)) [] [] := by
  rcases opening_eq system capacity log others subscribers handles with ⟨scheduler, began⟩
  have fresh {sink : Sink}
      (member : sink ∈ subscribers.map fun entry => ({ subscriber := entry.1 } : Sink)) :
      ∃ subscriber, sink = { subscriber } := by
    rcases List.mem_map.mp member with ⟨entry, -, rfl⟩
    exact ⟨entry.1, rfl⟩
  rw [began]
  refine ⟨⟨?_, by simp, ?_, rfl, rfl, rfl⟩, rfl, ?_, ?_, fun _ => rfl, Nat.le_refl _,
    Nat.le_refl _, ?_, ?_, ?_, ?_⟩
  · simp [Function.comp_def]
  · intro index sink found
    rcases fresh (List.mem_of_getElem? found) with ⟨subscriber, rfl⟩
    exact ⟨rfl, rfl, Nat.zero_le _, by simp, fun _ => ⟨rfl, rfl, by simp⟩, nofun⟩
  · simp
  · simp
  · simpa using Reception.Covers.nil
  · intro closing
    cases closing
  · intro _ sink member
    rcases fresh member with ⟨subscriber, rfl⟩
    rfl
  · intro sink member
    rcases fresh member with ⟨subscriber, rfl⟩
    exact ⟨nofun, nofun⟩

theorem publish (kept : relay.Kept start subscribers receptions deliveries) (event : Event) :
    (relay.perform (.publish event)).Kept start subscribers receptions deliveries := by
  simp only [perform]
  split
  · exact kept
  · rename_i some
    have held : relay.world.isHeld = true := by
      rw [kept.held, decide_eq_true_eq]
      omega
    have unclosed := kept.not_closing (kept.isOpen held)
    have plain : (Notice.published 0 event).isPlain = true := rfl
    refine kept.feed (World.Fed.passOn relay.world plain) ?_ ?_
    · simpa [World.perform] using kept.caughtUp
    · intro closing
      rw [unclosed] at closing
      cases closing

theorem act (kept : relay.Kept start subscribers receptions deliveries) (move : Move) :
    (relay.perform (.act move)).Kept start subscribers receptions deliveries := by
  simp only [perform]
  split
  · exact kept
  · rename_i unclosed
    rcases World.deed_fed kept.caughtUp move with ⟨noted, -, fed, caughtUp⟩
    refine kept.feed (fed.trans (World.Fed.closeBuses _)) ?_ ?_
    · simpa using caughtUp
    · intro closing
      rw [kept.not_closing (by simpa using unclosed)] at closing
      cases closing

theorem cloneBus (kept : relay.Kept start subscribers receptions deliveries) :
    (relay.perform .cloneBus).Kept start subscribers receptions deliveries := by
  simp only [perform]
  split
  · exact kept
  · rename_i held
    refine ⟨kept.accounts, kept.caughtUp, kept.present, ?_, kept.isOpen, kept.lower, kept.upper,
      kept.passed, kept.closing, kept.opened, kept.sound⟩
    rw [kept.held]
    simp
    omega

theorem dropBus (kept : relay.Kept start subscribers receptions deliveries) :
    (relay.perform .dropBus).Kept start subscribers receptions deliveries := by
  simp only [perform]
  split
  · exact kept
  · have released : Kept { world := { relay.world with isHeld := false }, handles := 0 } start
        subscribers receptions deliveries := by
      refine ⟨kept.accounts.congr rfl rfl rfl rfl, kept.caughtUp, kept.present, rfl, ?_, kept.lower,
        kept.upper, kept.passed, kept.closing, kept.opened, kept.sound⟩
      intro held
      cases held
    have fed := World.Fed.closeBuses { relay.world with isHeld := false }
    refine released.feed fed ?_ (fun _ => rfl)
    simpa [World.perform] using kept.caughtUp
  · rename_i handles several counted
    refine ⟨kept.accounts, kept.caughtUp, kept.present, ?_, kept.isOpen, kept.lower, kept.upper,
      kept.passed, kept.closing, kept.opened, kept.sound⟩
    have left : 0 < handles := Nat.pos_of_ne_zero several
    rw [kept.held, counted]
    simp [left]

/-- A gate concerns those who wait for it, and nothing is published for it. -/
theorem openGate (kept : relay.Kept start subscribers receptions deliveries) (gate : String) :
    (relay.perform (.openGate gate)).Kept start subscribers receptions deliveries := by
  have extended : ∃ noted, Notice.publishedAt 0 noted = [] ∧
      Notice.Extend relay.world.system.history relay.world.system.eventsMade
        (relay.world.system.openGate gate).history (relay.world.system.openGate gate).eventsMade
        noted := by
    by_cases already : relay.world.system.isOpen gate = true
    · refine ⟨[], rfl, ?_⟩
      simpa [System.openGate, already] using Notice.Extend.nil
    · refine ⟨[.told (.gate gate)], rfl, ?_, rfl, ?_⟩
      · simp [System.openGate, already, System.note]
      · have made : (relay.world.system.openGate gate).eventsMade =
            relay.world.system.eventsMade := by
          simp [System.openGate, already, System.note]
        rw [made]
        exact .nil _
  rcases extended with ⟨noted, silent, extended⟩
  have fed := World.Fed.withSystem kept.caughtUp extended
  refine kept.feed fed ?_ (fun _ => silent)
  simp [World.perform]

/-- What the listener hears goes to open sinks. -/
theorem hear (kept : relay.Kept start subscribers receptions deliveries)
    (unclosed : relay.world.isClosing = false) :
    Kept { relay with world := relay.world.heard } start subscribers
      (receptions ++ relay.world.receptions)
      (deliveries ++ deliveriesOf relay.world.sinks relay.world.receptions) := by
  rcases relay.world.firstBus.take_covers turnLimit kept.upper with ⟨onward, within, covered⟩
  rw [← World.receptions_eq kept.present unclosed] at covered
  have alone := relay.world.heard_leavesAlone
  have bus := relay.world.heard_firstBus
  rcases World.heard_cases (kept.openAndSound unclosed) with ⟨position, closing, opened⟩
  have log : Relay.log { relay with world := relay.world.heard } = relay.log := by
    rw [Relay.log, bus, Relay.log]
  refine ⟨?_, ?_, ?_, ?_, ?_, ?_, ?_, ?_, ?_, fun _ sink member => (opened sink member).1,
    fun sink member => (opened sink member).2⟩
  · refine World.Accounts.hearAll (kept.accounts.congr ?_ ?_ ?_ ?_) relay.world.receptions
    · rfl
    · rfl
    · rfl
    · rfl
  · simpa [alone.passedOn, alone.system] using kept.caughtUp
  · simpa [alone.buses] using kept.present
  · simpa [alone.isHeld] using kept.held
  · simpa [alone.isHeld, bus] using kept.isOpen
  · simp only [position]
    exact Nat.le_trans kept.lower onward
  · simp only [position, log]
    exact within
  · simp only [position, log]
    rw [List.take_drop_split _ kept.lower onward]
    exact kept.passed.append covered
  · intro closes
    simp only [closing, unclosed] at closes
    cases closes

/-- The sinks are closed once the listener has come to the end of a closed bus. -/
theorem close (kept : relay.Kept start subscribers receptions deliveries)
    (closed : relay.world.firstBus.isClosed = true)
    (atEnd : relay.world.position = relay.log.length) :
    Kept { relay with world := relay.world.beginClosing } start subscribers receptions
      deliveries := by
  cases closing : relay.world.isClosing with
  | true => simpa [World.beginClosing, closing] using kept
  | false =>
      have accounts := kept.accounts.beginClosing
      rcases relay.world.beginClosing_eq closing with ⟨scheduler, closes⟩
      rw [closes] at accounts ⊢
      refine ⟨accounts, kept.caughtUp, kept.present, kept.held, kept.isOpen, kept.lower, kept.upper,
        kept.passed, fun _ => ⟨closed, atEnd⟩, ?_, ?_⟩
      · intro unclosed
        cases unclosed
      · intro sink member
        rcases List.mem_map.mp member with ⟨old, before, rfl⟩
        exact (kept.sound old before).close

theorem awaitWorkers (kept : relay.Kept start subscribers receptions deliveries) :
    Kept { relay with world := relay.world.awaitWorkers .listener } start subscribers receptions
      deliveries := by
  have waits : ∃ scheduler isShutDown, relay.world.awaitWorkers .listener =
      { relay.world with scheduler, isShutDown } := by
    simp only [World.awaitWorkers]
    split
    · exact ⟨_, _, rfl⟩
    · exact ⟨_, _, rfl⟩
  rcases waits with ⟨scheduler, isShutDown, waits⟩
  rw [waits]
  exact ⟨kept.accounts.congr rfl rfl rfl rfl, kept.caughtUp, kept.present, kept.held, kept.isOpen,
    kept.lower, kept.upper, kept.passed, kept.closing, kept.opened, kept.sound⟩

theorem listen (kept : relay.Kept start subscribers receptions deliveries) :
    (relay.perform .listen).Kept start subscribers (receptions ++ relay.receptions .listen)
      (deliveries ++ relay.deliveries .listen) := by
  cases closing : relay.world.isClosing with
  | true =>
      have nothing : relay.world.receptions = [] := by simp [World.receptions, closing]
      simp only [perform, World.perform, World.turn, closing, if_true, Relay.receptions,
        Relay.deliveries, nothing, deliveriesOf, List.append_nil]
      exact kept.awaitWorkers
  | false =>
      have heard := kept.hear closing
      simp only [perform, World.perform, World.turn, closing, Relay.receptions, Relay.deliveries]
      rcases World.listen_cases kept.present closing with ⟨scheduler, listens⟩ | ending
      · rw [listens]
        exact heard.feed (World.Fed.scheduled _ scheduler) heard.caughtUp (fun _ => rfl)
      · rcases ending with ⟨fewer, closed, listens⟩
        rw [World.receptions_eq kept.present closing] at fewer
        have atEnd := relay.world.firstBus.take_exhausts turnLimit kept.upper fewer
        rw [listens]
        refine (heard.close ?_ ?_).awaitWorkers
        · rw [World.heard_firstBus, closed]
        · rw [Relay.log, World.heard_firstBus, (World.heard_cases (kept.openAndSound closing)).1, atEnd]
          simp

theorem work (kept : relay.Kept start subscribers receptions deliveries) (index : Nat) :
    (relay.perform (.work index)).Kept start subscribers receptions
      (deliveries ++ relay.deliveries (.work index)) := by
  cases found : relay.world.sinks[index]? with
  | none =>
      simpa [perform, World.perform, World.turn, World.work, found, Relay.deliveries,
        World.deliveriesBy] using kept
  | some old =>
      have known := List.mem_of_getElem? found
      have alone := World.LeavesAlone.work relay.world index
      rcases relay.world.work_cases found with ⟨sinks, position, closing⟩
      have bus : (relay.world.work index).firstBus = relay.world.firstBus := by
        rw [World.firstBus, alone.buses, World.firstBus]
      simp only [perform, World.perform, World.turn]
      have log : Relay.log { relay with world := relay.world.work index } = relay.log := by
        rw [Relay.log, bus, Relay.log]
      refine ⟨kept.accounts.work index, ?_, ?_, ?_, ?_, ?_, ?_, ?_, ?_, ?_, ?_⟩
      · simpa [alone.passedOn, alone.system] using kept.caughtUp
      · simpa [alone.buses] using kept.present
      · simpa [alone.isHeld] using kept.held
      · simpa [alone.isHeld, bus] using kept.isOpen
      · simpa [position] using kept.lower
      · simpa [position, log] using kept.upper
      · simpa [position, log] using kept.passed
      · simpa [position, closing, bus, log] using kept.closing
      · simp only [closing, sinks]
        intro unclosed sink member
        rcases List.mem_or_eq_of_mem_set member with before | rfl
        · exact kept.opened unclosed sink before
        · rw [(old.work_subscriber relay.world.system.isOpen index).2]
          exact kept.opened unclosed old known
      · simp only [sinks]
        intro sink member
        rcases List.mem_or_eq_of_mem_set member with before | rfl
        · exact kept.sound sink before
        · exact (kept.sound old known).work relay.world.system.isOpen index

/-- What a step brings is added to the receptions and to the deliveries. -/
theorem perform (kept : relay.Kept start subscribers receptions deliveries) (step : RelayStep) :
    (relay.perform step).Kept start subscribers (receptions ++ relay.receptions step)
      (deliveries ++ relay.deliveries step) := by
  cases step with
  | publish event => simpa [Relay.receptions, Relay.deliveries] using kept.publish event
  | act move => simpa [Relay.receptions, Relay.deliveries] using kept.act move
  | cloneBus => simpa [Relay.receptions, Relay.deliveries] using kept.cloneBus
  | dropBus => simpa [Relay.receptions, Relay.deliveries] using kept.dropBus
  | openGate gate => simpa [Relay.receptions, Relay.deliveries] using kept.openGate gate
  | listen => exact kept.listen
  | work sink => simpa [Relay.receptions] using kept.work sink

theorem run (kept : relay.Kept start subscribers receptions deliveries) (steps : List RelayStep) :
    (relay.run steps).Kept start subscribers (receptions ++ relay.received steps)
      (deliveries ++ relay.delivered steps) := by
  induction steps generalizing relay receptions deliveries with
  | nil => simpa [Relay.run, Relay.received, Relay.delivered] using kept
  | cons step rest ih =>
      simpa [Relay.run, Relay.received, Relay.delivered, List.append_assoc] using
        ih (kept.perform step)

end Kept

end Relay

end Admission
