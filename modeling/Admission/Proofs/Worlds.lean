import Admission.Proofs.Run
import Admission.Scenario.World

/-!
# Runs of a world

A world is a system with its observers. A run of a world is any sequence of deeds in any order: a
task, the listener, a worker or whoever shuts the sinks down has a turn, somebody outside acts on
the system or publishes an event of its own, or the limiters are released from outside.

What a deed does to the system depends on the system only, and the log of a bus grows by the events
that are published at its place. The turns of observers leave both alone.
-/

namespace Admission

namespace Notice

/-- The events that are published at some place. -/
def publishedAt (place : Nat) (notices : List Notice) : List Event :=
  notices.filterMap fun notice => notice.event?.bind fun entry =>
    if entry.1 = place then some entry.2 else none

theorem publishedAt_append (place : Nat) (notices more : List Notice) :
    publishedAt place (notices ++ more) = publishedAt place notices ++ publishedAt place more := by
  simp [publishedAt]

theorem publishedAt_cons (place : Nat) (notice : Notice) (notices : List Notice) :
    publishedAt place (notice :: notices) =
      publishedAt place [notice] ++ publishedAt place notices :=
  publishedAt_append place [notice] notices

end Notice

/-- One step of a world. -/
inductive Deed where
  | turn (actor : Actor)
  /-- Somebody outside acts on the system. -/
  | call (move : Move)
  /-- Somebody outside publishes an event of its own on the bus at some place. -/
  | publish (place : Nat) (event : Event)
  /-- The limiters are no longer held from outside. -/
  | release

namespace Deed

/-- What a deed is for the system. -/
def move? : Deed → Option Move
  | turn (.task index) => some (.turn index)
  | call move => some move
  | _ => none

/-- Whether a deed is a turn of an observer. -/
def isObserving : Deed → Bool
  | turn (.task _) => false
  | turn _ => true
  | _ => false

end Deed

namespace World

variable (world : World)

/-- The log of the bus at some place. -/
def logAt (place : Nat) : Option (List Event) :=
  world.buses[place]?.map (·.log.toList)

def perform (world : World) : Deed → World
  | .turn actor => world.turn actor
  | .call move => world.withSystem (world.system.perform move)
  | .publish place event => world.passOn (.published place event)
  | .release => { world with isHeld := false }.closeBuses

def run (world : World) (deeds : List Deed) : World :=
  deeds.foldl perform world

/-! ### Notices that are passed on -/

@[simp]
theorem passOn_frame (notice : Notice) :
    (world.passOn notice).system = world.system ∧
      (world.passOn notice).passedOn = world.passedOn ∧
      (world.passOn notice).sinks = world.sinks ∧
      (world.passOn notice).roles = world.roles ∧
      (world.passOn notice).position = world.position ∧
      (world.passOn notice).isClosing = world.isClosing ∧
      (world.passOn notice).isHeld = world.isHeld ∧
      (world.passOn notice).buses.size = world.buses.size := by
  cases notice <;> simp [passOn, tell, log, wake, defer]

theorem passOn_logAt (notice : Notice) (place : Nat) :
    (world.passOn notice).logAt place =
      (world.logAt place).map (· ++ Notice.publishedAt place [notice]) := by
  cases notice with
  | published other event =>
      by_cases same : other = place
      · subst same
        cases found : world.buses[other]? <;>
          simp [passOn, tell, logAt, Array.getElem?_modify, found, Bus.publish,
            Notice.publishedAt, Notice.event?]
      · cases found : world.buses[place]? <;>
          simp [passOn, tell, logAt, Array.getElem?_modify, found, same, Notice.publishedAt,
            Notice.event?]
  | _ =>
      cases found : world.buses[place]? <;>
        simp [passOn, tell, log, wake, defer, logAt, found, Notice.publishedAt, Notice.event?]

/-- The world after some notices were passed on. -/
def passOnAll (notices : List Notice) : World :=
  notices.foldl passOn world

@[simp]
theorem passOnAll_nil : world.passOnAll [] = world := rfl

@[simp]
theorem passOnAll_cons (notice : Notice) (notices : List Notice) :
    world.passOnAll (notice :: notices) = (world.passOn notice).passOnAll notices := rfl

@[simp]
theorem passOnAll_frame (notices : List Notice) :
    (world.passOnAll notices).system = world.system ∧
      (world.passOnAll notices).passedOn = world.passedOn ∧
      (world.passOnAll notices).sinks = world.sinks ∧
      (world.passOnAll notices).roles = world.roles ∧
      (world.passOnAll notices).position = world.position ∧
      (world.passOnAll notices).isClosing = world.isClosing ∧
      (world.passOnAll notices).isHeld = world.isHeld ∧
      (world.passOnAll notices).buses.size = world.buses.size := by
  induction notices generalizing world with
  | nil => simp
  | cons notice rest ih => simp [ih]

theorem passOnAll_logAt (notices : List Notice) (place : Nat) :
    (world.passOnAll notices).logAt place =
      (world.logAt place).map (· ++ Notice.publishedAt place notices) := by
  induction notices generalizing world with
  | nil => cases found : world.logAt place <;> simp [found, Notice.publishedAt]
  | cons notice rest ih =>
      rw [passOnAll_cons, ih, passOn_logAt, Notice.publishedAt_cons place notice rest]
      cases world.logAt place <;> simp

theorem withSystem_eq (system : System) :
    world.withSystem system =
      { world with system, passedOn := system.history.size }.passOnAll
        (system.history.toList.drop world.passedOn) := by
  have news : (system.history.extract world.passedOn system.history.size).toList =
      system.history.toList.drop world.passedOn := by
    rw [Array.toList_extract, List.extract_eq_take_drop]
    apply List.take_of_length_le
    simp
  simp only [withSystem, passOnAll, ← news, Array.foldl_toList]

@[simp]
theorem withSystem_frame (system : System) :
    (world.withSystem system).system = system ∧
      (world.withSystem system).passedOn = system.history.size ∧
      (world.withSystem system).sinks = world.sinks ∧
      (world.withSystem system).roles = world.roles ∧
      (world.withSystem system).position = world.position ∧
      (world.withSystem system).isClosing = world.isClosing ∧
      (world.withSystem system).isHeld = world.isHeld ∧
      (world.withSystem system).buses.size = world.buses.size := by
  rw [withSystem_eq]
  simp

theorem withSystem_logAt (system : System) (place : Nat) :
    (world.withSystem system).logAt place = (world.logAt place).map
      (· ++ Notice.publishedAt place (system.history.toList.drop world.passedOn)) := by
  rw [withSystem_eq, passOnAll_logAt]
  rfl

/-! ### Buses that are closed -/

@[simp]
theorem closeBuses_frame :
    world.closeBuses.system = world.system ∧ world.closeBuses.passedOn = world.passedOn ∧
      world.closeBuses.sinks = world.sinks ∧ world.closeBuses.roles = world.roles ∧
      world.closeBuses.position = world.position ∧
      world.closeBuses.isClosing = world.isClosing ∧
      world.closeBuses.isHeld = world.isHeld ∧
      world.closeBuses.journal = world.journal ∧
      world.closeBuses.buses.size = world.buses.size := by
  simp only [closeBuses]
  split <;> simp [tell]

@[simp]
theorem closeBuses_logAt (place : Nat) : world.closeBuses.logAt place = world.logAt place := by
  simp only [closeBuses]
  split
  · rfl
  · cases found : world.buses[place]? <;> simp [tell, logAt, found, Bus.close]

/-! ### Observers -/

/-- Nothing that observers do reaches the system or a bus. -/
structure LeavesAlone (next : World) : Prop where
  system : next.system = world.system
  passedOn : next.passedOn = world.passedOn
  buses : next.buses = world.buses
  isHeld : next.isHeld = world.isHeld

namespace LeavesAlone

variable {world} {next last : World}

theorem refl (world : World) : world.LeavesAlone world := ⟨rfl, rfl, rfl, rfl⟩

theorem trans (before : world.LeavesAlone next) (after : next.LeavesAlone last) :
    world.LeavesAlone last where
  system := after.system.trans before.system
  passedOn := after.passedOn.trans before.passedOn
  buses := after.buses.trans before.buses
  isHeld := after.isHeld.trans before.isHeld

theorem foldl {Item : Type} {act : World → Item → World}
    (acts : ∀ world item, LeavesAlone world (act world item)) (before : world.LeavesAlone next)
    (items : List Item) : world.LeavesAlone (items.foldl act next) := by
  induction items generalizing next with
  | nil => exact before
  | cons item rest ih => exact ih (before.trans (acts next item))

theorem account (world : World) (delivery : Delivery) :
    world.LeavesAlone (world.account delivery) := by
  cases delivery with
  | handled sink event =>
      simp only [World.account, serve]
      split <;> exact ⟨rfl, rfl, rfl, rfl⟩
  | _ => exact ⟨rfl, rfl, rfl, rfl⟩

theorem emit (world : World) (event : Event) : world.LeavesAlone (world.emit event) := by
  refine foldl account ?_ _
  exact ⟨rfl, rfl, rfl, rfl⟩

theorem hear (world : World) (reception : Reception) :
    world.LeavesAlone (world.hear reception) := by
  cases reception with
  | event event => exact emit world event
  | lagged missed => exact ⟨rfl, rfl, rfl, rfl⟩
  | empty => exact .refl world
  | closed => exact .refl world

theorem beginClosing (world : World) : world.LeavesAlone world.beginClosing := by
  simp only [World.beginClosing]
  split
  · exact .refl world
  · refine foldl (fun world index => ?_) ?_ _
    · exact ⟨rfl, rfl, rfl, rfl⟩
    · exact ⟨rfl, rfl, rfl, rfl⟩

theorem awaitWorkers (world : World) (actor : Actor) :
    world.LeavesAlone (world.awaitWorkers actor) := by
  simp only [World.awaitWorkers]
  split <;> exact ⟨rfl, rfl, rfl, rfl⟩

theorem listen (world : World) : world.LeavesAlone world.listen := by
  simp only [World.listen]
  split
  · exact .refl world
  · rename_i bus _
    have heard : world.LeavesAlone ((bus.take turnLimit world.position).1.foldl World.hear
        { world with position := (bus.take turnLimit world.position).2 }) := by
      refine foldl hear ?_ _
      exact ⟨rfl, rfl, rfl, rfl⟩
    split
    · exact ⟨heard.system, heard.passedOn, heard.buses, heard.isHeld⟩
    · split
      · exact (heard.trans (beginClosing _)).trans (awaitWorkers _ _)
      · exact ⟨heard.system, heard.passedOn, heard.buses, heard.isHeld⟩

theorem work (world : World) (index : Nat) : world.LeavesAlone (world.work index) := by
  simp only [World.work]
  split
  · exact .refl world
  · rename_i sink _
    have told : world.LeavesAlone
        ((sink.work world.system.isOpen index).2.foldl World.account { world with
          sinks := world.sinks.set index (sink.work world.system.isOpen index).1 }) := by
      refine foldl account ?_ _
      exact ⟨rfl, rfl, rfl, rfl⟩
    split
    · exact ⟨told.system, told.passedOn, told.buses, told.isHeld⟩
    · split <;> exact ⟨told.system, told.passedOn, told.buses, told.isHeld⟩

theorem of_isObserving (world : World) (deed : Deed) (observing : deed.isObserving = true) :
    world.LeavesAlone (world.perform deed) := by
  cases deed with
  | turn actor =>
      cases actor with
      | task index => cases observing
      | listener =>
          simp only [World.perform, World.turn]
          split
          · exact awaitWorkers world _
          · exact listen world
      | worker sink => exact work world sink
      | closer => exact (beginClosing world).trans (awaitWorkers _ _)
  | call move => cases observing
  | publish place event => cases observing
  | release => cases observing

end LeavesAlone

/-! ### What a deed does to the system -/

theorem turnTask_system (index : Nat) :
    (world.turnTask index).system = world.system.turn index := by
  simp [turnTask, park]

/-- A deed does to the system what the move does that it is, if it is one. -/
theorem perform_system (deed : Deed) :
    (world.perform deed).system = (deed.move?.map world.system.perform).getD world.system := by
  cases deed with
  | turn actor =>
      cases actor with
      | task index => exact turnTask_system world index
      | listener => exact (LeavesAlone.of_isObserving world (.turn .listener) rfl).system
      | worker sink => exact (LeavesAlone.of_isObserving world (.turn (.worker sink)) rfl).system
      | closer => exact (LeavesAlone.of_isObserving world (.turn .closer) rfl).system
  | call move => simp [perform, Deed.move?]
  | publish place event => simp [perform, Deed.move?]
  | release => simp [perform, Deed.move?]

end World

end Admission
