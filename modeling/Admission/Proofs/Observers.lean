import Admission.Proofs.Notes
import Admission.Proofs.Worlds
import Admission.Scenario.Setup

/-!
# Observers

Two worlds agree if an outsider who sees only the system and the logs of the buses cannot tell them
apart. Worlds that agree still do so after a deed that both of them make, and after a turn of any
observer of either of them. Hence two limiters that were set up for the same jobs under different
observation (other subscribers, or buses of other capacities) admit the same jobs in the same
way, as long as the tasks of both have their turns in the same order.
-/

namespace Admission

namespace System

/-- How each task has ended, if it has. -/
def results (system : System) : List (Option Outcome) :=
  system.tasks.toList.map (·.outcome)

/-- The available and the claimed tokens of each limiter. -/
def counts (system : System) : List (Nat × Nat) :=
  system.limiters.map fun limiter => (limiter.pool.available, limiter.pool.inUse)

end System

namespace World

/-- The systems after each deed of a run that is not a turn of an observer. -/
def course : World → List Deed → List System
  | _, [] => []
  | world, deed :: rest =>
      if deed.isObserving then course (world.perform deed) rest
      else (world.perform deed).system :: course (world.perform deed) rest

/-- The systems and the logs of the buses are the same, and all that was noted was passed on. -/
structure Agrees (one two : World) : Prop where
  system : one.system = two.system
  passedOn : one.passedOn = two.passedOn
  logs : ∀ place, one.logAt place = two.logAt place

namespace Agrees

variable {one two three : World}

theorem refl (world : World) : world.Agrees world := ⟨rfl, rfl, fun _ => rfl⟩

theorem symm (agrees : one.Agrees two) : two.Agrees one :=
  ⟨agrees.system.symm, agrees.passedOn.symm, fun place => (agrees.logs place).symm⟩

theorem trans (first : one.Agrees two) (second : two.Agrees three) : one.Agrees three where
  system := first.system.trans second.system
  passedOn := first.passedOn.trans second.passedOn
  logs := fun place => (first.logs place).trans (second.logs place)

theorem of_leavesAlone (alone : one.LeavesAlone two) : two.Agrees one where
  system := alone.system
  passedOn := alone.passedOn
  logs := by
    intro place
    rw [logAt, alone.buses, ← logAt]

theorem passOn (agrees : one.Agrees two) (notice : Notice) :
    (one.passOn notice).Agrees (two.passOn notice) where
  system := by simpa using agrees.system
  passedOn := by simpa using agrees.passedOn
  logs := by
    intro place
    rw [passOn_logAt, passOn_logAt, agrees.logs place]

theorem withSystem (agrees : one.Agrees two) (system : System) :
    (one.withSystem system).Agrees (two.withSystem system) where
  system := by simp
  passedOn := by simp
  logs := by
    intro place
    rw [withSystem_logAt, withSystem_logAt, agrees.logs place, agrees.passedOn]

theorem closeBuses (agrees : one.Agrees two) : one.closeBuses.Agrees two.closeBuses where
  system := by simpa using agrees.system
  passedOn := by simpa using agrees.passedOn
  logs := by
    intro place
    rw [closeBuses_logAt, closeBuses_logAt, agrees.logs place]

/-- Whether a task has its turn in one world or in the other makes no difference. -/
theorem turnTask (agrees : one.Agrees two) (index : Nat) :
    (one.turnTask index).Agrees (two.turnTask index) := by
  simp only [World.turnTask, agrees.system]
  have unscheduled (world : World) (scheduler : Scheduler Actor) :
      Agrees { world with scheduler } world :=
    of_leavesAlone ⟨rfl, rfl, rfl, rfl⟩
  apply closeBuses
  refine trans (unscheduled _ _) (trans (withSystem ?_ _) (unscheduled _ _).symm)
  exact ⟨rfl, agrees.passedOn, agrees.logs⟩

/-- A deed that both worlds make keeps them in agreement, if no observer has a turn. -/
theorem perform (agrees : one.Agrees two) {deed : Deed} (acting : deed.isObserving = false) :
    (one.perform deed).Agrees (two.perform deed) := by
  cases deed with
  | turn actor =>
      cases actor with
      | task index => exact agrees.turnTask index
      | listener => cases acting
      | worker sink => cases acting
      | closer => cases acting
  | call move =>
      simp only [World.perform, agrees.system]
      exact agrees.withSystem _
  | publish place event => exact agrees.passOn (.published place event)
  | release =>
      apply closeBuses
      exact ⟨agrees.system, agrees.passedOn, agrees.logs⟩

/-- The turns of observers can be left out of a run. -/
theorem run_acting (agrees : one.Agrees two) (deeds : List Deed) :
    (one.run deeds).Agrees (two.run (deeds.filter fun deed => !deed.isObserving)) ∧
      one.course deeds = two.course (deeds.filter fun deed => !deed.isObserving) := by
  induction deeds generalizing one two with
  | nil => exact ⟨agrees, rfl⟩
  | cons deed rest ih =>
      cases observing : deed.isObserving with
      | true =>
          have alone := of_leavesAlone (LeavesAlone.of_isObserving one deed observing)
          have later := ih (alone.trans agrees)
          simpa [World.run, World.course, observing] using later
      | false =>
          have after := agrees.perform observing
          rcases ih after with ⟨last, courses⟩
          refine ⟨by simpa [World.run, observing] using last, ?_⟩
          simp [World.course, observing, after.system, courses]

/-- Runs of two worlds that agree differ in nothing but the turns of observers. -/
theorem run (agrees : one.Agrees two) {deeds others : List Deed}
    (same : (deeds.filter fun deed => !deed.isObserving) =
      others.filter fun deed => !deed.isObserving) :
    (one.run deeds).Agrees (two.run others) ∧ one.course deeds = two.course others := by
  rcases agrees.run_acting deeds with ⟨first, firstCourse⟩
  rcases (refl two).run_acting others with ⟨second, secondCourse⟩
  rw [same] at first firstCourse
  exact ⟨first.trans second.symm, firstCourse.trans secondCourse.symm⟩

end Agrees

end World

/-! ### Limiters that are set up alike -/

namespace Session

/-- How a limiter is observed. -/
structure Observation where
  subscribers : List (Subscriber × Role) := []
  /-- How many events the bus of the first limiter keeps. -/
  busCapacity : Nat
  /-- How many events the bus of the limiter behind it keeps. -/
  innerCapacity : Nat := busCapacity

/-- The same limiters, observed in another way. -/
def Plan.observed (plan : Plan) (observation : Observation) : Plan :=
  { plan with
    config := { plan.config with busCapacity := observation.busCapacity }
    inner := plan.inner.map fun config => { config with busCapacity := observation.innerCapacity }
    subscribers := observation.subscribers }

/-- A limiter that could be set up, and the empty bus with it. -/
theorem build_ok {config : Config} {next : String} {built : Limiter × Bus}
    (succeeds : build config next = .ok built) :
    built.1 = { pool := .full config.maxInFlight, next, syncTimeout := config.syncDeadline } ∧
      built.2.log = #[] := by
  simp only [build, Config.validate] at succeeds
  split at succeeds
  · cases succeeds
  · simp only [Pool.create, Bus.create] at succeeds
    split at succeeds
    · cases succeeds
    · split at succeeds
      · cases succeeds
      · split at succeeds
        · cases succeeds
        · cases succeeds
          exact ⟨rfl, rfl⟩

/-- The limiters of a plan, the first one first. -/
def Plan.limiters (plan : Plan) : List Limiter :=
  { pool := .full plan.config.maxInFlight
    next := if plan.inner.isSome then Limiter.handlerName else plan.handler
    syncTimeout := plan.config.syncDeadline } ::
  plan.inner.toList.map fun config =>
    { pool := .full config.maxInFlight, next := plan.handler, syncTimeout := config.syncDeadline }

/-- The world in which a plan begins, before anything was published. -/
structure Plan.Begins (plan : Plan) (world : World) : Prop where
  system : world.system = { limiters := plan.limiters, rules := plan.rules, feeds := plan.feeds }
  passedOn : world.passedOn = 0
  logs : ∀ place, world.logAt place = if place < plan.limiters.length then some [] else none

/-- A second limiter that could be set up, if one is configured. -/
theorem inner_ok {plan : Plan} {inner : Option (Limiter × Bus)}
    (succeeds : (plan.inner.mapM fun config => build config plan.handler) = .ok inner) :
    (plan.inner = none ∧ inner = none) ∨ ∃ config built, plan.inner = some config ∧
      inner = some built ∧ build config plan.handler = .ok built := by
  cases configured : plan.inner with
  | none =>
      rw [configured] at succeeds
      cases succeeds
      exact Or.inl ⟨rfl, rfl⟩
  | some config =>
      rw [configured] at succeeds
      simp only [Option.mapM_some] at succeeds
      cases result : build config plan.handler with
      | error error =>
          rw [result] at succeeds
          cases succeeds
      | ok built =>
          rw [result] at succeeds
          cases succeeds
          exact Or.inr ⟨config, built, rfl, rfl, result⟩

/-- What is set up for a plan begins with its limiters and empty buses. -/
theorem ofPlan_ok {plan : Plan} {session : Session} (succeeds : ofPlan plan = .ok session) :
    ∃ world, plan.Begins world ∧ session = (begin { world } plan.subscribers).withRoot := by
  simp only [ofPlan, bind, Except.bind] at succeeds
  split at succeeds
  · cases succeeds
  · rename_i inner innerBuilt
    split at succeeds
    · cases succeeds
    · rename_i outer outerBuilt
      cases succeeds
      rcases build_ok outerBuilt with ⟨limiter, log⟩
      rcases inner_ok innerBuilt with ⟨alone, rfl⟩ | ⟨config, built, behind, rfl, second⟩
      · refine ⟨_, ⟨?_, rfl, ?_⟩, rfl⟩
        · simp [Plan.limiters, alone, limiter]
        · intro place
          rcases place with _ | place <;> simp [World.logAt, Plan.limiters, alone, log]
      · rcases build_ok second with ⟨innerLimiter, innerLog⟩
        refine ⟨_, ⟨?_, rfl, ?_⟩, rfl⟩
        · simp [Plan.limiters, behind, limiter, innerLimiter]
        · intro place
          rcases place with _ | _ | place <;>
            simp [World.logAt, Plan.limiters, behind, log, innerLog]

theorem limiters_observed (plan : Plan) (observation : Observation) :
    (plan.observed observation).limiters = plan.limiters := by
  cases behind : plan.inner <;> simp [Plan.limiters, Plan.observed, Config.syncDeadline, behind]

/-- A plan begins in the same way under any observation. -/
theorem Plan.Begins.agrees {plan : Plan} {first second : Observation} {one two : World}
    (oneBegins : (plan.observed first).Begins one) (twoBegins : (plan.observed second).Begins two) :
    one.Agrees two where
  system := by
    rw [oneBegins.system, twoBegins.system, limiters_observed, limiters_observed]
    rfl
  passedOn := oneBegins.passedOn.trans twoBegins.passedOn.symm
  logs := by
    intro place
    rw [oneBegins.logs, twoBegins.logs, limiters_observed, limiters_observed]

/-- Sessions with the same contexts whose worlds agree. -/
structure Alike (one two : Session) : Prop where
  world : one.world.Agrees two.world
  contexts : one.contexts = two.contexts

namespace Alike

variable {one two : Session}

theorem withSystem (alike : one.Alike two) (system : System) :
    (one.withSystem system).Alike (two.withSystem system) :=
  ⟨alike.world.withSystem system, alike.contexts⟩

/-- Both publish that some of their limiters were set up. -/
theorem announce (alike : one.Alike two) (entries : List (Limiter × Nat)) :
    let announce (session : Session) (entry : Limiter × Nat) : Session :=
      session.withSystem (session.system.note (.published entry.2 (configuredEvent entry.1)))
    (entries.foldl announce one).Alike (entries.foldl announce two) := by
  intro announce
  induction entries generalizing one two with
  | nil => exact alike
  | cons entry rest ih =>
      apply ih
      simp only [announce, system, alike.world.system]
      exact alike.withSystem _

/-- Subscribers concern neither the system nor a bus. -/
theorem withSinks (session : Session) (subscribers : List (Subscriber × Role)) :
    Alike
      (if subscribers.isEmpty then session
        else
          let session := session.withSinks subscribers
          { session with world := session.world.wake .listener })
      session := by
  split
  · exact ⟨.refl _, rfl⟩
  · refine ⟨.of_leavesAlone ?_, rfl⟩
    have woken : session.world.LeavesAlone ((List.range subscribers.length).foldl
        (fun world index => world.wake (.worker index)) { session.world with
          sinks := subscribers.map fun entry => { subscriber := entry.1 }
          roles := (subscribers.map (·.2)).toArray }) := by
      refine World.LeavesAlone.foldl (fun world index => ?_) ?_ _
      · exact ⟨rfl, rfl, rfl, rfl⟩
      · exact ⟨rfl, rfl, rfl, rfl⟩
    exact ⟨woken.system, woken.passedOn, woken.buses, woken.isHeld⟩

theorem symm (alike : one.Alike two) : two.Alike one :=
  ⟨alike.world.symm, alike.contexts.symm⟩

theorem trans {three : Session} (first : one.Alike two) (second : two.Alike three) :
    one.Alike three :=
  ⟨first.world.trans second.world, first.contexts.trans second.contexts⟩

theorem begin (alike : one.Alike two) (first second : List (Subscriber × Role)) :
    (begin one first).Alike (begin two second) := by
  have limiters : one.system.limiters = two.system.limiters := by
    simp only [system, alike.world.system]
  have announced := alike.announce (two.system.limiters.zipIdx.drop 1).reverse
  have enlisted := ((withSinks _ first).trans announced).trans (withSinks _ second).symm
  simp only [Session.begin, limiters]
  cases two.system.limiters.head? with
  | none => exact ⟨enlisted.world, enlisted.contexts⟩
  | some limiter =>
      have last := enlisted.announce [(limiter, 0)]
      exact ⟨last.world, last.contexts⟩

theorem nameContext (alike : one.Alike two) (name : String) (context : Context) :
    (one.nameContext name context).Alike (two.nameContext name context) := by
  simp only [Session.nameContext, alike.contexts]
  cases two.contexts.lookup name with
  | none => exact ⟨alike.world, rfl⟩
  | some old =>
      simp only [system, alike.world.system]
      exact ⟨alike.world.withSystem _, rfl⟩

theorem withRoot (alike : one.Alike two) : one.withRoot.Alike two.withRoot := by
  simp only [Session.withRoot, makeContext, withCancellation, system, alike.world.system]
  exact (alike.withSystem _).nameContext _ _

end Alike

/-- Plans that differ in nothing but the observation set up sessions that are alike. -/
theorem ofPlan_alike {plan : Plan} {first second : Observation} {one two : Session}
    (oneBuilt : ofPlan (plan.observed first) = .ok one)
    (twoBuilt : ofPlan (plan.observed second) = .ok two) : one.Alike two := by
  rcases ofPlan_ok oneBuilt with ⟨oneWorld, oneBegins, rfl⟩
  rcases ofPlan_ok twoBuilt with ⟨twoWorld, twoBegins, rfl⟩
  have worlds : Alike { world := oneWorld } { world := twoWorld } :=
    ⟨oneBegins.agrees twoBegins, rfl⟩
  exact (worlds.begin _ _).withRoot

end Session

namespace World

/-- Two runs that admit jobs in the same way. -/
structure SameAdmission (one two : World) (deeds others : List Deed) : Prop where
  /-- Whatever is handled or registered ends in the same way, at the same step. -/
  results : (one.course deeds).map System.results = (two.course others).map System.results
  counts : (one.course deeds).map System.counts = (two.course others).map System.counts
  published : (one.course deeds).map System.published = (two.course others).map System.published
  /-- The last turns of observers leave the system as it was. -/
  last : (one.run deeds).system = (two.run others).system
  logs : ∀ place, (one.run deeds).logAt place = (two.run others).logAt place

/-- Limiters that can be set up under two observations admit jobs in the same way in any two runs
that differ in nothing but the turns of observers. -/
theorem sameAdmission_of_observed (plan : Session.Plan) (first second : Session.Observation)
    {one two : Session} (oneBuilt : Session.ofPlan (plan.observed first) = .ok one)
    (twoBuilt : Session.ofPlan (plan.observed second) = .ok two) {deeds others : List Deed}
    (same : (deeds.filter fun deed => !deed.isObserving) =
      others.filter fun deed => !deed.isObserving) :
    SameAdmission one.world two.world deeds others := by
  have agrees := (Session.ofPlan_alike oneBuilt twoBuilt).world
  rcases agrees.run same with ⟨last, courses⟩
  exact
    { results := by rw [courses]
      counts := by rw [courses]
      published := by rw [courses]
      last := last.system
      logs := last.logs }

/-- A limiter with one token. -/
def narrow : Session.Plan := { config := { maxInFlight := 1 } }

/-- Two subscribers behind a bus that keeps one event: one waits for a gate that nobody opens, and
the other panics. -/
def troubled : Session.Observation :=
  { subscribers :=
      [({ name := "stuck", queueCapacity := 0, conduct := fun _ => .waitsFor "never" }, .keeping),
       ({ name := "faulty", conduct := fun _ => .panics "fault" }, .writing)]
    busCapacity := 1 }

/-- One job is admitted, and another one is given up while it waits. -/
def rivalry : List Deed :=
  let root : Context := ⟨⟨0, 0⟩, []⟩
  [.call (.elsewhere (.createSignal false)),
   .call (.start (.admission ⟨"first", 0, none⟩ root .arriving)),
   .call (.start (.admission ⟨"second", 0, none⟩ root .arriving)),
   .turn (.task 0), .turn (.task 1), .call (.elsewhere (.fire 0)), .turn (.task 1)]

theorem sameAdmission_troubled :
    ∃ one two, Session.ofPlan (narrow.observed { busCapacity := 64 }) = .ok one ∧
      Session.ofPlan (narrow.observed troubled) = .ok two ∧
      SameAdmission one.world two.world rivalry
        (rivalry.flatMap fun deed =>
          [.turn .listener, .turn (.worker 0), .turn (.worker 1), deed]) ∧
      (one.world.run rivalry).system.counts = [(0, 1)] ∧ two.world.sinks.length = 2 := by
  refine ⟨_, _, rfl, rfl, ?_, by decide +kernel, rfl⟩
  exact sameAdmission_of_observed narrow { busCapacity := 64 } troubled rfl rfl rfl

end World

end Admission
