import Admission.Proofs.Lossless
import Admission.Proofs.Tallies

/-!
# Metrics agree with what happened

A fresh set of metrics is among the subscribers with which a limiter is built, and nothing but the
limiter and its reconciler feeds it. Unless an event is lost on the way, what the metrics show once
everything has been delivered is what happened: how many notifications of each kind the reconciler was
given, how the waits of the handle calls ended, how many of them failed further on, and the capacity.
-/

namespace Admission

/-- Whether a change is a notification of a kind, or one that should have been of that kind. -/
def ResourceEvent.concerns (kind : NotificationKind) : ResourceEvent → Bool
  | added _ _ => kind == .add
  | updated _ _ => kind == .update
  | deleted _ => kind == .delete
  | unrecognized other _ => other == kind

/-- Whether a move starts no job but those that have yet to have a turn, and publishes nothing on the
first bus from outside. -/
def Move.isUnforged : Move → Bool
  | .start (.admission _ _ stage) => stage == .arriving
  | .elsewhere (.publish place _) => place != 0
  | _ => true

theorem Move.startsArriving_of_isUnforged {move : Move} (unforged : move.isUnforged = true) :
    move.startsArriving = true := by
  cases move with
  | start task => cases task <;> first | rfl | exact unforged
  | _ => rfl

/-- Whether nobody publishes an event of its own in a step. -/
def RelayStep.isUnforged : RelayStep → Bool
  | publish _ => false
  | act move => move.isUnforged
  | _ => true

open LimiterMetrics

/-- A registry shows what happened in a run. -/
structure Registry.Agrees (registry : Registry) (space : String) (capacity : Nat) (start : System)
    (moves : List Move) : Prop where
  added : registry.reading? (fullName space added) =
    some ((start.gather System.notified moves).countP (·.concerns .add))
  updated : registry.reading? (fullName space updated) =
    some ((start.gather System.notified moves).countP (·.concerns .update))
  deleted : registry.reading? (fullName space deleted) =
    some ((start.gather System.notified moves).countP (·.concerns .delete))
  staleJobs : registry.reading? (fullName space staleJobs) =
    some (start.tasksWith (System.endsWait .stale) moves)
  canceledWaits : registry.reading? (fullName space canceledWaits) =
    some (start.tasksWith (System.endsWait .canceled) moves)
  handlerErrors : registry.reading? (fullName space handlerErrors) =
    some (start.tasksWith System.failsBehind moves)
  tokenWait : registry.reading? (fullName space tokenWait) =
    some (start.tasksWith (System.endsWait .acquired) moves)
  maxInFlight : registry.reading? (fullName space maxInFlight) = some capacity

/-! ### What the events tell of -/

namespace LimiterMetrics

/-- The counter of the notifications of a kind. -/
def counterOfNotification : NotificationKind → String
  | .add => added
  | .update => updated
  | .delete => deleted

theorem passes_notification (kind : NotificationKind) (change : ResourceEvent) :
    Sign.passes (isCountedBy (counterOfNotification kind)) change.sign = change.concerns kind := by
  cases change with
  | unrecognized other reason => cases kind <;> cases other <;> rfl
  | _ => cases kind <;> rfl

theorem isCountedBy_notification (kind : NotificationKind) {event : Event}
    (admission : event.kind.isAdmission = true) :
    isCountedBy (counterOfNotification kind) event = false := by
  rcases event with ⟨own, _, _, _, _, _, _, _, _, _⟩
  cases kind <;> cases own <;> first | rfl | cases admission

/-- Each of the other counters counts the events of one kind. -/
theorem isCountedBy_admission {family : String} {kind : EventKind}
    (counts : (family, kind) ∈ [(staleJobs, .jobStale), (canceledWaits, .waitCanceled),
      (handlerErrors, .tokenReturned)]) (event : Event) :
    isCountedBy family event = (event.kind == kind) := by
  simp only [List.mem_cons, Prod.mk.injEq, List.not_mem_nil, or_false] at counts
  rcases event with ⟨own, _, _, _, _, _, _, _, _, notification⟩
  rcases counts with ⟨rfl, rfl⟩ | ⟨rfl, rfl⟩ | ⟨rfl, rfl⟩ <;> cases own <;>
    first | rfl | rcases notification with _ | (_ | _ | _) <;> rfl

section Counts

variable {start : System} {moves : List Move}

/-- What limiters tell a job is about its admission. -/
theorem countP_jobSigns (reckoned : System.Reckoned start moves) {test : Event → Bool}
    (foreign : ∀ event : Event, event.kind.isAdmission = true → test event = false) :
    (start.gather System.jobSigns moves).countP (Sign.passes test) = 0 := by
  apply List.countP_eq_zero.mpr
  intro sign member
  have ofJob := List.all_eq_true.mp reckoned.isOfJob sign member
  cases sign with
  | told place event =>
      rw [Sign.isOfJob, Bool.and_eq_true] at ofJob
      simp [Sign.passes, foreign event ofJob.1]
  | _ => exact Bool.false_ne_true

/-- The counter of a kind of notification counts what the reconciler was given. -/
theorem countP_notification (reckoned : System.Reckoned start moves) (kind : NotificationKind) :
    (start.gather System.jobSigns moves).countP
        (Sign.passes (isCountedBy (counterOfNotification kind))) +
      ((start.gather System.notified moves).countP fun change =>
        Sign.passes (isCountedBy (counterOfNotification kind)) change.sign) =
      (start.gather System.notified moves).countP (·.concerns kind) := by
  have untold : (start.gather System.jobSigns moves).countP
      (Sign.passes (isCountedBy (counterOfNotification kind))) = 0 := by
    apply countP_jobSigns reckoned
    intro event admission
    exact isCountedBy_notification kind admission
  simp only [untold, passes_notification, Nat.zero_add]

/-- The counter of a kind of event of admission counts what the jobs told. -/
theorem countP_admission {family : String} {kind : EventKind}
    (counts : (family, kind) ∈ [(staleJobs, .jobStale), (canceledWaits, .waitCanceled),
      (handlerErrors, .tokenReturned)]) (signs : List Sign) (changes : List ResourceEvent) :
    signs.countP (Sign.passes (isCountedBy family)) +
        (changes.countP fun change => Sign.passes (isCountedBy family) change.sign) =
      signs.countP (Sign.tells kind 0) := by
  have tells : Sign.passes (isCountedBy family) = Sign.tells kind 0 := by
    funext sign
    cases sign with
    | told place event => simp [Sign.passes, Sign.tells, isCountedBy_admission counts]
    | _ => rfl
  have admission : kind.isAdmission = true := by
    simp only [List.mem_cons, Prod.mk.injEq, List.not_mem_nil, or_false] at counts
    rcases counts with ⟨-, rfl⟩ | ⟨-, rfl⟩ | ⟨-, rfl⟩ <;> rfl
  rw [tells, System.countP_notified admission, Nat.add_zero]

/-- The histogram observes the waits that won a token. -/
theorem countP_observed (reckoned : System.Reckoned start moves) :
    (start.gather System.jobSigns moves).countP (Sign.passes isObserved) +
      ((start.gather System.notified moves).countP fun change =>
        Sign.passes isObserved change.sign) = start.tasksWith (System.endsWait .acquired) moves := by
  have told : (start.gather System.jobSigns moves).countP (Sign.passes isObserved) =
      (start.gather System.jobSigns moves).countP (Sign.tells .tokenAcquired 0) := by
    apply List.countP_congr
    intro sign member
    have ofJob := List.all_eq_true.mp reckoned.isOfJob sign member
    cases sign with
    | told place event =>
        by_cases won : event.kind = .tokenAcquired
        · simp [Sign.isOfJob, won, EventKind.isAdmission] at ofJob
          simp [Sign.passes, Sign.tells, isObserved, won, ofJob]
        · simp [Sign.passes, Sign.tells, isObserved, won]
    | _ => exact Iff.rfl
  have unobserved : ((start.gather System.notified moves).countP fun change =>
      Sign.passes isObserved change.sign) = 0 := by
    apply List.countP_eq_zero.mpr
    intro change _
    cases change <;> exact Bool.false_ne_true
  rw [told, unobserved, Nat.add_zero, reckoned.acquired]

/-- Neither a job nor the reconciler tells of a capacity. -/
theorem countP_configured (reckoned : System.Reckoned start moves) {test : Event → Bool}
    (configured : ∀ event, test event = true → event.kind = .capacityConfigured) :
    (start.gather System.jobSigns moves).countP (Sign.passes test) +
      ((start.gather System.notified moves).countP fun change =>
        Sign.passes test change.sign) = 0 := by
  have untold : (start.gather System.jobSigns moves).countP (Sign.passes test) = 0 := by
    apply countP_jobSigns reckoned
    intro event admission
    cases passes : test event with
    | false => rfl
    | true =>
        rw [configured event passes] at admission
        cases admission
  have unnotified : ((start.gather System.notified moves).countP fun change =>
      Sign.passes test change.sign) = 0 := by
    apply List.countP_eq_zero.mpr
    intro change _ passes
    rw [ResourceEvent.sign, Sign.passes, Bool.and_eq_true] at passes
    have kind := configured _ passes.2
    cases change <;> cases kind
  omega

end Counts

end LimiterMetrics

/-- Events that tell of a run: that the limiter was set up, what the jobs told, and what the
reconciler told. -/
def TellsOf (events : List Event) (limiter : Limiter) (start : System) (moves : List Move) : Prop :=
  ∀ test : Event → Bool, (∀ event : Event, test event.bare = test event) →
    (∀ event : Event, event.kind = .feedSynced → test event = false) →
    events.countP test = (test (Session.configuredEvent limiter)).toNat +
      ((start.gather System.jobSigns moves).countP (Sign.passes test) +
        (start.gather System.notified moves).countP fun change => Sign.passes test change.sign)

section Readings

variable {start : System} {moves : List Move} {limiter : Limiter} {space : String} {index : Nat}
  {deliveries : List Delivery} {events : List Event}

theorem TellsOf.counted {family : String} (tells : TellsOf events limiter start moves) :
    events.countP (isCountedBy family) =
      (start.gather System.jobSigns moves).countP (Sign.passes (isCountedBy family)) +
        (start.gather System.notified moves).countP fun change =>
          Sign.passes (isCountedBy family) change.sign := by
  rw [tells (isCountedBy family)]
  · exact Nat.zero_add _
  · intro event
    rfl
  · intro event synced
    simp [isCountedBy, counterOf, synced]

/-- Only the limiter tells of its capacity, once. -/
theorem TellsOf.configured (tells : TellsOf events limiter start moves)
    (reckoned : System.Reckoned start moves) :
    (∃ event ∈ events, event.kind = .capacityConfigured) ∧
      ∀ event ∈ events, event.kind = .capacityConfigured →
        event.capacity = some limiter.pool.capacity := by
  let misled : Event → Bool := fun event =>
    event.kind == .capacityConfigured && event.capacity != some limiter.pool.capacity
  have once := tells (fun event => event.kind == .capacityConfigured) (fun _ => rfl)
    (fun event synced => by simp [synced])
  have never := tells misled (fun _ => rfl) (fun event synced => by simp [misled, synced])
  rw [countP_configured reckoned (by simp)] at once
  rw [countP_configured reckoned (by simp +contextual [misled])] at never
  constructor
  · have some : 0 < events.countP fun event => event.kind == .capacityConfigured := by
      rw [once]
      exact Nat.one_pos
    simpa using List.countP_pos_iff.mp some
  · intro event member kind
    have none : events.countP misled = 0 := by
      rw [never]
      simp [misled, Session.configuredEvent]
    have right := List.countP_eq_zero.mp none event member
    simpa [misled, kind] using right

/-- A fresh set of metrics that was told of a run agrees with it. -/
theorem Registry.agrees_of_tells (accepted : (enroll space {}).2 = none)
    (bounded : limiter.pool.capacity ≤ Registry.maxGauge)
    (reckoned : System.Reckoned start moves)
    (tells : TellsOf (Delivery.events Delivery.isHandled index deliveries) limiter start moves) :
    ((enroll space {}).1.after space index deliveries).Agrees space limiter.pool.capacity start
      moves := by
  have notified (kind : NotificationKind) :
      ((enroll space {}).1.after space index deliveries).reading?
          (fullName space (counterOfNotification kind)) =
        some ((start.gather System.notified moves).countP (·.concerns kind)) := by
    rw [Registry.after_counter accepted (by cases kind <;> simp [counterOfNotification]),
      tells.counted, countP_notification reckoned kind]
  have told {family : String} (kind : EventKind)
      (counts : (family, kind) ∈ [(staleJobs, .jobStale), (canceledWaits, .waitCanceled),
        (handlerErrors, .tokenReturned)]) :
      ((enroll space {}).1.after space index deliveries).reading? (fullName space family) =
        some ((start.gather System.jobSigns moves).countP (Sign.tells kind 0)) := by
    have counter : family ∈ [added, updated, deleted, staleJobs, canceledWaits, handlerErrors] := by
      simp only [List.mem_cons, Prod.mk.injEq, List.not_mem_nil, or_false] at counts
      rcases counts with ⟨rfl, -⟩ | ⟨rfl, -⟩ | ⟨rfl, -⟩ <;> simp
    rw [Registry.after_counter accepted counter, tells.counted, countP_admission counts]
  refine ⟨notified .add, notified .update, notified .delete, ?_, ?_, ?_, ?_, ?_⟩
  · rw [told .jobStale (by simp), reckoned.stale]
  · rw [told .waitCanceled (by simp), reckoned.canceled]
  · rw [told .tokenReturned (by simp), reckoned.returned]
  · rw [Registry.after_histogram accepted, tells isObserved, countP_observed reckoned]
    · exact congrArg some (Nat.zero_add _)
    · intro event
      simp [isObserved, Event.bare]
    · intro event synced
      simp [isObserved, synced]
  · rcases tells.configured reckoned with ⟨once, right⟩
    rw [Registry.after_gauge accepted once right, Nat.min_eq_left bounded]

end Readings

/-! ### Runs of a limiter that was built -/

namespace Relay

/-- A relay with which a limiter is built: after the listener has subscribed, it is published that the
limiter was set up. -/
def built (system : System) (limiter : Limiter) (capacity : Nat) (log : Array Event)
    (others : List Bus) (subscribers : List (Subscriber × Role)) (handles : Nat) : Relay :=
  (opening system capacity log others subscribers handles).perform
    (.act (.elsewhere (.publish 0 (Session.configuredEvent limiter))))

theorem unforged_of_made {relay : Relay} {steps : List RelayStep}
    (fed : ∀ step ∈ steps, step.isUnforged = true) :
    ∀ move ∈ relay.made steps, move.isUnforged = true := by
  induction steps generalizing relay with
  | nil =>
      intro move member
      cases member
  | cons step rest ih =>
      intro move member
      rcases List.mem_append.mp member with now | later
      · have unforged := fed step (by simp)
        cases step with
        | act other =>
            simp only [moves] at now
            split at now
            · cases now
            · rw [List.mem_singleton.mp now]
              exact unforged
        | openGate gate =>
            rw [List.mem_singleton.mp now]
            rfl
        | _ => cases now
      · exact ih (fun other inside => fed other (by simp [inside])) move later

section Built

variable {system : System} {limiter : Limiter} {capacity : Nat} {log : Array Event}
  {others : List Bus} {subscribers : List (Subscriber × Role)} {handles index : Nat}

theorem opening_log (system : System) (capacity : Nat) (log : Array Event) (others : List Bus)
    (subscribers : List (Subscriber × Role)) (handles : Nat) :
    (opening system capacity log others subscribers handles).log.length = log.size := by
  rcases opening_eq system capacity log others subscribers handles with ⟨scheduler, fresh⟩
  rw [fresh]
  exact Array.length_toList

theorem built_system : (built system limiter capacity log others subscribers handles).world.system =
    system.note (.published 0 (Session.configuredEvent limiter)) := by
  rcases opening_eq system capacity log others subscribers handles with ⟨scheduler, fresh⟩
  rw [built, perform_system, fresh]
  simp [moves, World.firstBus, System.perform, System.undergo]

theorem built_countP {test : Event → Bool}
    (timeless : ∀ event : Event, test event.bare = test event) :
    (built system limiter capacity log others subscribers handles).world.system.signs.countP
        (Sign.passes test) =
      system.signs.countP (Sign.passes test) + (test (Session.configuredEvent limiter)).toNat := by
  rw [built_system, System.note_signs, List.countP_append]
  congr 1
  cases passes : test (Session.configuredEvent limiter) <;> simp [Sign.passes, timeless, passes]

/-- What the signs of a relay add up to that nobody else feeds. -/
theorem run_countP (relay : Relay) {steps : List RelayStep}
    (fed : ∀ step ∈ steps, step.isUnforged = true) {test : Event → Bool}
    (unmoved : ∀ event : Event, event.kind = .feedSynced → test event = false) :
    (relay.run steps).world.system.signs.countP (Sign.passes test) =
      relay.world.system.signs.countP (Sign.passes test) +
        ((relay.world.system.gather System.jobSigns (relay.made steps)).countP
            (Sign.passes test) +
          (relay.world.system.gather System.notified (relay.made steps)).countP fun change =>
            Sign.passes test change.sign) := by
  rw [run_system]
  apply System.countP_of_run
  · intro event synced
    simp [Sign.passes, unmoved event synced]
  · intro place event published
    have elsewhere := unforged_of_made fed _ published
    simp only [Move.isUnforged, bne_iff_ne] at elsewhere
    simp [Sign.passes, elsewhere]

/-- What the subscriber of a sink handles, if nothing is lost, is told by the signs since the relay
began. -/
theorem Lossless.handled_countP {steps : List RelayStep} {subscriber : Subscriber} {role : Role}
    (lossless : (built system limiter capacity log others subscribers handles).Lossless steps index)
    (served : subscribers[index]? = some (subscriber, role))
    (completes : ∀ event, subscriber.conduct event = .completes)
    (fed : ∀ step ∈ steps, step.isUnforged = true) {test : Event → Bool}
    (timeless : ∀ event : Event, test event.bare = test event) :
    let opened := built system limiter capacity log others subscribers handles
    (opened.run steps).world.system.signs.countP (Sign.passes test) =
      system.signs.countP (Sign.passes test) +
        (Delivery.events Delivery.isHandled index (opened.delivered steps)).countP test := by
  intro opened
  let fresh := opening system capacity log others subscribers handles
  let first : RelayStep := .act (.elsewhere (.publish 0 (Session.configuredEvent limiter)))
  have whole : fresh.Lossless (first :: steps) index :=
    ⟨lossless.unskipped, lossless.undropped, lossless.heard, lossless.handled⟩
  have kept : fresh.Kept fresh.log.length (subscribers.map (·.1)) [] [] := by
    rw [opening_log]
    exact .opening system capacity log others subscribers handles
  have shared : ∀ step ∈ first :: steps, step.isOwn = false := by
    intro step member
    rcases List.mem_cons.mp member with rfl | later
    · rfl
    · have unforged := fed step later
      cases step <;> first | rfl | cases unforged
  have same : fresh.world.system = system := by
    rcases opening_eq system capacity log others subscribers handles with ⟨scheduler, began⟩
    simp only [fresh, began]
  rw [← same]
  exact whole.countP kept (by simp [served]) completes shared timeless

/-- What the subscriber of a sink has handled, if nothing is lost: that the limiter was set up, and
what the jobs and the reconciler told. -/
theorem handled_tellsOf {steps : List RelayStep} {subscriber : Subscriber} {role : Role}
    (lossless : (built system limiter capacity log others subscribers handles).Lossless steps index)
    (served : subscribers[index]? = some (subscriber, role))
    (completes : ∀ event, subscriber.conduct event = .completes)
    (fed : ∀ step ∈ steps, step.isUnforged = true) :
    let opened := built system limiter capacity log others subscribers handles
    TellsOf (Delivery.events Delivery.isHandled index (opened.delivered steps)) limiter
      opened.world.system (opened.made steps) := by
  intro opened test timeless unmoved
  have handled : (opened.run steps).world.system.signs.countP (Sign.passes test) =
      system.signs.countP (Sign.passes test) +
        (Delivery.events Delivery.isHandled index (opened.delivered steps)).countP test :=
    lossless.handled_countP served completes fed timeless
  have announced : opened.world.system.signs.countP (Sign.passes test) =
      system.signs.countP (Sign.passes test) + (test (Session.configuredEvent limiter)).toNat :=
    built_countP timeless
  have told := run_countP opened fed unmoved
  omega

/-- A fresh set of metrics takes account of what its sink handles. -/
theorem built_measures {subscriber : Subscriber} {space : String}
    (measuring : subscribers[index]? = some (subscriber, .measuring space)) :
    (built system limiter capacity log others subscribers handles).world.Measures index space
      (enroll space {}).1 := by
  apply perform_measures
  rcases opening_eq system capacity log others subscribers handles with ⟨scheduler, fresh⟩
  rw [fresh]
  constructor
  · simp [measuring]
  · simp [measuring, Session.registryOf]

end Built

/-- In every run of a limiter that was built with a fresh set of metrics and that nobody else feeds,
the metrics agree with what happened, once every event has been delivered and if none was lost. -/
theorem metrics_of_lossless (system : System) (limiter : Limiter)
    (first : system.limiters.head? = some limiter)
    (created : Pool.create limiter.pool.capacity = .ok limiter.pool) (idle : system.tasks = #[])
    (capacity : Nat) (log : Array Event) (others : List Bus)
    (subscribers : List (Subscriber × Role)) (handles index : Nat) (name : String)
    (queueCapacity : Nat) (space : String)
    (measuring : subscribers[index]? = some ({ name, queueCapacity }, .measuring space))
    (accepted : (enroll space {}).2 = none) (steps : List RelayStep)
    (fed : ∀ step ∈ steps, step.isUnforged = true)
    (lossless :
      (built system limiter capacity log others subscribers handles).Lossless steps index) :
    let opened := built system limiter capacity log others subscribers handles
    ∃ registry, (opened.run steps).world.registries[index]? = some registry ∧
      registry.Agrees space limiter.pool.capacity opened.world.system (opened.made steps) := by
  intro opened
  have measures : (opened.run steps).world.Measures index space
      ((enroll space {}).1.after space index (opened.delivered steps)) :=
    run_measures (built_measures measuring) steps
  refine ⟨_, measures.registered, ?_⟩
  have reckoned : System.Reckoned opened.world.system (opened.made steps) := by
    have same : opened.world.system =
        system.note (.published 0 (Session.configuredEvent limiter)) := built_system
    rw [same]
    apply System.reckoned_of_run
    · exact List.length_pos_of_mem (List.mem_of_head? first)
    · exact idle
    · intro move member
      exact Move.startsArriving_of_isUnforged (unforged_of_made fed move member)
  have bounded : limiter.pool.capacity ≤ Registry.maxGauge := by
    apply Nat.le_trans (Pool.le_maxCapacity_of_create created)
    decide
  apply Registry.agrees_of_tells accepted bounded reckoned
  exact handled_tellsOf lossless measuring (fun _ => rfl) fed

/-- A limiter with one token, whose only subscriber is a fresh set of metrics. -/
def measured : Relay :=
  built (System.single (.full 1)) { pool := .full 1, next := "end" } 64 #[] []
    [({ name := LimiterMetrics.name }, .measuring defaultNamespace)] 0

/-- The first of four jobs fails, the second one keeps the token, and while they wait for it the third
one is cancelled and the last one goes stale. Of two notifications one makes no sense. -/
def fourfold : List RelayStep :=
  ([.elsewhere (.instruct [("failing", { fails := some (.fail "refused") })]),
    .elsewhere .createContext, .elsewhere .createContext, .elsewhere (.createSignal false),
    .elsewhere (.createSignal false),
    .start (.admission { uuid := "failing", signal := 0 } ⟨⟨0, 0⟩, []⟩ .arriving), .turn 0,
    .start (.admission { uuid := "lasting", signal := 0 } ⟨⟨0, 0⟩, []⟩ .arriving), .turn 1,
    .start (.admission { uuid := "late", signal := 0 } ⟨⟨1, 1⟩, []⟩ .arriving), .turn 2,
    .start (.admission { uuid := "old", signal := 1 } ⟨⟨0, 0⟩, []⟩ .arriving), .turn 3,
    .elsewhere (.cancel ⟨⟨1, 1⟩, []⟩ none), .turn 2, .elsewhere (.fire 1), .turn 3,
    .reconcile (.added (.running "lasting" "lasting") false),
    .reconcile (.unrecognized .add "no such object")] : List Move).map .act ++ [.listen, .work 0]

theorem metrics_fourfold :
    (∃ registry, (measured.run fourfold).world.registries[0]? = some registry ∧
      registry.Agrees defaultNamespace 1 measured.world.system (measured.made fourfold)) ∧
    (measured.world.system.gather System.notified (measured.made fourfold)).countP
      (·.concerns .add) = 2 ∧
    measured.world.system.tasksWith (System.endsWait .acquired) (measured.made fourfold) = 2 ∧
    measured.world.system.tasksWith (System.endsWait .canceled) (measured.made fourfold) = 1 ∧
    measured.world.system.tasksWith (System.endsWait .stale) (measured.made fourfold) = 1 ∧
    measured.world.system.tasksWith System.failsBehind (measured.made fourfold) = 1 := by
  have idle : (measured.run fourfold).world.sinks.all (fun sink =>
      sink.queue == [] && sink.handling == none) = true := by decide +kernel
  have lossless : measured.Lossless fourfold 0 := by
    refine ⟨by decide +kernel, by decide +kernel, by decide +kernel, ?_⟩
    intro sink found
    simpa using List.all_eq_true.mp idle sink (List.mem_of_getElem? found)
  have agrees := metrics_of_lossless (System.single (.full 1)) { pool := .full 1, next := "end" }
    rfl rfl rfl 64 #[] [] [({ name := LimiterMetrics.name }, .measuring defaultNamespace)] 0 0
    LimiterMetrics.name 1024 defaultNamespace rfl (by decide) fourfold (by decide) lossless
  exact ⟨agrees, by decide +kernel, by decide +kernel, by decide +kernel, by decide +kernel,
    by decide +kernel⟩

end Relay

end Admission
