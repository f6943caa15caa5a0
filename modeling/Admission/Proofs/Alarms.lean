import Admission.Proofs.Passages
import Admission.Proofs.Proceeding

/-!
# What a turn does to the signals

Only timers fire signals in their turns. Any other task leaves the clock and the signals alone
until it ends, and then it gives up the clone that it holds, if it holds one. A task that waits
for a signal ends with its being stale only if the signal has fired, and goes on waiting only if
it has not.
-/

namespace Admission

namespace Chain

theorem advance_of_length_le {place passed : Nat} {limiters : List Limiter}
    (beyond : limiters.length ≤ passed) (visit : Visit) :
    (advance place passed visit limiters).2.1 = .through := by
  induction limiters generalizing place passed with
  | nil => cases passed <;> rfl
  | cons limiter rest ih =>
      cases passed with
      | zero => cases beyond
      | succ passed =>
          rw [advance_succ, Limiter.afterwards_passage]
          exact ih (Nat.le_of_succ_le_succ beyond)

theorem refusal_of_stopped {place passed : Nat} {visit : Visit} {limiters : List Limiter}
    {error : HandlerError} (stopped : (advance place passed visit limiters).2.1 = .stopped error) :
    visit.refusal = some error := by
  by_cases inside : passed < limiters.length
  · cases refused : visit.refusal with
    | none =>
        rcases advance_passes refused place (Nat.le_of_lt inside) with ⟨reached, passes⟩
        exact absurd stopped (passes.unstopped error)
    | some other =>
        have leaves := advance_leaves refused place inside
        rw [leaves.passage] at stopped
        cases stopped
        rfl
  · rw [advance_of_length_le (Nat.le_of_not_lt inside)] at stopped
    cases stopped

theorem refusal_of_waiting {place passed reached : Nat} {visit : Visit} {limiters : List Limiter}
    (waits : (advance place passed visit limiters).2.1 = .waiting reached) :
    visit.refusal = none := by
  by_cases inside : passed < limiters.length
  · cases refused : visit.refusal with
    | none => rfl
    | some error =>
        have leaves := advance_leaves refused place inside
        rw [leaves.passage] at waits
        cases waits
  · rw [advance_of_length_le (Nat.le_of_not_lt inside)] at waits
    cases waits

end Chain

namespace Pool

variable {pool : Pool} {waiter : Nat} {isCanceled isStale : Bool}

theorem isStale_of_turn (told : (pool.turn waiter isCanceled isStale).1 = .stale) :
    isStale = true := by
  cases isCanceled with
  | true => cases told
  | false =>
      cases isStale with
      | true => rfl
      | false =>
          rcases pool.claim_answer waiter with answer | answer <;> simp [turn, answer] at told

theorem isStale_of_pending (pending : (pool.turn waiter isCanceled isStale).1 = .pending) :
    isStale = false := by
  cases isCanceled with
  | true => cases pending
  | false =>
      cases isStale with
      | true => cases pending
      | false => rfl

end Pool

/-- The last handler fails a job as being stale only if its rule says so. -/
theorem Rule.fails_of_verdict {rule : Rule} {isCancelled : Bool}
    (verdict : rule.verdict isCancelled = .fails .staleJob) : rule.fails = some .staleJob := by
  rcases rule with ⟨holds, _ | text, checksContext, _ | error, starts⟩
  · simp only [Rule.verdict] at verdict
    split at verdict <;> cases verdict
  · simp only [Rule.verdict] at verdict
    split at verdict
    · cases verdict
    · cases verdict
      rfl
  · cases verdict
  · cases verdict

theorem Visit.isStale_of_refusal {visit : Visit} (refused : visit.refusal = some .staleJob) :
    visit.isStale = true := by
  rcases visit with ⟨task, uuid, _ | cause, _ | _, waited⟩ <;> first | rfl | cases refused

theorem Visit.isStale_of_free {visit : Visit} (free : visit.refusal = none) :
    visit.isStale = false := by
  rcases visit with ⟨task, uuid, _ | cause, _ | _, waited⟩ <;> first | rfl | cases free

/-- The signal of which a task holds a clone. -/
def Task.signal? : Task → Option Nat
  | .awaitStaleness signal | .acquisition _ signal => some signal
  | .admission job _ _ => some job.signal
  | .timer _ _ _ | .awaitCancellation _ | .registration _ _ _ | .listening _ => none

/-- The signal for which a task waits. -/
def Task.awaited? : Task → Option Nat
  | .awaitStaleness signal | .acquisition _ signal => some signal
  | .admission job _ (.waiting _ _) => some job.signal
  | .admission _ _ _ | .timer _ _ _ | .awaitCancellation _ | .registration _ _ _
  | .listening _ => none

/-- Whether a task fires a signal after a delay. -/
def Task.isTimer : Task → Bool
  | .timer _ _ _ => true
  | .awaitCancellation _ | .awaitStaleness _ | .acquisition _ _ | .admission _ _ _
  | .registration _ _ _ | .listening _ => false

theorem Task.Advances.signal?_eq {task later : Task} (advances : task.Advances later) :
    later.signal? = task.signal? := by
  cases advances <;> rfl

theorem Task.Advances.isTimer_eq {task later : Task} (advances : task.Advances later) :
    later.isTimer = task.isTimer := by
  cases advances <;> rfl

/-- The signals after a clone was given up. -/
def StaleSignal.released (signals : Array StaleSignal) : Option Nat → Array StaleSignal
  | some signal => signals.modify signal StaleSignal.drop
  | none => signals

namespace System

/-- The clock and the signals are the same. -/
structure KeepsSignals (system next : System) : Prop where
  now : next.now = system.now
  signals : next.signals = system.signals

section Keeping

variable {system next last : System}

theorem KeepsSignals.refl (system : System) : system.KeepsSignals system :=
  ⟨rfl, rfl⟩

theorem KeepsSignals.trans (first : system.KeepsSignals next) (second : next.KeepsSignals last) :
    system.KeepsSignals last :=
  ⟨second.now.trans first.now, second.signals.trans first.signals⟩

theorem KeepsSignals.isFired_eq (keeps : system.KeepsSignals next) (signal : Nat) :
    next.isFired signal = system.isFired signal := by
  rw [isFired, isFired, keeps.signals]

theorem note_keeps (system : System) (notice : Notice) :
    system.KeepsSignals (system.note notice) := by
  cases notice <;> exact ⟨rfl, rfl⟩

theorem noteAll_keeps (system : System) (notices : List Notice) :
    system.KeepsSignals (system.noteAll notices) :=
  List.foldlRecOn (motive := fun later => system.KeepsSignals later) notices note (.refl system)
    fun later keeps notice _ => keeps.trans (note_keeps later notice)

theorem passOn_keeps (system : System) (limiters : List Limiter) (notices : List Notice) :
    system.KeepsSignals ({ system with limiters }.noteAll notices) := by
  have keeps := noteAll_keeps { system with limiters } notices
  exact ⟨keeps.now, keeps.signals⟩

theorem tellCancelled_keeps (system : System) (cancellation : Cancellation) (tokens : List Nat) :
    system.KeepsSignals ({ system with cancellation }.tellCancelled tokens) := by
  have keeps := noteAll_keeps { system with cancellation }
    (tokens.map fun token => .told (.cancelled token))
  exact ⟨keeps.now, keeps.signals⟩

theorem cancel_keeps (system : System) (context : Context) (cause : Option String) :
    system.KeepsSignals (system.cancel context cause) :=
  tellCancelled_keeps system _ _

theorem cancelToken_keeps (system : System) (context : Context) :
    system.KeepsSignals (system.cancelToken context) :=
  tellCancelled_keeps system _ _

theorem abort_keeps (system : System) (index : Nat) : system.KeepsSignals (system.abort index) := by
  simp only [abort]
  split
  · exact .refl system
  · split
    · exact .refl system
    · have keeps := note_keeps { system with
        tasks := system.tasks.modify index fun state => { state with isAborted := true } }
        (.woken index)
      exact ⟨keeps.now, keeps.signals⟩

theorem spawn_keeps (system : System) (task : Task) :
    system.KeepsSignals (system.spawn task).1 := by
  have keeps := note_keeps { system with tasks := system.tasks.push { task } }
    (.spawned system.tasks.size)
  exact ⟨keeps.now, keeps.signals⟩

theorem withListener_keeps (system : System) (index : Nat) (feed : String) (context : Context)
    (watch : Watch) (deadline : Option Nat) :
    system.KeepsSignals (system.withListener index feed context watch deadline) := by
  have spawned := spawn_keeps
    (({ system with watches := system.watches.push watch }.holdContext watch.context).setTask index
      (.registration feed context (some (system.watches.size, deadline))))
    (.listening system.watches.size)
  exact ⟨spawned.now, spawned.signals⟩

theorem openGate_keeps (system : System) (gate : String) :
    system.KeepsSignals (system.openGate gate) := by
  simp only [openGate]
  split
  · exact .refl system
  · have keeps := note_keeps { system with gates := gate :: system.gates } (.told (.gate gate))
    exact ⟨keeps.now, keeps.signals⟩

/-! ### Streams and feeds -/

theorem tellStream_keeps (system : System) (stream : Nat) (change : Stream → Stream) :
    system.KeepsSignals (system.tellStream stream change) := by
  have keeps := note_keeps { system with streams := system.streams.modify stream change }
    (.told (.stream stream))
  exact ⟨keeps.now, keeps.signals⟩

theorem tellStreams_keeps (system : System) (streams : List Nat) (change : Stream → Stream) :
    system.KeepsSignals
      (streams.foldl (fun system stream => system.tellStream stream change) system) :=
  List.foldlRecOn (motive := fun later => system.KeepsSignals later) streams _ (.refl system)
    fun later keeps stream _ => keeps.trans (tellStream_keeps later stream change)

/-- A broadcast to the watchers of a feed that was changed. -/
theorem deliver_keeps (system : System) (name : String) (feed : Feed) (broadcast : Broadcast) :
    system.KeepsSignals ((system.setFeed name feed).deliver broadcast) := by
  apply deliver_induction (motive := fun later => system.KeepsSignals later)
  · exact ⟨rfl, rfl⟩
  · intro later keeps watcher _
    have told := tellStream_keeps later watcher.stream Stream.endWriting
    exact keeps.trans ⟨told.now, told.signals⟩
  · exact fun later keeps entry _ => keeps.trans (tellStream_keeps later _ _)

theorem applyResource_keeps (system : System) (name : String) (resource : JobResource) :
    system.KeepsSignals (system.applyResource name resource) := by
  simp only [applyResource]
  split
  · exact deliver_keeps system name _ _
  · exact .refl system

theorem deleteResource_keeps (system : System) (name uid : String) :
    system.KeepsSignals (system.deleteResource name uid).1 := by
  simp only [deleteResource]
  split
  · exact deliver_keeps system name _ _
  · exact .refl system

theorem injectChange_keeps (system : System) (name : String) (change : ResourceEvent) :
    system.KeepsSignals (system.injectChange name change) := by
  simp only [injectChange]
  split
  · exact deliver_keeps system name _ _
  · exact .refl system

theorem watchFeed_keeps (system : System) (name : String) (context : Context) :
    system.KeepsSignals (system.watchFeed name context).1 := by
  simp only [watchFeed]
  split
  · exact .refl system
  · exact ⟨rfl, rfl⟩
  · split
    · exact .refl system
    · exact ⟨rfl, rfl⟩

theorem sendItem_keeps (system : System) (name : String) (item : FeedItem) :
    system.KeepsSignals (system.sendItem name item).1 := by
  simp only [sendItem]
  split
  · exact tellStreams_keeps system _ _
  · exact .refl system

theorem closeFeed_keeps (system : System) (name : String) :
    system.KeepsSignals (system.closeFeed name) := by
  simp only [closeFeed]
  split
  · rename_i feed _
    have keeps := tellStreams_keeps (system.setFeed name (.scripted { feed with streams := [] }))
      feed.streams Stream.endWriting
    exact ⟨keeps.now, keeps.signals⟩
  · exact .refl system

end Keeping

/-! ### Ends of tasks -/

/-- A clone that is given up. -/
theorem dropSignal_alarms (system : System) (signal : Nat) :
    (system.dropSignal signal).now = system.now ∧
      (system.dropSignal signal).signals = system.signals.modify signal StaleSignal.drop := by
  have noted := note_keeps
    { system with signals := system.signals.modify signal StaleSignal.drop }
    (.told (.forsaken signal))
  simp only [dropSignal]
  split
  · split
    · exact ⟨noted.now, noted.signals⟩
    · exact ⟨rfl, rfl⟩
  · exact ⟨rfl, rfl⟩

theorem releaseHoldings_alarms (system : System) (task : Task) :
    (system.releaseHoldings task).now = system.now ∧
      (system.releaseHoldings task).signals =
        StaleSignal.released system.signals task.signal? := by
  cases task with
  | timer signal delay deadline => exact ⟨rfl, rfl⟩
  | awaitCancellation context => exact ⟨rfl, rfl⟩
  | awaitStaleness signal => exact dropSignal_alarms system signal
  | acquisition context signal => exact dropSignal_alarms system signal
  | admission job context stage => exact dropSignal_alarms system job.signal
  | registration feed context watch =>
      simp only [releaseHoldings]
      split <;> exact ⟨rfl, rfl⟩
  | listening watch =>
      simp only [releaseHoldings]
      split <;> exact ⟨rfl, rfl⟩

/-- A task that ends gives up its clone. -/
theorem finish_alarms {system : System} {index : Nat} {state : TaskState}
    (found : system.tasks[index]? = some state) (outcome : Outcome) :
    (system.finish index outcome).now = system.now ∧
      (system.finish index outcome).signals =
        StaleSignal.released system.signals state.task.signal? := by
  have noted := note_keeps { system with
      tasks := system.tasks.modify index fun state => { state with outcome := some outcome } }
    (.finished index outcome)
  simp only [finish, found]
  rw [(releaseHoldings_alarms _ state.task).1, (releaseHoldings_alarms _ state.task).2, noted.now,
    noted.signals]
  exact ⟨rfl, rfl⟩

/-- A task that waits for a signal ends with its being stale only if it is, and one that only
waits for it ends in no other way, unless it is dropped. A job may also fail because the last
handler finds it stale. -/
def Honest (system : System) : Task → Outcome → Prop
  | .awaitStaleness signal, outcome =>
      outcome = .aborted ∨ (outcome = .staleness true ∧ system.isFired signal = true)
  | .acquisition _ signal, outcome => outcome = .stale → system.isFired signal = true
  | .admission job _ _, outcome =>
      outcome = .handled (.error .staleJob) →
        system.isFired job.signal = true ∨ (system.ruleFor job.uuid).fails = some .staleJob
  | _, _ => True

/-- What a task that is no timer does to the signals: nothing until it ends, and then it gives up
its clone. -/
inductive Heeds (index : Nat) (task : Task) (system next : System) : Prop where
  | goesOn (later : TaskState) (keeps : system.KeepsSignals next)
      (found : next.tasks[index]? = some later) (unfinished : later.outcome = none)
      (unfired : ∀ signal, later.task.awaited? = some signal → system.isFired signal = false)
  | ends (later : TaskState) (outcome : Outcome) (now : next.now = system.now)
      (signals : next.signals = StaleSignal.released system.signals task.signal?)
      (found : next.tasks[index]? = some later) (ended : later.outcome = some outcome)
      (honest : system.Honest task outcome)

section Heeding

variable {system used : System} {index : Nat} {state : TaskState} {task : Task}
  (keeps : system.KeepsSignals used) (found : used.tasks[index]? = some state)

include keeps found

theorem Heeds.of_finish (same : state.task.signal? = task.signal?) {outcome : Outcome}
    (honest : system.Honest task outcome) :
    Heeds index task system (used.finish index outcome) := by
  rcases finish_alarms found outcome with ⟨now, signals⟩
  refine .ends { state with outcome := some outcome } outcome (now.trans keeps.now) ?_ ?_ rfl honest
  · rw [signals, keeps.signals, same]
  · rw [(finish_frame used index outcome).2.1]
    simp [Array.getElem?_modify, found]

theorem Heeds.of_unfinished (unfinished : state.outcome = none)
    (unfired : ∀ signal, state.task.awaited? = some signal → system.isFired signal = false) :
    Heeds index task system used :=
  .goesOn state keeps found unfinished unfired

theorem Heeds.of_setTask (unfinished : state.outcome = none) {later : Task}
    (unfired : ∀ signal, later.awaited? = some signal → system.isFired signal = false) :
    Heeds index task system (used.setTask index later) := by
  refine .goesOn { state with task := later } ⟨keeps.now, keeps.signals⟩ ?_ unfinished unfired
  simp [Array.getElem?_modify, found]

theorem Heeds.of_dropTask (same : state.task = task) :
    Heeds index task system (used.dropTask index task) := by
  have honest : system.Honest task .aborted := by
    cases task with
    | awaitStaleness signal => exact Or.inl rfl
    | acquisition _ _ | admission _ _ _ => simp [Honest]
    | timer _ _ _ | awaitCancellation _ | registration _ _ _ | listening _ => trivial
  have dropped {left : System} (keepsLeft : used.KeepsSignals left)
      (tasks : left.tasks = used.tasks) : Heeds index task system (left.finish index .aborted) :=
    .of_finish (keeps.trans keepsLeft) (by rw [tasks, found]) (by rw [same]) honest
  cases task with
  | acquisition context signal =>
      have noted := noteAll_keeps (used.setPool 0 ((used.pool 0).withdraw index).1)
        (Notice.wokenOf ((used.pool 0).withdraw index).2)
      exact dropped ⟨noted.now, noted.signals⟩ (by simp)
  | admission job context stage =>
      cases stage with
      | waiting place since => exact dropped (passOn_keeps used _ _) (by simp)
      | arriving | inside holds => exact dropped (.refl used) rfl
  | timer _ _ _ | awaitCancellation _ | awaitStaleness _ | registration _ _ _ | listening _ =>
      exact dropped (.refl used) rfl

/-! ### Jobs -/

theorem Heeds.of_concludeJob {job : Job} {context : Context} {stage stage' : Stage}
    (own : state.task = .admission job context stage') {result : Except HandlerError Unit}
    (honest : result = .error .staleJob → (system.ruleFor job.uuid).fails = some .staleJob) :
    Heeds index (.admission job context stage) system (used.concludeJob index job result) := by
  have present : ({ used with
      limiters := (Chain.conclude 0 job.uuid result used.limiters).1 }.noteAll
        (Chain.conclude 0 job.uuid result used.limiters).2).tasks[index]? = some state := by
    simpa using found
  refine .of_finish (keeps.trans (passOn_keeps used _ _)) present (by rw [own]; rfl) ?_
  intro same
  exact Or.inr (honest (Outcome.handled.inj same))

theorem Heeds.of_handleInside {job : Job} {context : Context} {stage stage' : Stage}
    (own : state.task = .admission job context stage') (unfinished : state.outcome = none)
    (rules : used.rules = system.rules) (holds : List Hold) :
    Heeds index (.admission job context stage) system
      (used.handleInside index job context holds) := by
  have rule : used.ruleFor job.uuid = system.ruleFor job.uuid := by rw [ruleFor, ruleFor, rules]
  simp only [handleInside]
  split
  · split
    · exact .of_finish keeps found (by rw [own]; rfl) (by simp [Honest])
    · rename_i error verdict
      refine .of_concludeJob keeps found own ?_
      intro same
      cases same
      rw [← rule]
      exact Rule.fails_of_verdict verdict
    · split
      · exact .of_concludeJob (keeps.trans (applyResource_keeps used _ _)) (by simpa using found)
          own (by simp)
      · exact .of_concludeJob keeps found own (by simp)
  · exact .of_setTask keeps found unfinished (by simp [Task.awaited?])

theorem Heeds.of_acquire {context : Context} {signal : Nat}
    (own : state.task = .acquisition context signal) (unfinished : state.outcome = none) :
    Heeds index (.acquisition context signal) system (used.acquire index context signal) := by
  simp only [acquire, keeps.isFired_eq]
  generalize given : (used.pool 0).turn index _ _ = answer
  have noted := noteAll_keeps (used.setPool 0 answer.2.1) (Notice.wokenOf answer.2.2)
  have keepsNoted := keeps.trans ⟨noted.now, noted.signals⟩
  have present : ((used.setPool 0 answer.2.1).noteAll (Notice.wokenOf answer.2.2)).tasks[index]? =
      some state := by simpa using found
  have same : state.task.signal? = (Task.acquisition context signal).signal? := by rw [own]
  split
  · rename_i pending
    refine .of_unfinished keepsNoted present unfinished ?_
    intro other awaited
    rw [own] at awaited
    cases awaited
    rw [← given] at pending
    exact Pool.isStale_of_pending pending
  · exact .of_finish keepsNoted present same (by simp [Honest])
  · exact .of_finish keepsNoted present same (by simp [Honest])
  · rename_i told
    rw [← given] at told
    exact .of_finish keepsNoted present same fun _ => Pool.isStale_of_turn told

/-! ### Watches -/

theorem Heeds.of_settleRegistration (unheld : state.task.signal? = none)
    (idle : state.task.awaited? = none) (unfinished : state.outcome = none) {feed : String}
    {context : Context} {watch : Option (Nat × Option Nat)} (watchIndex : Nat)
    (deadline : Option Nat) :
    Heeds index (.registration feed context watch) system
      (used.settleRegistration index context watchIndex deadline) := by
  have unheard : ∀ signal, state.task.awaited? = some signal → system.isFired signal = false := by
    intro signal awaited
    rw [idle] at awaited
    cases awaited
  simp only [settleRegistration]
  split
  · exact .of_unfinished keeps found unfinished unheard
  · split
    · exact .of_unfinished keeps found unfinished unheard
    · exact .of_finish (keeps.trans (note_keeps used _)) (by simpa using found) unheld trivial
    · refine .of_finish ((keeps.trans (cancel_keeps used _ _)).trans (note_keeps _ _)) ?_ unheld
        trivial
      simpa using found

theorem Heeds.of_startRegistration {feed : String} {context : Context}
    (own : state.task = .registration feed context none) (unfinished : state.outcome = none) :
    Heeds index (.registration feed context none) system
      (used.startRegistration index feed context) := by
  have watched := watchFeed_keeps
    { used with cancellation := (used.cancellation.child context).1 } feed
    (used.cancellation.child context).2
  simp only [startRegistration]
  split
  · rename_i after error watching
    rw [watching] at watched
    have present :
        (after.dropContext (used.cancellation.child context).2).tasks[index]? = some state := by
      rw [(dropContext_frame _ _).2.1, (watchChild_frame watching).1, found]
    have dropped : system.KeepsSignals
        (after.dropContext (used.cancellation.child context).2) :=
      keeps.trans ⟨watched.now, watched.signals⟩
    exact .of_finish dropped present (by rw [own]) trivial
  · rename_i after name stream watching
    rw [watching] at watched
    have present : after.tasks[index]? = some state := by rw [(watchChild_frame watching).1, found]
    let watch : Watch := ⟨name, (used.cancellation.child context).2, stream, false, false⟩
    have begun : system.KeepsSignals after := keeps.trans ⟨watched.now, watched.signals⟩
    exact .of_settleRegistration (begun.trans (withListener_keeps after index feed context watch _))
      (withListener_registration present feed context watch _) rfl rfl unfinished _ _

theorem Heeds.of_endListening {watchIndex : Nat} (own : state.task = .listening watchIndex)
    (watch : Watch) :
    Heeds index (.listening watchIndex) system (used.endListening index watchIndex watch) := by
  have ended := note_keeps used (Watch.endedNotice watch.feed)
  simp only [endListening]
  have told := note_keeps
    { used.note (Watch.endedNotice watch.feed) with
      watches := (used.note (Watch.endedNotice watch.feed)).watches.modify watchIndex
        fun watch => { watch with hasEnded := true }
      streams := (used.note (Watch.endedNotice watch.feed)).streams.modify watch.stream
        Stream.endReading } (.told (.barrier watchIndex))
  have present : (({ used.note (Watch.endedNotice watch.feed) with
      watches := (used.note (Watch.endedNotice watch.feed)).watches.modify watchIndex
        fun watch => { watch with hasEnded := true }
      streams := (used.note (Watch.endedNotice watch.feed)).streams.modify watch.stream
        Stream.endReading } : System).note (.told (.barrier watchIndex))).tasks[index]? =
          some state := by
    simpa using found
  exact .of_finish (keeps.trans (ended.trans ⟨told.now, told.signals⟩)) present (by rw [own])
    trivial

theorem Heeds.of_listen {watchIndex : Nat} (own : state.task = .listening watchIndex)
    (unfinished : state.outcome = none) :
    Heeds index (.listening watchIndex) system (used.listen index watchIndex) := by
  have unheard : ∀ signal, state.task.awaited? = some signal → system.isFired signal = false := by
    intro signal awaited
    rw [own] at awaited
    cases awaited
  simp only [listen]
  split
  · exact .of_unfinished keeps found unfinished unheard
  · rename_i watch _
    split
    · exact .of_endListening keeps found own watch
    · generalize Watch.takeAll 0 watchIndex watch.feed (used.pool 0) watch.isSynced _ = heard
      have noted := noteAll_keeps
        { used.setPool 0 heard.1 with
          streams := used.streams.modify watch.stream fun stream => (stream.take turnLimit).1
          watches := used.watches.modify watchIndex fun watch =>
            { watch with isSynced := heard.2.1 } } heard.2.2
      have keepsNoted := keeps.trans ⟨noted.now, noted.signals⟩
      have present : ({ used.setPool 0 heard.1 with
          streams := used.streams.modify watch.stream fun stream => (stream.take turnLimit).1
          watches := used.watches.modify watchIndex fun watch =>
            { watch with isSynced := heard.2.1 } }.noteAll heard.2.2).tasks[index]? =
              some state := by simpa using found
      split
      · exact .of_unfinished (keepsNoted.trans (note_keeps _ _)) (by simpa using found) unfinished
          unheard
      · split
        · exact .of_unfinished keepsNoted present unfinished unheard
        · exact .of_endListening keepsNoted present own watch

end Heeding

/-! ### Turns -/

section Turns

variable {system : System} {index : Nat} {state : TaskState}
  (found : system.tasks[index]? = some state) (unfinished : state.outcome = none)

include found unfinished

theorem Heeds.of_admitJob {job : Job} {context : Context} {stage : Stage}
    (own : state.task = .admission job context stage)
    (place since : Nat) :
    Heeds index (.admission job context stage) system
      (system.admitJob index job context place since) := by
  simp only [admitJob]
  generalize given : Chain.advance 0 place _ system.limiters = advanced
  have noted := passOn_keeps system advanced.1 advanced.2.2
  have present : ({ system with limiters := advanced.1 }.noteAll advanced.2.2).tasks[index]? =
      some state := by simpa using found
  split
  · rename_i reached passage
    refine .of_setTask noted present unfinished ?_
    intro signal awaited
    cases awaited
    rw [← given] at passage
    exact Visit.isStale_of_free (Chain.refusal_of_waiting passage)
  · rename_i error passage
    refine .of_finish noted present (by rw [own]) ?_
    intro stale
    cases stale
    rw [← given] at passage
    exact Or.inl (Visit.isStale_of_refusal (Chain.refusal_of_stopped passage))
  · refine .of_handleInside (noted.trans (note_keeps _ _)) ?_ own unfinished ?_ _
    · simpa using found
    · simp

/-- A turn of a task that is no timer. -/
theorem turn_heeds (other : state.task.isTimer = false) :
    Heeds index state.task system (system.turn index) := by
  have keeps := KeepsSignals.refl system
  by_cases marked : state.isAborted = true
  · rw [turn_of_isAborted found unfinished marked]
    exact .of_dropTask keeps found rfl
  · simp only [turn, found, unfinished, marked, Option.isSome_none, Bool.false_eq_true, if_false]
    cases own : state.task with
    | timer signal delay deadline =>
        rw [own] at other
        cases other
    | awaitCancellation context =>
        simp only
        split
        · exact .of_finish keeps found (by rw [own]) trivial
        · exact .of_unfinished keeps found unfinished (by simp [own, Task.awaited?])
    | awaitStaleness signal =>
        simp only
        split
        · rename_i fired
          exact .of_finish keeps found (by rw [own]) (Or.inr ⟨rfl, fired⟩)
        · rename_i unfired
          refine .of_unfinished keeps found unfinished ?_
          intro other awaited
          rw [own] at awaited
          cases awaited
          simpa using unfired
    | acquisition context signal => exact .of_acquire keeps found own unfinished
    | admission job context stage =>
        cases stage with
        | arriving => exact .of_admitJob found unfinished own 0 system.now
        | waiting place since => exact .of_admitJob found unfinished own place since
        | inside holds => exact .of_handleInside keeps found own unfinished rfl holds
    | registration feed context watch =>
        cases watch with
        | none => exact .of_startRegistration keeps found own unfinished
        | some watch =>
            exact .of_settleRegistration keeps found (by rw [own]; rfl) (by rw [own]; rfl)
              unfinished watch.1 watch.2
    | listening watch => exact .of_listen keeps found own unfinished

theorem dropNow_heeds : Heeds index state.task system (system.dropNow index) := by
  simp only [dropNow, found, unfinished, Option.isSome_none, Bool.false_eq_true, if_false]
  exact .of_dropTask (.refl system) found rfl

end Turns

end System

end Admission
