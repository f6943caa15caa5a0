import Admission.System.Turn

/-!
# What operations leave alone

A system is a record with many fields, and most of its operations change one or two of them. For
each operation this file says which fields it leaves as they are. The facts are rewriting rules,
so that a statement about the limiters or the tasks of a system does not have to follow the notes
that an operation writes along the way.

The notes themselves matter in one respect: a limiter that takes a token back after a later
handler failed writes a record of it, and whether the pool accepted the token is a field of that
record. `System.takenBack` reads these records off the history.
-/

namespace Admission

/-- The record of a token that a limiter took back, if a notice is one. -/
def Notice.takenBack? : Notice → Option LogRecord
  | .logged record => if record.message = "next handler failed" then some record else none
  | _ => none

/-- The records of the tokens that a list of notices says were taken back. -/
def Notice.allTakenBack (notices : List Notice) : List LogRecord :=
  notices.filterMap takenBack?

namespace Notice

@[simp]
theorem takenBack?_published (place : Nat) (event : Event) :
    (published place event).takenBack? = none := rfl

@[simp]
theorem takenBack?_woken (task : Nat) : (woken task).takenBack? = none := rfl

@[simp]
theorem takenBack?_yielded (task : Nat) : (yielded task).takenBack? = none := rfl

@[simp]
theorem takenBack?_told (source : Source) : (told source).takenBack? = none := rfl

@[simp]
theorem takenBack?_spawned (task : Nat) : (spawned task).takenBack? = none := rfl

@[simp]
theorem takenBack?_forwarded (arrival : Arrival) : (forwarded arrival).takenBack? = none := rfl

@[simp]
theorem takenBack?_finished (task : Nat) (outcome : Outcome) :
    (finished task outcome).takenBack? = none := rfl

@[simp]
theorem allTakenBack_nil : allTakenBack [] = [] := rfl

@[simp]
theorem allTakenBack_cons (notice : Notice) (notices : List Notice) :
    allTakenBack (notice :: notices) = notice.takenBack?.toList ++ allTakenBack notices := by
  cases hasRecord : notice.takenBack? <;> simp [allTakenBack, hasRecord]

@[simp]
theorem allTakenBack_append (notices more : List Notice) :
    allTakenBack (notices ++ more) = allTakenBack notices ++ allTakenBack more := by
  simp [allTakenBack]

@[simp]
theorem allTakenBack_wokenOf (waiter : Option Nat) : allTakenBack (wokenOf waiter) = [] := by
  cases waiter <;> simp [wokenOf]

end Notice

namespace System

/-- The records of the tokens that limiters took back, in order. -/
def takenBack (system : System) : List LogRecord :=
  Notice.allTakenBack system.history.toList

/-- How a task ended, if it has. -/
def outcome? (system : System) (index : Nat) : Option Outcome :=
  system.tasks[index]?.bind (·.outcome)

@[simp]
theorem allTakenBack_history (system : System) :
    Notice.allTakenBack system.history.toList = system.takenBack := rfl

@[simp]
theorem takenBack_mk (now : Nat) (cancellation : Cancellation) (signals : Array StaleSignal)
    (limiters : List Limiter) (feeds : List (String × Feed)) (streams : Array Stream)
    (watches : Array Watch) (gates : List String) (rules : List (String × Rule))
    (tasks : Array TaskState) (eventsMade : Nat) (history : Array Notice) :
    takenBack ⟨now, cancellation, signals, limiters, feeds, streams, watches, gates, rules, tasks,
      eventsMade, history⟩ = Notice.allTakenBack history.toList := rfl

/-! ### Notes -/

@[simp]
theorem note_frame (system : System) (notice : Notice) :
    (system.note notice).limiters = system.limiters ∧
      (system.note notice).tasks = system.tasks ∧
      (system.note notice).watches = system.watches ∧
      (system.note notice).feeds = system.feeds ∧
      (system.note notice).streams = system.streams ∧
      (system.note notice).cancellation = system.cancellation ∧
      (system.note notice).signals = system.signals ∧
      (system.note notice).rules = system.rules := by
  cases notice <;> exact ⟨rfl, rfl, rfl, rfl, rfl, rfl, rfl, rfl⟩

@[simp]
theorem note_takenBack (system : System) (notice : Notice) :
    (system.note notice).takenBack = system.takenBack ++ notice.takenBack?.toList := by
  cases notice <;> simp [note]

theorem noteAll_cons (system : System) (notice : Notice) (notices : List Notice) :
    system.noteAll (notice :: notices) = (system.note notice).noteAll notices := rfl

@[simp]
theorem noteAll_frame (system : System) (notices : List Notice) :
    (system.noteAll notices).limiters = system.limiters ∧
      (system.noteAll notices).tasks = system.tasks ∧
      (system.noteAll notices).watches = system.watches ∧
      (system.noteAll notices).feeds = system.feeds ∧
      (system.noteAll notices).streams = system.streams ∧
      (system.noteAll notices).cancellation = system.cancellation ∧
      (system.noteAll notices).signals = system.signals ∧
      (system.noteAll notices).rules = system.rules := by
  induction notices generalizing system with
  | nil => exact ⟨rfl, rfl, rfl, rfl, rfl, rfl, rfl, rfl⟩
  | cons notice rest ih => simp [noteAll_cons, ih]

@[simp]
theorem noteAll_takenBack (system : System) (notices : List Notice) :
    (system.noteAll notices).takenBack = system.takenBack ++ Notice.allTakenBack notices := by
  induction notices generalizing system with
  | nil => simp [noteAll]
  | cons notice rest ih => simp [noteAll_cons, ih]

/-- What is noted is added to the history. -/
theorem note_history (system : System) (notice : Notice) :
    system.history.toList <+: (system.note notice).history.toList := by
  cases notice <;> simp [note]

/-- A wake-up is noted as it is. -/
theorem noteAll_wokenOf_history (system : System) (waiter : Option Nat) :
    (system.noteAll (Notice.wokenOf waiter)).history.toList =
      system.history.toList ++ Notice.wokenOf waiter := by
  cases waiter <;> simp [noteAll, Notice.wokenOf, note]

/-! ### Contexts and signals -/

@[simp]
theorem tellCancelled_frame (system : System) (tokens : List Nat) :
    (system.tellCancelled tokens).limiters = system.limiters ∧
      (system.tellCancelled tokens).tasks = system.tasks ∧
      (system.tellCancelled tokens).watches = system.watches ∧
      (system.tellCancelled tokens).feeds = system.feeds ∧
      (system.tellCancelled tokens).streams = system.streams ∧
      (system.tellCancelled tokens).cancellation = system.cancellation ∧
      (system.tellCancelled tokens).takenBack = system.takenBack := by
  have quiet : Notice.allTakenBack (tokens.map fun token => .told (.cancelled token)) = [] := by
    induction tokens with
    | nil => rfl
    | cons token rest ih => simp [ih]
  simp [tellCancelled, quiet]

@[simp]
theorem cancel_frame (system : System) (context : Context) (cause : Option String) :
    (system.cancel context cause).limiters = system.limiters ∧
      (system.cancel context cause).tasks = system.tasks ∧
      (system.cancel context cause).watches = system.watches ∧
      (system.cancel context cause).feeds = system.feeds ∧
      (system.cancel context cause).streams = system.streams ∧
      (system.cancel context cause).takenBack = system.takenBack := by
  simp [cancel]

@[simp]
theorem cancel_cancellation (system : System) (context : Context) (cause : Option String) :
    (system.cancel context cause).cancellation = (system.cancellation.cancel context cause).1 := by
  simp [cancel]

@[simp]
theorem cancelToken_frame (system : System) (context : Context) :
    (system.cancelToken context).limiters = system.limiters ∧
      (system.cancelToken context).tasks = system.tasks ∧
      (system.cancelToken context).watches = system.watches ∧
      (system.cancelToken context).feeds = system.feeds ∧
      (system.cancelToken context).streams = system.streams ∧
      (system.cancelToken context).takenBack = system.takenBack := by
  simp [cancelToken]

@[simp]
theorem cancelToken_cancellation (system : System) (context : Context) :
    (system.cancelToken context).cancellation =
      (system.cancellation.cancelToken context.token).1 := by
  simp [cancelToken]

@[simp]
theorem holdContext_frame (system : System) (context : Context) :
    (system.holdContext context).limiters = system.limiters ∧
      (system.holdContext context).tasks = system.tasks ∧
      (system.holdContext context).watches = system.watches ∧
      (system.holdContext context).feeds = system.feeds ∧
      (system.holdContext context).streams = system.streams ∧
      (system.holdContext context).takenBack = system.takenBack :=
  ⟨rfl, rfl, rfl, rfl, rfl, rfl⟩

@[simp]
theorem dropContext_frame (system : System) (context : Context) :
    (system.dropContext context).limiters = system.limiters ∧
      (system.dropContext context).tasks = system.tasks ∧
      (system.dropContext context).watches = system.watches ∧
      (system.dropContext context).feeds = system.feeds ∧
      (system.dropContext context).streams = system.streams ∧
      (system.dropContext context).takenBack = system.takenBack :=
  ⟨rfl, rfl, rfl, rfl, rfl, rfl⟩

@[simp]
theorem fire_frame (system : System) (signal : Nat) :
    (system.fire signal).limiters = system.limiters ∧
      (system.fire signal).tasks = system.tasks ∧
      (system.fire signal).watches = system.watches ∧
      (system.fire signal).feeds = system.feeds ∧
      (system.fire signal).streams = system.streams ∧
      (system.fire signal).cancellation = system.cancellation ∧
      (system.fire signal).takenBack = system.takenBack := by
  simp only [fire]
  split
  · simp
  · simp

@[simp]
theorem holdSignal_frame (system : System) (signal : Nat) :
    (system.holdSignal signal).limiters = system.limiters ∧
      (system.holdSignal signal).tasks = system.tasks ∧
      (system.holdSignal signal).watches = system.watches ∧
      (system.holdSignal signal).feeds = system.feeds ∧
      (system.holdSignal signal).streams = system.streams ∧
      (system.holdSignal signal).cancellation = system.cancellation ∧
      (system.holdSignal signal).takenBack = system.takenBack :=
  ⟨rfl, rfl, rfl, rfl, rfl, rfl, rfl⟩

@[simp]
theorem dropSignal_frame (system : System) (signal : Nat) :
    (system.dropSignal signal).limiters = system.limiters ∧
      (system.dropSignal signal).tasks = system.tasks ∧
      (system.dropSignal signal).watches = system.watches ∧
      (system.dropSignal signal).feeds = system.feeds ∧
      (system.dropSignal signal).streams = system.streams ∧
      (system.dropSignal signal).cancellation = system.cancellation ∧
      (system.dropSignal signal).takenBack = system.takenBack := by
  simp only [dropSignal]
  split
  · split
    · simp
    · simp
  · simp

/-! ### Tasks -/

@[simp]
theorem spawn_frame (system : System) (task : Task) :
    (system.spawn task).1.limiters = system.limiters ∧
      (system.spawn task).1.tasks = system.tasks.push { task } ∧
      (system.spawn task).1.watches = system.watches ∧
      (system.spawn task).1.feeds = system.feeds ∧
      (system.spawn task).1.streams = system.streams ∧
      (system.spawn task).1.cancellation = system.cancellation ∧
      (system.spawn task).1.takenBack = system.takenBack := by
  simp [spawn]

@[simp]
theorem setTask_frame (system : System) (index : Nat) (task : Task) :
    (system.setTask index task).limiters = system.limiters ∧
      (system.setTask index task).tasks =
        system.tasks.modify index (fun state => { state with task }) ∧
      (system.setTask index task).watches = system.watches ∧
      (system.setTask index task).feeds = system.feeds ∧
      (system.setTask index task).streams = system.streams ∧
      (system.setTask index task).cancellation = system.cancellation ∧
      (system.setTask index task).takenBack = system.takenBack :=
  ⟨rfl, rfl, rfl, rfl, rfl, rfl, rfl⟩

@[simp]
theorem releaseHoldings_frame (system : System) (task : Task) :
    (system.releaseHoldings task).limiters = system.limiters ∧
      (system.releaseHoldings task).tasks = system.tasks ∧
      (system.releaseHoldings task).watches = system.watches ∧
      (system.releaseHoldings task).feeds = system.feeds ∧
      (system.releaseHoldings task).streams = system.streams ∧
      (system.releaseHoldings task).takenBack = system.takenBack := by
  cases task with
  | timer signal delay deadline => simp [releaseHoldings]
  | awaitCancellation context => simp [releaseHoldings]
  | awaitStaleness signal => simp [releaseHoldings]
  | acquisition context signal => simp [releaseHoldings]
  | admission job context stage => simp [releaseHoldings]
  | registration feed context watch =>
      simp only [releaseHoldings]
      split <;> simp
  | listening watch =>
      simp only [releaseHoldings]
      split <;> simp

@[simp]
theorem finish_frame (system : System) (index : Nat) (outcome : Outcome) :
    (system.finish index outcome).limiters = system.limiters ∧
      (system.finish index outcome).tasks =
        system.tasks.modify index (fun state => { state with outcome := some outcome }) ∧
      (system.finish index outcome).watches = system.watches ∧
      (system.finish index outcome).feeds = system.feeds ∧
      (system.finish index outcome).streams = system.streams ∧
      (system.finish index outcome).takenBack = system.takenBack := by
  simp only [finish]
  split
  · rename_i absent
    have unchanged : system.tasks.modify index
        (fun state => { state with outcome := some outcome }) = system.tasks := by
      rw [Array.getElem?_eq_none_iff] at absent
      apply Array.ext
      · simp
      · intro position _ inside
        rw [Array.getElem_modify]
        have other : index ≠ position := by omega
        simp [other]
    simp [unchanged]
  · simp

theorem dropSignal_history (system : System) (signal : Nat) :
    system.history.toList <+: (system.dropSignal signal).history.toList := by
  simp only [dropSignal]
  split
  · split
    · exact note_history { system with signals := system.signals.modify signal StaleSignal.drop } _
    · exact List.prefix_refl _
  · exact List.prefix_refl _

theorem releaseHoldings_history (system : System) (task : Task) :
    system.history.toList <+: (system.releaseHoldings task).history.toList := by
  cases task with
  | timer signal delay deadline => exact List.prefix_refl _
  | awaitCancellation context => exact List.prefix_refl _
  | awaitStaleness signal => exact dropSignal_history system signal
  | acquisition context signal => exact dropSignal_history system signal
  | admission job context stage => exact dropSignal_history system job.signal
  | registration feed context watch =>
      simp only [releaseHoldings]
      split
      · exact List.prefix_refl _
      · exact List.prefix_refl _
  | listening watch =>
      simp only [releaseHoldings]
      split
      · exact List.prefix_refl _
      · exact List.prefix_refl _

/-- The end of a task takes nothing out of the history. -/
theorem finish_history (system : System) (index : Nat) (outcome : Outcome) :
    system.history.toList <+: (system.finish index outcome).history.toList := by
  simp only [finish]
  split
  · exact List.prefix_refl _
  · refine List.IsPrefix.trans ?_ (releaseHoldings_history _ _)
    exact note_history { system with
      tasks := system.tasks.modify index fun state => { state with outcome := some outcome } } _

/-! ### Streams and feeds -/

@[simp]
theorem newStream_frame (system : System) (stream : Stream) :
    (system.newStream stream).1.limiters = system.limiters ∧
      (system.newStream stream).1.tasks = system.tasks ∧
      (system.newStream stream).1.watches = system.watches ∧
      (system.newStream stream).1.feeds = system.feeds ∧
      (system.newStream stream).1.streams = system.streams.push stream ∧
      (system.newStream stream).2 = system.streams.size ∧
      (system.newStream stream).1.cancellation = system.cancellation ∧
      (system.newStream stream).1.takenBack = system.takenBack :=
  ⟨rfl, rfl, rfl, rfl, rfl, rfl, rfl, rfl⟩

@[simp]
theorem tellStream_frame (system : System) (stream : Nat) (change : Stream → Stream) :
    (system.tellStream stream change).limiters = system.limiters ∧
      (system.tellStream stream change).tasks = system.tasks ∧
      (system.tellStream stream change).watches = system.watches ∧
      (system.tellStream stream change).feeds = system.feeds ∧
      (system.tellStream stream change).streams = system.streams.modify stream change ∧
      (system.tellStream stream change).cancellation = system.cancellation ∧
      (system.tellStream stream change).takenBack = system.takenBack := by
  simp [tellStream]

@[simp]
theorem setFeed_frame (system : System) (name : String) (feed : Feed) :
    (system.setFeed name feed).limiters = system.limiters ∧
      (system.setFeed name feed).tasks = system.tasks ∧
      (system.setFeed name feed).watches = system.watches ∧
      (system.setFeed name feed).streams = system.streams ∧
      (system.setFeed name feed).cancellation = system.cancellation ∧
      (system.setFeed name feed).takenBack = system.takenBack :=
  ⟨rfl, rfl, rfl, rfl, rfl, rfl⟩

/-- What holds of a system while streams are ended and written to holds after a broadcast. -/
theorem deliver_induction {motive : System → Prop} {system : System} {broadcast : Broadcast}
    (initially : motive system)
    (ended : ∀ later, motive later → ∀ watcher ∈ broadcast.givenUp,
      motive ((later.tellStream watcher.stream Stream.endWriting).dropContext watcher.context))
    (told : ∀ later, motive later → ∀ entry ∈ broadcast.told,
      motive (later.tellStream entry.1.stream (·.write (.event entry.2)))) :
    motive (system.deliver broadcast) := by
  simp only [deliver]
  refine List.foldlRecOn _ _ ?_ told
  exact List.foldlRecOn _ _ initially ended

@[simp]
theorem deliver_frame (system : System) (broadcast : Broadcast) :
    (system.deliver broadcast).limiters = system.limiters ∧
      (system.deliver broadcast).tasks = system.tasks ∧
      (system.deliver broadcast).watches = system.watches ∧
      (system.deliver broadcast).feeds = system.feeds ∧
      (system.deliver broadcast).streams.size = system.streams.size ∧
      (system.deliver broadcast).takenBack = system.takenBack := by
  apply deliver_induction (motive := fun later =>
    later.limiters = system.limiters ∧ later.tasks = system.tasks ∧
      later.watches = system.watches ∧ later.feeds = system.feeds ∧
      later.streams.size = system.streams.size ∧ later.takenBack = system.takenBack)
  · exact ⟨rfl, rfl, rfl, rfl, rfl, rfl⟩
  · intro later kept watcher _
    simpa using kept
  · intro later kept entry _
    simpa using kept

/-- Telling several streams the same concerns nothing else. -/
theorem tellStreams_frame (system : System) (streams : List Nat) (change : Stream → Stream) :
    let after := streams.foldl (fun system stream => system.tellStream stream change) system
    after.limiters = system.limiters ∧ after.tasks = system.tasks ∧
      after.watches = system.watches ∧ after.cancellation = system.cancellation ∧
      after.takenBack = system.takenBack := by
  induction streams generalizing system with
  | nil => exact ⟨rfl, rfl, rfl, rfl, rfl⟩
  | cons stream rest ih => simpa using ih (system.tellStream stream change)

@[simp]
theorem applyResource_frame (system : System) (name : String) (resource : JobResource) :
    (system.applyResource name resource).limiters = system.limiters ∧
      (system.applyResource name resource).tasks = system.tasks ∧
      (system.applyResource name resource).watches = system.watches ∧
      (system.applyResource name resource).takenBack = system.takenBack := by
  simp only [applyResource]
  split <;> simp

@[simp]
theorem deleteResource_frame (system : System) (name uid : String) :
    (system.deleteResource name uid).1.limiters = system.limiters ∧
      (system.deleteResource name uid).1.tasks = system.tasks ∧
      (system.deleteResource name uid).1.watches = system.watches ∧
      (system.deleteResource name uid).1.takenBack = system.takenBack := by
  simp only [deleteResource]
  split <;> simp

@[simp]
theorem injectChange_frame (system : System) (name : String) (change : ResourceEvent) :
    (system.injectChange name change).limiters = system.limiters ∧
      (system.injectChange name change).tasks = system.tasks ∧
      (system.injectChange name change).watches = system.watches ∧
      (system.injectChange name change).takenBack = system.takenBack := by
  simp only [injectChange]
  split <;> simp

@[simp]
theorem watchFeed_frame (system : System) (name : String) (context : Context) :
    (system.watchFeed name context).1.limiters = system.limiters ∧
      (system.watchFeed name context).1.tasks = system.tasks ∧
      (system.watchFeed name context).1.watches = system.watches ∧
      (system.watchFeed name context).1.takenBack = system.takenBack := by
  simp only [watchFeed]
  split
  · simp
  · simp
  · split <;> simp

@[simp]
theorem sendItem_frame (system : System) (name : String) (item : FeedItem) :
    (system.sendItem name item).1.limiters = system.limiters ∧
      (system.sendItem name item).1.tasks = system.tasks ∧
      (system.sendItem name item).1.watches = system.watches ∧
      (system.sendItem name item).1.takenBack = system.takenBack := by
  simp only [sendItem]
  split
  · simp only [tellStreams_frame, and_self]
  · exact ⟨rfl, rfl, rfl, rfl⟩

@[simp]
theorem closeFeed_frame (system : System) (name : String) :
    (system.closeFeed name).limiters = system.limiters ∧
      (system.closeFeed name).tasks = system.tasks ∧
      (system.closeFeed name).watches = system.watches ∧
      (system.closeFeed name).takenBack = system.takenBack := by
  simp only [closeFeed]
  split
  · simp [tellStreams_frame]
  · exact ⟨rfl, rfl, rfl, rfl⟩

@[simp]
theorem openGate_frame (system : System) (gate : String) :
    (system.openGate gate).limiters = system.limiters ∧
      (system.openGate gate).tasks = system.tasks ∧
      (system.openGate gate).watches = system.watches ∧
      (system.openGate gate).feeds = system.feeds ∧
      (system.openGate gate).streams = system.streams ∧
      (system.openGate gate).cancellation = system.cancellation ∧
      (system.openGate gate).takenBack = system.takenBack := by
  simp only [openGate]
  split
  · simp
  · simp

end System

end Admission
