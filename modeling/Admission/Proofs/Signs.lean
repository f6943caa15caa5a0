import Admission.Proofs.AdmissionLedger

/-!
# What a run shows

Others learn of the handling of a job by the events that are published, by the tokens that limiters
take back, and by the call of the last handler. These are the signs of a run, in the order in which
they come. Most of what happens gives no sign: the turns of jobs and of listeners do, and so do
changes that are applied to the first limiter and events that somebody outside publishes.
-/

namespace Admission

/-- The event without the numbers that depend on when it is made; of a wait it keeps only that there
was one. -/
def Event.bare (event : Event) : Event :=
  { event with sequence := 0, available := none, wait := event.wait.map fun _ => ⟨0⟩ }

/-- What others learn of the handling of a job. -/
inductive Sign where
  | told (place : Nat) (event : Event)
  /-- A limiter took its token back, because a later handler failed. -/
  | gaveBack
  /-- The last handler is called for a job, whose context or information may be of no more use by
  then. -/
  | called (job : Job) (isCanceled isStale : Bool)
deriving DecidableEq

namespace Notice

/-- The sign that a notice gives, if any. -/
def signs : Notice → List Sign
  | published place event => [.told place event.bare]
  | logged record => if record.message = "next handler failed" then [.gaveBack] else []
  | forwarded arrival => [.called arrival.job arrival.isCanceled arrival.isStale]
  | _ => []

@[simp]
theorem signs_published (place : Nat) (event : Event) :
    (published place event).signs = [.told place event.bare] := rfl

@[simp]
theorem signs_woken (task : Nat) : (woken task).signs = [] := rfl

@[simp]
theorem signs_yielded (task : Nat) : (yielded task).signs = [] := rfl

@[simp]
theorem signs_told (source : Source) : (told source).signs = [] := rfl

@[simp]
theorem signs_spawned (task : Nat) : (spawned task).signs = [] := rfl

@[simp]
theorem signs_forwarded (arrival : Arrival) :
    (forwarded arrival).signs = [.called arrival.job arrival.isCanceled arrival.isStale] := rfl

@[simp]
theorem signs_finished (task : Nat) (outcome : Outcome) : (finished task outcome).signs = [] := rfl

@[simp]
theorem signs_wokenOf (waiter : Option Nat) : (wokenOf waiter).flatMap signs = [] := by
  cases waiter <;> rfl

end Notice

/-- A change that is applied to the first limiter is told in one event. -/
theorem Reconciler.apply_signs (place : Nat) (pool : Pool) (change : ResourceEvent) :
    (apply place pool change).2.flatMap Notice.signs =
      [.told place (eventOf (apply place pool change).1.available change).bare] := by
  have settled : (settle pool change).2.flatMap Notice.signs = [] := by
    simp only [settle]
    cases demand change with
    | claim => rfl
    | giveBack =>
        simp only [List.flatMap_append, Notice.signs_wokenOf]
        cases change <;> rfl
    | nothing => rfl
  have ignored : (ignoredRecord change).flatMap Notice.signs = [] := by
    cases change <;> rfl
  simp only [apply, List.flatMap_append, settled, ignored]
  rfl

namespace System

/-- The signs of all that has happened. -/
def signs (system : System) : List Sign :=
  system.history.toList.flatMap Notice.signs

variable (system : System)

@[simp]
theorem note_signs (notice : Notice) :
    (system.note notice).signs = system.signs ++ notice.signs := by
  cases notice <;> simp [signs, System.note, Notice.signs, Event.numbered, Event.bare]

@[simp]
theorem noteAll_signs (notices : List Notice) :
    (system.noteAll notices).signs = system.signs ++ notices.flatMap Notice.signs := by
  induction notices generalizing system with
  | nil => simp [noteAll]
  | cons notice rest ih => simp [noteAll_cons, ih]

/-! ### Operations that give no sign -/

@[simp]
theorem tellCancelled_signs (tokens : List Nat) :
    (system.tellCancelled tokens).signs = system.signs := by
  have quiet : (tokens.map fun token => Notice.told (.cancelled token)).flatMap Notice.signs =
      [] := by
    rw [List.flatMap_map]
    exact List.flatMap_eq_nil_iff.mpr fun _ _ => rfl
  rw [tellCancelled, noteAll_signs, quiet, List.append_nil]

@[simp]
theorem cancel_signs (context : Context) (cause : Option String) :
    (system.cancel context cause).signs = system.signs :=
  tellCancelled_signs _ _

@[simp]
theorem cancelToken_signs (context : Context) :
    (system.cancelToken context).signs = system.signs :=
  tellCancelled_signs _ _

@[simp]
theorem fire_signs (signal : Nat) : (system.fire signal).signs = system.signs := by
  simp only [fire]
  split
  · rfl
  · rw [note_signs, Notice.signs_told, List.append_nil]
    rfl

@[simp]
theorem dropSignal_signs (signal : Nat) : (system.dropSignal signal).signs = system.signs := by
  simp only [dropSignal]
  split
  · split
    · rw [note_signs, Notice.signs_told, List.append_nil]
      rfl
    · rfl
  · rfl

@[simp]
theorem setPool_signs (place : Nat) (pool : Pool) :
    (system.setPool place pool).signs = system.signs := rfl

@[simp]
theorem setTask_signs (index : Nat) (task : Task) :
    (system.setTask index task).signs = system.signs := rfl

@[simp]
theorem spawn_signs (task : Task) : (system.spawn task).1.signs = system.signs := by
  rw [spawn, note_signs, Notice.signs_spawned, List.append_nil]
  rfl

@[simp]
theorem releaseHoldings_signs (task : Task) :
    (system.releaseHoldings task).signs = system.signs := by
  cases task with
  | timer signal delay deadline => rfl
  | awaitCancellation context => rfl
  | awaitStaleness signal => exact dropSignal_signs system signal
  | acquisition context signal => exact dropSignal_signs system signal
  | admission job context stage => exact dropSignal_signs system job.signal
  | registration feed context watch =>
      simp only [releaseHoldings]
      split <;> rfl
  | listening watch =>
      simp only [releaseHoldings]
      split <;> rfl

@[simp]
theorem finish_signs (index : Nat) (outcome : Outcome) :
    (system.finish index outcome).signs = system.signs := by
  simp only [finish]
  split
  · rfl
  · rw [releaseHoldings_signs, note_signs, Notice.signs_finished, List.append_nil]
    rfl

@[simp]
theorem tellStream_signs (stream : Nat) (change : Stream → Stream) :
    (system.tellStream stream change).signs = system.signs := by
  rw [tellStream, note_signs, Notice.signs_told, List.append_nil]
  rfl

theorem tellStreams_signs (streams : List Nat) (change : Stream → Stream) :
    (streams.foldl (fun system stream => system.tellStream stream change) system).signs =
      system.signs := by
  induction streams generalizing system with
  | nil => rfl
  | cons stream rest ih => rw [List.foldl_cons, ih, tellStream_signs]

@[simp]
theorem deliver_signs (broadcast : Broadcast) :
    (system.deliver broadcast).signs = system.signs := by
  apply deliver_induction (motive := fun later => later.signs = system.signs)
  · rfl
  · intro later kept watcher _
    exact (tellStream_signs later _ _).trans kept
  · intro later kept entry _
    exact (tellStream_signs later _ _).trans kept

@[simp]
theorem applyResource_signs (name : String) (resource : JobResource) :
    (system.applyResource name resource).signs = system.signs := by
  simp only [applyResource]
  split
  · exact deliver_signs _ _
  · rfl

theorem watchFeed_signs (name : String) (context : Context) :
    (system.watchFeed name context).1.signs = system.signs := by
  simp only [watchFeed]
  split
  · rfl
  · rfl
  · split <;> rfl

/-- What happens outside gives a sign only if it is an event that is published. -/
theorem undergo_signs {happening : Happening}
    (quiet : ∀ place event, happening ≠ .publish place event) :
    (system.undergo happening).signs = system.signs := by
  cases happening with
  | cancel context cause => exact cancel_signs system context cause
  | cancelToken context => exact cancelToken_signs system context
  | dropSignal signal => exact dropSignal_signs system signal
  | fire signal => exact fire_signs system signal
  | openGate gate =>
      simp only [undergo, openGate]
      split
      · rfl
      · rw [note_signs, Notice.signs_told, List.append_nil]
        rfl
  | applyResource feed resource => exact applyResource_signs system feed resource
  | deleteResource feed uid =>
      simp only [undergo, deleteResource]
      split
      · exact deliver_signs _ _
      · rfl
  | injectChange feed change =>
      simp only [undergo, injectChange]
      split
      · exact deliver_signs _ _
      · rfl
  | watchFeed feed context => exact watchFeed_signs system feed context
  | sendItem feed item =>
      simp only [undergo, sendItem]
      split
      · exact tellStreams_signs system _ _
      · rfl
  | closeFeed feed =>
      simp only [undergo, closeFeed]
      split
      · exact tellStreams_signs _ _ _
      · rfl
  | publish place event => exact absurd rfl (quiet place event)
  | _ => rfl

theorem dropTask_signs (index : Nat) (task : Task) :
    (system.dropTask index task).signs = system.signs := by
  have withdrawn (task place : Nat) (limiters : List Limiter) :
      (Chain.withdraw task place limiters).2.flatMap Notice.signs = [] := by
    induction limiters generalizing place with
    | nil => cases place <;> rfl
    | cons limiter rest ih =>
        cases place with
        | zero => exact Notice.signs_wokenOf _
        | succ place => exact ih place
  simp only [dropTask]
  split
  · rw [finish_signs, noteAll_signs, Notice.signs_wokenOf, List.append_nil]
    rfl
  · rw [finish_signs, noteAll_signs, withdrawn, List.append_nil]
    rfl
  · exact finish_signs system index _

theorem abort_signs (index : Nat) : (system.abort index).signs = system.signs := by
  simp only [abort]
  split
  · rfl
  · split
    · rfl
    · rw [note_signs, Notice.signs_woken, List.append_nil]
      rfl

/-! ### Turns -/

theorem runTimer_signs (index signal delay : Nat) (deadline : Option Nat) :
    (system.runTimer index signal delay deadline).signs = system.signs := by
  simp only [runTimer]
  split
  · exact finish_signs system index _
  · split
    · rw [finish_signs, fire_signs]
    · rfl

theorem acquire_signs (index : Nat) (context : Context) (signal : Nat) :
    (system.acquire index context signal).signs = system.signs := by
  simp only [acquire]
  split <;> simp

theorem settleRegistration_signs (index : Nat) (context : Context) (watch : Nat)
    (deadline : Option Nat) :
    (system.settleRegistration index context watch deadline).signs = system.signs := by
  simp only [settleRegistration]
  split
  · rfl
  · split
    · rfl
    · rw [finish_signs, note_signs]
      exact List.append_nil _
    · rw [finish_signs, note_signs, cancel_signs]
      exact List.append_nil _

theorem startRegistration_signs (index : Nat) (feed : String) (context : Context) :
    (system.startRegistration index feed context).signs = system.signs := by
  have watched := watchFeed_signs
    { system with cancellation := (system.cancellation.child context).1 } feed
    (system.cancellation.child context).2
  simp only [startRegistration]
  split
  · rename_i after error watching
    rw [watching] at watched
    rw [finish_signs]
    exact watched
  · rename_i after name stream watching
    rw [watching] at watched
    rw [settleRegistration_signs, spawn_signs]
    exact watched

/-- A task gives a sign in its turn only if it handles a job or listens to a watch. -/
theorem turn_signs {index : Nat} {state : TaskState} (found : system.tasks[index]? = some state)
    (noJob : state.task.isAdmission = false) (deaf : state.task.isListening = false) :
    (system.turn index).signs = system.signs := by
  simp only [turn, found]
  split
  · rfl
  · split
    · exact dropTask_signs system index state.task
    · cases task : state.task with
      | timer signal delay deadline => exact runTimer_signs system index signal delay deadline
      | awaitCancellation context =>
          simp only
          split
          · exact finish_signs system index _
          · rfl
      | awaitStaleness signal =>
          simp only
          split
          · exact finish_signs system index _
          · rfl
      | acquisition context signal => exact acquire_signs system index context signal
      | admission job context stage => simp [task, Task.isAdmission] at noJob
      | registration feed context watch =>
          cases watch with
          | none => exact startRegistration_signs system index feed context
          | some watch => exact settleRegistration_signs system index context watch.1 watch.2
      | listening watch => simp [task, Task.isListening] at deaf

end System

end Admission
