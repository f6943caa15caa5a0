import Admission.Proofs.Limiters
import Admission.Proofs.Proceeding

/-!
# Runs that keep to one pool

In the runs of this file the first pool is used by direct calls and by tasks that wait for a token,
and by nobody else. Contexts may be cancelled, signals fired and waits dropped at any time.

Seen from the pool, a waiter has had no turn yet, goes on waiting, or has ended with an outcome.
`WaiterStep` lists what a move other than a direct call can do to the pool and to the waiters. The
facts about such runs are proved by cases on it, and do not look into turns again.
-/

namespace Admission

namespace Outcome

/-- Whether an outcome is that of a wait that was given up. -/
def isGivenUp : Outcome → Bool
  | canceled | stale | aborted => true
  | _ => false

/-- Whether an outcome is that of a wait that ended with a token. -/
def isAcquired : Outcome → Bool
  | acquired => true
  | _ => false

theorem isAcquired_of_isGivenUp {outcome : Outcome} (givenUp : outcome.isGivenUp = true) :
    outcome.isAcquired = false := by
  cases outcome <;> simp_all [isGivenUp, isAcquired]

end Outcome

/-- Whether a task waits for a token, or uses no pool. -/
def Task.keepsToWaiting : Task → Bool
  | .acquisition _ _ | .timer _ _ _ | .awaitCancellation _ | .awaitStaleness _ => true
  | _ => false

/-- Whether a move is a direct call, or concerns a task that waits for a token or uses no pool. -/
def Move.keepsToWaiting : Move → Bool
  | .start task => task.keepsToWaiting
  | .reconcile _ => false
  | _ => true

namespace TaskState

/-- What became of a wait for a token, if the task is one: no outcome while it goes on. -/
def wait? (state : TaskState) : Option (Option Outcome) :=
  match state.task with
  | .acquisition _ _ => some state.outcome
  | _ => none

/-- Whether the task is a wait that ended with a token. -/
def hasAcquired (state : TaskState) : Bool :=
  state.wait?.join.any Outcome.isAcquired

theorem wait?_ended {state : TaskState} (pending : state.wait? = some none) (outcome : Outcome) :
    ({ state with outcome := some outcome } : TaskState).wait? = some (some outcome) := by
  cases task : state.task <;> simp_all [wait?]

theorem wait?_ended_of_noWait {state : TaskState} (noWait : state.wait? = none)
    (outcome : Outcome) :
    ({ state with outcome := some outcome } : TaskState).wait? = none := by
  cases task : state.task <;> simp_all [wait?]

end TaskState

namespace System

/-- What became of a wait for a token, if the task of an index is one. -/
def wait? (system : System) (index : Nat) : Option (Option Outcome) :=
  system.tasks[index]?.bind TaskState.wait?

/-- How many waits ended with a token. -/
def acquired (system : System) : Nat :=
  system.tasks.countP TaskState.hasAcquired

/-- Whoever is handed a token in a step is woken in it. -/
def Wakes (system next : System) (handed : Option Nat) : Prop :=
  ∀ waiter ∈ handed, ∃ noted, next.history.toList = system.history.toList ++ noted ∧
    Notice.woken waiter ∈ noted

/-- What a move other than a direct call can do to the first pool and to those who wait for it. -/
inductive WaiterStep (system next : System) : Prop where
  /-- Neither the pool nor a waiter changes. -/
  | quiet (pool : next.pool 0 = system.pool 0)
      (waits : ∀ index, next.wait? index = system.wait? index)
      (acquired : next.acquired = system.acquired)
  | began (index : Nat) (fresh : system.wait? index = none)
      (pool : next.pool 0 = system.pool 0)
      (waits : ∀ other, next.wait? other = if other = index then some none else system.wait? other)
      (acquired : next.acquired = system.acquired)
  /-- A waiter finds no token. -/
  | waited (index : Nat) (pending : system.wait? index = some none)
      (refused : ((system.pool 0).claim index).1 = .pending)
      (pool : next.pool 0 = ((system.pool 0).claim index).2)
      (waits : ∀ other, next.wait? other = system.wait? other)
      (acquired : next.acquired = system.acquired)
  /-- A waiter claims a token. -/
  | claimed (index : Nat) (pending : system.wait? index = some none)
      (granted : ((system.pool 0).claim index).1 = .acquired)
      (pool : next.pool 0 = ((system.pool 0).claim index).2)
      (waits : ∀ other,
        next.wait? other = if other = index then some (some .acquired) else system.wait? other)
      (acquired : next.acquired = system.acquired + 1)
  /-- A waiter gives up. -/
  | gaveUp (index : Nat) (outcome : Outcome) (isGivenUp : outcome.isGivenUp = true)
      (pending : system.wait? index = some none)
      (pool : next.pool 0 = ((system.pool 0).withdraw index).1)
      (waits : ∀ other,
        next.wait? other = if other = index then some (some outcome) else system.wait? other)
      (acquired : next.acquired = system.acquired)
      (wakes : Wakes system next ((system.pool 0).withdraw index).2)

/-! ### Tasks, one by one -/

section Modified

variable {system next : System} {index : Nat} {state : TaskState} {change : TaskState → TaskState}

theorem wait?_of_modify (found : system.tasks[index]? = some state)
    (tasks : next.tasks = system.tasks.modify index change) (other : Nat) :
    next.wait? other = if other = index then (change state).wait? else system.wait? other := by
  simp only [wait?, tasks]
  exact bind_modify TaskState.wait? found change other

theorem acquired_of_modify (found : system.tasks[index]? = some state)
    (tasks : next.tasks = system.tasks.modify index change) :
    next.acquired + state.hasAcquired.toNat =
      system.acquired + (change state).hasAcquired.toNat := by
  simp only [acquired, tasks]
  exact countP_modify TaskState.hasAcquired found change

/-- A change of a task that is no change of a wait goes unnoticed. -/
theorem WaiterStep.quiet_of_modify (found : system.tasks[index]? = some state)
    (tasks : next.tasks = system.tasks.modify index change)
    (unnoticed : (change state).wait? = state.wait?)
    (pool : next.pool 0 = system.pool 0) : WaiterStep system next := by
  refine .quiet pool ?_ ?_
  · intro other
    rw [wait?_of_modify found tasks other]
    split
    · rename_i same
      subst same
      simp [wait?, found, unnoticed]
    · rfl
  · have counted := acquired_of_modify found tasks
    have same : (change state).hasAcquired = state.hasAcquired := by
      simp only [TaskState.hasAcquired, unnoticed]
    rw [same] at counted
    omega

end Modified

section Ended

variable {system next : System} {index : Nat} {state : TaskState} {outcome : Outcome}

/-- The end of a task that is no wait goes unnoticed. -/
theorem WaiterStep.quiet_of_ended (found : system.tasks[index]? = some state)
    (noWait : state.wait? = none)
    (tasks : next.tasks =
      system.tasks.modify index (fun state => { state with outcome := some outcome }))
    (pool : next.pool 0 = system.pool 0) : WaiterStep system next := by
  refine .quiet_of_modify found tasks ?_ pool
  rw [noWait]
  exact TaskState.wait?_ended_of_noWait noWait outcome

/-- A task that is no wait may end after changes that go unnoticed. -/
theorem WaiterStep.of_finish (found : system.tasks[index]? = some state)
    (noWait : state.wait? = none) {before : System} (tasks : before.tasks = system.tasks)
    (pool : before.pool 0 = system.pool 0) (outcome : Outcome) :
    WaiterStep system (before.finish index outcome) := by
  have ended := (finish_frame before index outcome).2.1
  rw [tasks] at ended
  exact .quiet_of_ended found noWait ended (by rw [finish_pool, pool])

theorem wait?_of_ended (found : system.tasks[index]? = some state)
    (pending : state.wait? = some none)
    (tasks : next.tasks =
      system.tasks.modify index (fun state => { state with outcome := some outcome }))
    (other : Nat) :
    next.wait? other = if other = index then some (some outcome) else system.wait? other := by
  rw [wait?_of_modify found tasks other, TaskState.wait?_ended pending]

/-- The number of waits that ended with a token, after a wait has ended. -/
theorem acquired_of_ended (found : system.tasks[index]? = some state)
    (pending : state.wait? = some none)
    (tasks : next.tasks =
      system.tasks.modify index (fun state => { state with outcome := some outcome })) :
    next.acquired = system.acquired + outcome.isAcquired.toNat := by
  have counted := acquired_of_modify found tasks
  simpa [TaskState.hasAcquired, TaskState.wait?_ended pending, pending] using counted

theorem WaiterStep.gaveUp_of_ended (found : system.tasks[index]? = some state)
    (pending : state.wait? = some none) (isGivenUp : outcome.isGivenUp = true)
    (tasks : next.tasks =
      system.tasks.modify index (fun state => { state with outcome := some outcome }))
    (pool : next.pool 0 = ((system.pool 0).withdraw index).1)
    (wakes : Wakes system next ((system.pool 0).withdraw index).2) : WaiterStep system next := by
  refine .gaveUp index outcome isGivenUp (by simp [wait?, found, pending]) pool
    (wait?_of_ended found pending tasks) ?_ wakes
  rw [acquired_of_ended found pending tasks, Outcome.isAcquired_of_isGivenUp isGivenUp]
  rfl

end Ended

/-! ### Turns -/

section Turns

variable {system : System} {index : Nat} {state : TaskState}

theorem wakes_of_wokenOf {system next : System} (before : System) {handed : Option Nat}
    (history : before.history = system.history)
    (after : (before.noteAll (Notice.wokenOf handed)).history.toList <+: next.history.toList) :
    Wakes system next handed := by
  intro waiter present
  rw [noteAll_wokenOf_history, history] at after
  rcases after with ⟨more, extended⟩
  refine ⟨Notice.wokenOf handed ++ more, by rw [← extended, List.append_assoc], ?_⟩
  rw [Option.mem_def.mp present]
  simp [Notice.wokenOf]

theorem WaiterStep.of_giveUp (ready : 0 < system.limiters.length)
    (found : system.tasks[index]? = some state) (pending : state.wait? = some none)
    {outcome : Outcome} (isGivenUp : outcome.isGivenUp = true) :
    WaiterStep system (((system.setPool 0 ((system.pool 0).withdraw index).1).noteAll
      (Notice.wokenOf ((system.pool 0).withdraw index).2)).finish index outcome) :=
  .gaveUp_of_ended found pending isGivenUp (by simp) (by simp [pool_setPool ready])
    (wakes_of_wokenOf (system.setPool 0 ((system.pool 0).withdraw index).1) rfl
      (finish_history _ _ _))

theorem WaiterStep.of_claim (ready : 0 < system.limiters.length)
    (found : system.tasks[index]? = some state) (pending : state.wait? = some none) :
    WaiterStep system
      (match ((system.pool 0).claim index).1 with
      | .acquired => (system.setPool 0 ((system.pool 0).claim index).2).finish index .acquired
      | _ => system.setPool 0 ((system.pool 0).claim index).2) := by
  have waits : system.wait? index = some none := by simp [wait?, found, pending]
  rcases ((system.pool 0).claim_answer index) with refused | granted
  · rw [refused]
    exact .waited index waits refused (by simp [pool_setPool ready]) (fun _ => rfl) rfl
  · rw [granted]
    change WaiterStep system
      ((system.setPool 0 ((system.pool 0).claim index).2).finish index .acquired)
    have ended := (finish_frame (system.setPool 0 ((system.pool 0).claim index).2) index
      .acquired).2.1
    exact .claimed index waits granted (by simp [pool_setPool ready])
      (wait?_of_ended found pending ended) (acquired_of_ended found pending ended)

theorem WaiterStep.of_acquire (ready : 0 < system.limiters.length)
    (found : system.tasks[index]? = some state) (pending : state.wait? = some none)
    (context : Context) (signal : Nat) :
    WaiterStep system (system.acquire index context signal) := by
  simp only [acquire, Pool.turn]
  by_cases canceled : system.isCancelled context = true
  · simp only [canceled, if_true]
    exact .of_giveUp ready found pending rfl
  · by_cases stale : system.isFired signal = true
    · simp only [canceled, stale, Bool.false_eq_true, if_false, if_true]
      exact .of_giveUp ready found pending rfl
    · simp only [canceled, stale, Bool.false_eq_true, if_false]
      have step := of_claim ready found pending
      rcases ((system.pool 0).claim_answer index) with refused | granted
      · simpa [refused, noteAll, Notice.wokenOf] using step
      · simpa [granted, noteAll, Notice.wokenOf] using step

/-- The turn of a timer ends it, sets its deadline or changes nothing. -/
theorem WaiterStep.of_runTimer (found : system.tasks[index]? = some state)
    (signal delay : Nat) (deadline : Option Nat)
    (timer : state.task = .timer signal delay deadline) :
    WaiterStep system (system.runTimer index signal delay deadline) := by
  have noWait : state.wait? = none := by simp [TaskState.wait?, timer]
  simp only [runTimer]
  split
  · exact .of_finish found noWait rfl rfl _
  · split
    · exact .of_finish found noWait (by simp) (by simp) _
    · exact .quiet_of_modify found (setTask_frame _ _ _).2.1 (by simp [TaskState.wait?, timer])
        (by simp)

theorem WaiterStep.of_dropTask (ready : 0 < system.limiters.length)
    (found : system.tasks[index]? = some state) (keeps : state.task.keepsToWaiting = true)
    (unfinished : state.outcome = none) :
    WaiterStep system (system.dropTask index state.task) := by
  cases task : state.task with
  | acquisition context signal =>
      have pending : state.wait? = some none := by simp [TaskState.wait?, task, unfinished]
      exact .of_giveUp ready found pending rfl
  | timer signal delay deadline =>
      exact .of_finish found (by simp [TaskState.wait?, task]) rfl rfl _
  | awaitCancellation context =>
      exact .of_finish found (by simp [TaskState.wait?, task]) rfl rfl _
  | awaitStaleness signal =>
      exact .of_finish found (by simp [TaskState.wait?, task]) rfl rfl _
  | admission job context stage => simp [Task.keepsToWaiting, task] at keeps
  | registration feed context watch => simp [Task.keepsToWaiting, task] at keeps
  | listening watch => simp [Task.keepsToWaiting, task] at keeps

theorem WaiterStep.refl (system : System) : WaiterStep system system :=
  .quiet rfl (fun _ => rfl) rfl

theorem WaiterStep.of_turn (ready : 0 < system.limiters.length)
    (keeps : system.AllTasks Task.keepsToWaiting) (index : Nat) :
    WaiterStep system (system.turn index) := by
  rcases turn_cases system index with same | ⟨state, found, unfinished⟩
  · rw [same]
    exact .refl system
  · have keepsToo := keeps index state found
    by_cases marked : state.isAborted = true
    · rw [turn_of_isAborted found unfinished marked]
      exact .of_dropTask ready found keepsToo unfinished
    · simp only [turn, found, unfinished, marked, Option.isSome_none, Bool.false_eq_true, if_false]
      cases task : state.task with
      | acquisition context signal =>
          have pending : state.wait? = some none := by
            simp [TaskState.wait?, task, unfinished]
          exact .of_acquire ready found pending context signal
      | timer signal delay deadline => exact .of_runTimer found signal delay deadline task
      | awaitCancellation context =>
          simp only
          split
          · exact .of_finish found (by simp [TaskState.wait?, task]) rfl rfl _
          · exact .refl system
      | awaitStaleness signal =>
          simp only
          split
          · exact .of_finish found (by simp [TaskState.wait?, task]) rfl rfl _
          · exact .refl system
      | admission job context stage => simp [Task.keepsToWaiting, task] at keepsToo
      | registration feed context watch => simp [Task.keepsToWaiting, task] at keepsToo
      | listening watch => simp [Task.keepsToWaiting, task] at keepsToo

end Turns

/-! ### Moves -/

/-- A started task is a wait that has had no turn, or goes unnoticed. -/
theorem WaiterStep.of_spawn (system : System) {task : Task} (keeps : task.keepsToWaiting = true) :
    WaiterStep system (system.spawn task).1 := by
  have waits : ∀ other, (system.spawn task).1.wait? other =
      if other = system.tasks.size then TaskState.wait? { task } else system.wait? other := by
    intro other
    simp only [wait?, spawn_frame, Array.getElem?_push]
    split <;> rfl
  have fresh : system.wait? system.tasks.size = none := by
    simp [wait?]
  have unnoticed (noWait : TaskState.wait? { task } = none) (other : Nat) :
      (system.spawn task).1.wait? other = system.wait? other := by
    rw [waits other, noWait]
    split
    · rename_i same
      rw [same, fresh]
    · rfl
  have pool : (system.spawn task).1.pool 0 = system.pool 0 := pool_congr (by simp) 0
  have acquired : (system.spawn task).1.acquired = system.acquired := by
    cases task <;>
      simp [System.acquired, TaskState.hasAcquired, TaskState.wait?]
  cases task with
  | acquisition context signal => exact .began system.tasks.size fresh pool waits acquired
  | timer signal delay deadline => exact .quiet pool (unnoticed rfl) acquired
  | awaitCancellation context => exact .quiet pool (unnoticed rfl) acquired
  | awaitStaleness signal => exact .quiet pool (unnoticed rfl) acquired
  | admission job context stage => simp [Task.keepsToWaiting] at keeps
  | registration feed context watch => simp [Task.keepsToWaiting] at keeps
  | listening watch => simp [Task.keepsToWaiting] at keeps

/-- The tasks of a run that keeps to waiting. -/
theorem perform_keepsToWaiting {system : System} {move : Move} (permitted : move.keepsToWaiting)
    (keeps : system.AllTasks Task.keepsToWaiting) :
    (system.perform move).AllTasks Task.keepsToWaiting := by
  refine perform_allTasks ?_ ?_ ?_ keeps
  · intro task later advances
    cases advances <;> rfl
  · intro task keepsToo
    cases task <;> first | rfl | simp [Task.keepsToWaiting] at keepsToo
  · rintro task rfl
    exact permitted

theorem WaiterStep.of_dropNow {system : System} (ready : 0 < system.limiters.length)
    (keeps : system.AllTasks Task.keepsToWaiting) (index : Nat) :
    WaiterStep system (system.dropNow index) := by
  rcases dropNow_cases system index with same | ⟨state, found, unfinished, dropped⟩
  · rw [same]
    exact .refl system
  · rw [dropped]
    exact .of_dropTask ready found (keeps index state found) unfinished

theorem WaiterStep.of_abort (system : System) (index : Nat) :
    WaiterStep system (system.abort index) := by
  rcases abort_cases system index with same | ⟨state, found, -, marked⟩
  · rw [same]
    exact .refl system
  · exact .quiet_of_modify found marked rfl (abort_pool system index 0)

theorem WaiterStep.of_move {system : System} (ready : 0 < system.limiters.length)
    (keeps : system.AllTasks Task.keepsToWaiting) {move : Move} (permitted : move.keepsToWaiting) :
    WaiterStep system (system.perform move) ∨ move = .tryAcquire 0 ∨ move = .tryRelease 0 := by
  cases move with
  | turn index => exact Or.inl (.of_turn ready keeps index)
  | drop index => exact Or.inl (.of_dropNow ready keeps index)
  | abort index => exact Or.inl (.of_abort system index)
  | start task => exact Or.inl (.of_spawn system permitted)
  | tryAcquire place =>
      cases place with
      | zero => exact Or.inr (Or.inl rfl)
      | succ place =>
          exact Or.inl (.quiet (pool_setPool_of_ne (by omega) _) (fun _ => rfl) rfl)
  | tryRelease place =>
      cases place with
      | zero => exact Or.inr (Or.inr rfl)
      | succ place =>
          refine Or.inl (.quiet ?_ ?_ ?_)
          · simp only [perform, tryRelease, noteAll_pool]
            exact pool_setPool_of_ne (by omega) _
          · intro index
            simp [wait?, perform, tryRelease]
          · simp [acquired, perform, tryRelease]
  | reconcile change => simp [Move.keepsToWaiting] at permitted
  | elsewhere happening =>
      refine Or.inl (.quiet ?_ ?_ ?_)
      · simp [perform]
      · intro index
        simp [wait?, perform]
      · simp [acquired, perform]

/-! ### Runs -/

/-- The first pool is sound, those who queue for it or were handed a token are waits that have not
ended, and no task uses it otherwise. -/
structure KeptToWaiting (system : System) : Prop where
  ready : 0 < system.limiters.length
  keeps : system.AllTasks Task.keepsToWaiting
  sound : (system.pool 0).Sound
  pending : ∀ waiter ∈ (system.pool 0).queue ++ (system.pool 0).handed,
    system.wait? waiter = some none

theorem keptToWaiting_of_unused {system : System} {capacity : Nat}
    (ready : 0 < system.limiters.length) (unused : system.pool 0 = .full capacity)
    (idle : system.tasks = #[]) : system.KeptToWaiting where
  ready := ready
  keeps := by
    intro index state found
    simp [idle] at found
  sound := by
    rw [unused]
    exact Pool.full_sound capacity
  pending := by
    intro waiter waiting
    simp [unused, Pool.full] at waiting

/-- Those who wait for the first pool after a step are waits that have not ended. -/
theorem WaiterStep.pending {system next : System} (kept : system.KeptToWaiting)
    (step : WaiterStep system next) :
    ∀ waiter ∈ (next.pool 0).queue ++ (next.pool 0).handed, next.wait? waiter = some none := by
  intro waiter waiting
  cases step with
  | quiet pool waits acquired =>
      rw [pool] at waiting
      rw [waits]
      exact kept.pending waiter waiting
  | began index fresh pool waits acquired =>
      rw [pool] at waiting
      rw [waits]
      split
      · rfl
      · exact kept.pending waiter waiting
  | waited index pendingToo refused pool waits acquired =>
      rw [pool] at waiting
      rw [waits]
      rcases Pool.claim_waiting kept.sound waiting with ⟨before, -⟩ | ⟨rfl, -⟩
      · exact kept.pending waiter before
      · exact pendingToo
  | claimed index pendingToo granted pool waits acquired =>
      rw [pool] at waiting
      rcases Pool.claim_waiting kept.sound waiting with ⟨before, apart⟩ | ⟨-, refused⟩
      · rw [waits, if_neg apart]
        exact kept.pending waiter before
      · rw [granted] at refused
        cases refused
  | gaveUp index outcome isGivenUp pendingToo pool waits acquired wakes =>
      rw [pool] at waiting
      obtain ⟨before, apart⟩ := Pool.withdraw_waiting kept.sound waiting
      rw [waits, if_neg apart]
      exact kept.pending waiter before

theorem tryAcquire_pool {system : System} (ready : 0 < system.limiters.length) :
    (system.perform (.tryAcquire 0)).pool 0 = (system.pool 0).tryAcquire.2 := by
  simp [perform, tryAcquire, pool_setPool ready]

theorem tryRelease_pool {system : System} (ready : 0 < system.limiters.length) :
    (system.perform (.tryRelease 0)).pool 0 = (system.pool 0).tryRelease.2.1 := by
  simp [perform, tryRelease, pool_setPool ready]

/-- A direct call ends no wait. -/
theorem directCall_wait? (system : System) {move : Move}
    (direct : move = .tryAcquire 0 ∨ move = .tryRelease 0) (index : Nat) :
    (system.perform move).wait? index = system.wait? index := by
  rcases direct with rfl | rfl <;> simp [wait?, perform, tryAcquire, tryRelease]

theorem directCall_acquired (system : System) {move : Move}
    (direct : move = .tryAcquire 0 ∨ move = .tryRelease 0) :
    (system.perform move).acquired = system.acquired := by
  rcases direct with rfl | rfl <;> simp [acquired, perform, tryAcquire, tryRelease]

theorem perform_keptToWaiting {system : System} {move : Move} (permitted : move.keepsToWaiting)
    (kept : system.KeptToWaiting) : (system.perform move).KeptToWaiting where
  ready := by
    rw [(perform_reaches system move).length]
    exact kept.ready
  keeps := perform_keepsToWaiting permitted kept.keeps
  sound := ((perform_reaches system move).pool kept.ready).sound kept.sound
  pending := by
    rcases WaiterStep.of_move kept.ready kept.keeps permitted with step | rfl | rfl
    · exact step.pending kept
    · intro waiter waiting
      rw [directCall_wait? system (Or.inl rfl)]
      rw [tryAcquire_pool kept.ready] at waiting
      exact kept.pending waiter (by simpa using waiting)
    · intro waiter waiting
      rw [directCall_wait? system (Or.inr rfl)]
      rw [tryRelease_pool kept.ready, (system.pool 0).tryRelease_moves.2] at waiting
      apply kept.pending waiter
      rw [(system.pool 0).tryRelease_moves.1]
      simp only [List.mem_append] at waiting ⊢
      tauto

theorem run_keptToWaiting {system : System} {moves : List Move}
    (permitted : ∀ move ∈ moves, move.keepsToWaiting) (kept : system.KeptToWaiting) :
    (system.run moves).KeptToWaiting :=
  run_invariant (fun _ _ allowed holds => perform_keptToWaiting allowed holds) permitted kept

end System

end Admission
