import Admission.Proofs.Beginnings
import Admission.Proofs.PoolLedger
import Admission.Proofs.Tellings

/-!
# What others than jobs do with the tokens of a pool

The tokens of a limiter are not claimed and given back by jobs alone. The reconciler of the first
limiter claims tokens for jobs that were running already and gives them back for jobs that are over,
waits for a token end with one, and anybody may call the pool directly. For every move this file
says which tokens are claimed and given back in this way. In a move that is no turn of a job, nothing
else happens to the tokens in use, and no limiter takes a token back.
-/

namespace Admission

/-- What somebody who is not a job does with a token. -/
inductive Deal where
  | claim
  | giveBack
deriving DecidableEq

namespace Deal

/-- A token is claimed from a pool at once, if one is available. -/
def claimFrom (pool : Pool) : List Deal :=
  if pool.tryAcquire.1 then [claim] else []

/-- A token is given back to a pool, if one is claimed. -/
def giveBackTo (pool : Pool) : List Deal :=
  if pool.tryRelease.1 then [giveBack] else []

theorem claimFrom_inUse (pool : Pool) :
    pool.tryAcquire.2.inUse + (claimFrom pool).count giveBack =
      pool.inUse + (claimFrom pool).count claim := by
  rw [pool.tryAcquire_inUse, claimFrom]
  cases pool.tryAcquire.1 <;> rfl

theorem giveBackTo_inUse (pool : Pool) :
    pool.tryRelease.2.1.inUse + (giveBackTo pool).count giveBack =
      pool.inUse + (giveBackTo pool).count claim := by
  rw [← System.tryRelease_balance pool, giveBackTo]
  cases pool.tryRelease.1 <;> rfl

end Deal

/-- What the reconciler does with a token for a change. -/
def Reconciler.deals (pool : Pool) (change : ResourceEvent) : List Deal :=
  match demand change with
  | .claim => Deal.claimFrom pool
  | .giveBack => Deal.giveBackTo pool
  | .nothing => []

/-- What a listener does with a token for an item that it applies to a pool. -/
def Watch.deals : Pool × FeedItem → List Deal
  | (pool, .event change) => Reconciler.deals pool change
  | (_, .synced) => []

theorem Reconciler.apply_inUse (place : Nat) (pool : Pool) (change : ResourceEvent) :
    (apply place pool change).1.inUse + (deals pool change).count .giveBack =
      pool.inUse + (deals pool change).count .claim := by
  simp only [apply, settle, deals]
  cases demand change with
  | claim => exact Deal.claimFrom_inUse pool
  | giveBack => exact Deal.giveBackTo_inUse pool
  | nothing => rfl

/-- What a listener does with the tokens, item by item. -/
theorem Watch.encounters_inUse (pool : Pool) (items : List FeedItem) :
    (items.foldl FeedItem.leaves pool).inUse +
        ((encounters pool items).flatMap deals).count .giveBack =
      pool.inUse + ((encounters pool items).flatMap deals).count .claim := by
  induction items generalizing pool with
  | nil => rfl
  | cons item rest ih =>
      have later := ih (item.leaves pool)
      have first : (item.leaves pool).inUse + (deals (pool, item)).count .giveBack =
          pool.inUse + (deals (pool, item)).count .claim := by
        cases item with
        | event change => exact Reconciler.apply_inUse 0 pool change
        | synced => rfl
      rw [encounters, List.flatMap_cons, List.count_append, List.count_append, List.foldl_cons]
      omega

namespace System

/-- Whether a wait for a token ends with one at a turn. -/
def wins (index : Nat) (system : System) : Bool :=
  (system.wait? index).any Option.isNone &&
    ((system.turn index).wait? index).join.any Outcome.isAcquired

/-- What a task that is no job does with the tokens of the first pool in its turn. -/
def dealsOf (index : Nat) (system : System) : List Deal :=
  match system.heardBy index with
  | some watch => (system.appliedIn watch (.turn index)).flatMap Watch.deals
  | none => if system.wins index then [.claim] else []

/-- What those who are no jobs do with the tokens of the pool at a place in a move. -/
def dealsIn (place : Nat) (system : System) : Move → List Deal
  | .tryAcquire called => if place = called then Deal.claimFrom (system.pool called) else []
  | .tryRelease called => if place = called then Deal.giveBackTo (system.pool called) else []
  | .reconcile change => if place = 0 then Reconciler.deals (system.pool 0) change else []
  | .turn index => if place = 0 then system.dealsOf index else []
  | _ => []

section Others

variable {system next : System} {index place : Nat} {state : TaskState} {move : Move}

/-- The records of the reconciler are others. -/
theorem apply_takenBack (spot : Nat) (pool : Pool) (change : ResourceEvent) :
    Notice.allTakenBack (Reconciler.apply spot pool change).2 = [] := by
  have message : Reconciler.giveBackMessage change ≠ "next handler failed" := by
    cases change <;> simp [Reconciler.giveBackMessage]
  have settled : Notice.allTakenBack (Reconciler.settle pool change).2 = [] := by
    simp only [Reconciler.settle]
    cases Reconciler.demand change with
    | claim => rfl
    | giveBack => simp [Reconciler.record, Notice.takenBack?, message]
    | nothing => rfl
  simp only [Reconciler.apply, Notice.allTakenBack_append, settled]
  cases change <;> rfl

theorem takeAll_takenBack (spot watch : Nat) (feed : String) (pool : Pool) (isSynced : Bool)
    (items : List FeedItem) :
    Notice.allTakenBack (Watch.takeAll spot watch feed pool isSynced items).2.2 = [] := by
  induction items generalizing pool isSynced with
  | nil => rfl
  | cons item rest ih =>
      simp only [Watch.takeAll, Notice.allTakenBack_append, ih, List.append_nil]
      cases item with
      | event change => exact apply_takenBack spot pool change
      | synced => cases isSynced <;> rfl

/-- What those who are no jobs do with the tokens of the pool at a place, in one step. -/
structure Trades (place : Nat) (deals : List Deal) (system next : System) : Prop where
  takenBack : next.takenBack = system.takenBack
  even : (next.pool place).inUse + deals.count .giveBack =
    (system.pool place).inUse + deals.count .claim

theorem Trades.refl (place : Nat) (system : System) : Trades place [] system system := ⟨rfl, rfl⟩

/-- A step that leaves the pools alone, and in which no attempt to give a token back is recorded. -/
theorem Trades.of_frame (takenBack : next.takenBack = system.takenBack)
    (limiters : next.limiters = system.limiters) : Trades place [] system next :=
  ⟨takenBack, by rw [pool_congr limiters]; rfl⟩

/-- Afterwards no token is claimed or given back. -/
theorem Trades.trans {deals : List Deal} {middle : System}
    (trades : Trades place deals system middle) (quiet : Trades place [] middle next) :
    Trades place deals system next where
  takenBack := quiet.takenBack.trans trades.takenBack
  even := by
    have same : (next.pool place).inUse = (middle.pool place).inUse := quiet.even
    rw [same]
    exact trades.even

theorem Trades.finish {deals : List Deal} (trades : Trades place deals system next) (index : Nat)
    (outcome : Outcome) : Trades place deals system (next.finish index outcome) :=
  trades.trans (.of_frame (by simp) (by simp))

/-- Somebody has used one pool, which may be the one at the place. -/
theorem Trades.of_setPool {deals : List Deal} {called : Nat} {pool : Pool}
    (inside : place < system.limiters.length)
    (counted : pool.inUse + deals.count .giveBack =
      (system.pool called).inUse + deals.count .claim) :
    Trades place (if place = called then deals else []) system (system.setPool called pool) := by
  refine ⟨rfl, ?_⟩
  by_cases here : place = called
  · subst here
    rw [pool_setPool inside, if_pos rfl, if_pos rfl]
    exact counted
  · rw [pool_setPool_of_ne here, if_neg here]
    rfl

theorem dropTask_trades (system : System) (index : Nat) (task : Task) :
    Trades place [] system (system.dropTask index task) :=
  ⟨(dropTask_frame system index task).2.2.2.2, dropTask_inUse system index task place⟩

theorem runTimer_trades (system : System) (index signal delay : Nat) (deadline : Option Nat) :
    Trades place [] system (system.runTimer index signal delay deadline) := by
  simp only [runTimer]
  split
  · exact (Trades.refl place system).finish index _
  · split
    · exact (Trades.of_frame (by simp) (by simp)).finish index _
    · exact .of_frame (by simp) (by simp)

theorem settleRegistration_trades (system : System) (index : Nat) (context : Context)
    (watch : Nat) (deadline : Option Nat) :
    Trades place [] system (system.settleRegistration index context watch deadline) := by
  simp only [settleRegistration]
  split
  · exact .refl place system
  · split
    · exact .refl place system
    · apply Trades.finish
      exact .of_frame (by simp [Registration.syncedNotice, Notice.takenBack?]) (by simp)
    · apply Trades.finish
      exact .of_frame (by simp [Registration.failedNotice, Notice.takenBack?]) (by simp)

theorem startRegistration_trades (system : System) (index : Nat) (feed : String)
    (context : Context) :
    Trades place [] system (system.startRegistration index feed context) := by
  have watched : Trades place [] system (watchFeed
      { system with cancellation := (system.cancellation.child context).1 } feed
      (system.cancellation.child context).2).1 :=
    .of_frame (by simp) (by simp)
  simp only [startRegistration]
  split
  · rename_i after error watching
    rw [watching] at watched
    exact (watched.trans (.of_frame (by simp) (by simp))).finish index _
  · rename_i after name stream watching
    rw [watching] at watched
    apply Trades.trans _ (settleRegistration_trades _ _ _ _ _)
    exact watched.trans (.of_frame (by simp) (by simp))

theorem endListening_trades (system : System) (index watch : Nat) (watched : Watch) :
    Trades place [] system (system.endListening index watch watched) := by
  refine Trades.finish (.of_frame ?_ ?_) index _
  · have ended : (system.note (Watch.endedNotice watched.feed)).takenBack = system.takenBack := by
      rw [note_takenBack]
      exact List.append_nil _
    rw [note_takenBack, ← ended]
    exact List.append_nil _
  · simp

/-- What the listener of a watch does with the tokens when it applies what it finds. -/
theorem attended_trades (inside : place < system.limiters.length) (watch : Nat) (watched : Watch) :
    Trades place (if place = 0 then
      (Watch.encounters (system.pool 0) ((system.unread watched.stream).take turnLimit)).flatMap
        Watch.deals else []) system (system.attended watch watched) := by
  have applied := (Watch.takeAll_eq watch watched.feed (system.pool 0) watched.isSynced
    ((system.unread watched.stream).take turnLimit)).1
  have counted := Watch.encounters_inUse (system.pool 0)
    ((system.unread watched.stream).take turnLimit)
  rw [← applied] at counted
  refine (Trades.of_setPool inside counted).trans (.of_frame ?_ (noteAll_frame _ _).1)
  rw [attended, noteAll_takenBack, takeAll_takenBack]
  exact List.append_nil _

/-- The turn of a listener. -/
theorem listen_trades (inside : place < system.limiters.length) {watch : Nat}
    (hears : system.heardBy index = some watch) :
    Trades place (if place = 0 then system.dealsOf index else []) system
      (system.listen index watch) := by
  simp only [dealsOf, hears]
  cases present : system.watches[watch]? with
  | none =>
      simp only [appliedIn, present, listen, List.flatMap_nil, ite_self]
      exact .refl place system
  | some watched =>
      have attended := attended_trades inside watch watched
      rw [appliedIn_of_heard hears present, listen_eq present]
      cases system.isCancelled watched.context with
      | true =>
          simp only [if_true, List.flatMap_nil, ite_self]
          exact endListening_trades system index watch watched
      | false =>
          simp only [Bool.false_eq_true, if_false]
          by_cases full : turnLimit ≤ (system.unread watched.stream).length
          · rw [if_pos full]
            exact attended.trans (.of_frame (by simp) (by simp))
          · rw [if_neg full]
            cases ((system.streams[watched.stream]?).getD {}).hasWriter with
            | true => exact attended
            | false => exact attended.trans (endListening_trades _ index watch watched)

theorem wins_of_wait? {outcome : Option Outcome} (waits : system.wait? index = some none)
    (ended : (system.turn index).wait? index = some outcome) :
    system.wins index = outcome.any Outcome.isAcquired := by
  simp [wins, waits, ended]

theorem wins_of_noWait (noWait : system.wait? index = none) : system.wins index = false := by
  simp [wins, noWait]

/-- The turn of a wait. -/
theorem acquire_trades (inside : place < system.limiters.length)
    (found : system.tasks[index]? = some state) (pending : state.wait? = some none)
    {context : Context} {signal : Nat}
    (turned : system.turn index = system.acquire index context signal) :
    Trades place (if place = 0 then (if system.wins index then [.claim] else []) else []) system
      (system.turn index) := by
  have waits : system.wait? index = some none := by simp [wait?, found, pending]
  have counted := (system.pool 0).turn_inUse index (system.isCancelled context)
    (system.isFired signal)
  have ends (pool : Pool) (woken : Option Nat) (outcome : Outcome) :
      (((system.setPool 0 pool).noteAll (Notice.wokenOf woken)).finish index outcome).wait? index =
        some (some outcome) := by
    rw [wait?_of_ended found pending (by simp; rfl), if_pos rfl]
  have used {deals : List Deal} {pool : Pool} (woken : Option Nat)
      (counted : pool.inUse + deals.count .giveBack =
        (system.pool 0).inUse + deals.count .claim) :
      Trades place (if place = 0 then deals else []) system
        ((system.setPool 0 pool).noteAll (Notice.wokenOf woken)) :=
    (Trades.of_setPool inside counted).trans (.of_frame (by simp) (by simp))
  simp only [acquire] at turned
  generalize (system.pool 0).turn index (system.isCancelled context) (system.isFired signal) =
    answer at counted turned
  rcases answer with ⟨wait, pool, woken⟩
  cases wait with
  | pending =>
      have still : (system.turn index).wait? index = some none := by
        rw [turned]
        simp [wait?, found, pending]
      rw [wins_of_wait? waits still, turned]
      exact used woken counted
  | acquired =>
      rw [wins_of_wait? waits (by rw [turned]; exact ends pool woken _), turned]
      apply Trades.finish
      exact used woken counted
  | canceled =>
      rw [wins_of_wait? waits (by rw [turned]; exact ends pool woken _), turned]
      apply Trades.finish
      exact used woken counted
  | stale =>
      rw [wins_of_wait? waits (by rw [turned]; exact ends pool woken _), turned]
      apply Trades.finish
      exact used woken counted

theorem not_wins_of_same (same : system.turn index = system) : system.wins index = false := by
  simp only [wins, same]
  cases system.wait? index with
  | none => rfl
  | some outcome => cases outcome <;> rfl

theorem not_wins_of_dropTask (found : system.tasks[index]? = some state)
    (dropped : system.turn index = system.dropTask index state.task) :
    system.wins index = false := by
  have ended : (system.turn index).wait? index =
      TaskState.wait? { state with outcome := some .aborted } := by
    rw [dropped, wait?_of_modify found (dropTask_frame system index state.task).1, if_pos rfl]
  have lost : (TaskState.wait? { state with outcome := some .aborted }).join.any
      Outcome.isAcquired = false := by
    cases state.task <;> simp [TaskState.wait?, Outcome.isAcquired]
  rw [wins, ended, lost, Bool.and_false]

/-- The turn of a task that uses no pool. -/
theorem turn_trades_of_other (found : system.tasks[index]? = some state)
    (noJob : state.task.isAdmission = false) (deaf : state.task.isListening = false)
    (noWait : state.wait? = none) : Trades place [] system (system.turn index) := by
  simp only [turn, found]
  split
  · exact .refl place system
  · split
    · exact dropTask_trades system index state.task
    · cases task : state.task with
      | timer signal delay deadline => exact runTimer_trades system index signal delay deadline
      | awaitCancellation context =>
          simp only
          split
          · exact (Trades.refl place system).finish index _
          · exact .refl place system
      | awaitStaleness signal =>
          simp only
          split
          · exact (Trades.refl place system).finish index _
          · exact .refl place system
      | acquisition context signal => simp [TaskState.wait?, task] at noWait
      | admission job context stage => simp [Task.isAdmission, task] at noJob
      | registration feed context watch =>
          cases watch with
          | none => exact startRegistration_trades system index feed context
          | some watch => exact settleRegistration_trades system index context watch.1 watch.2
      | listening watch => simp [Task.isListening, task] at deaf

/-- The turn of a task that handles no job. -/
theorem turn_trades (inside : place < system.limiters.length)
    (noJob : ∀ state, system.tasks[index]? = some state → state.task.isAdmission = false) :
    Trades place (if place = 0 then system.dealsOf index else []) system (system.turn index) := by
  cases hears : system.heardBy index with
  | some watch =>
      rcases heardBy_eq_some.mp hears with ⟨state, found, unfinished, unmarked, task⟩
      have turned : system.turn index = system.listen index watch := by
        simp [turn, found, unfinished, unmarked, task]
      rw [turned]
      exact listen_trades inside hears
  | none =>
      have lost (next : System) (loses : system.wins index = false)
          (trades : Trades place [] system next) :
          Trades place (if place = 0 then system.dealsOf index else []) system next := by
        simpa [dealsOf, hears, loses] using trades
      rcases turn_cases system index with same | ⟨state, found, unfinished⟩
      · rw [same]
        exact lost system (not_wins_of_same same) (.refl place system)
      · by_cases marked : state.isAborted = true
        · have dropped := turn_of_isAborted found unfinished marked
          rw [dropped]
          exact lost _ (not_wins_of_dropTask found dropped)
            (dropTask_trades system index state.task)
        · cases task : state.task with
          | acquisition context signal =>
              have pending : state.wait? = some none := by simp [TaskState.wait?, task, unfinished]
              have turned : system.turn index = system.acquire index context signal := by
                simp [turn, found, unfinished, marked, task]
              simp only [dealsOf, hears]
              exact acquire_trades inside found pending turned
          | _ =>
              have noWait : state.wait? = none := by simp [TaskState.wait?, task]
              have deaf := not_isListening found unfinished (by simpa using marked) hears
              exact lost _ (wins_of_noWait (by simp [wait?, found, noWait]))
                (turn_trades_of_other found (noJob state found) deaf noWait)

/-- A move that is no turn of a job. -/
theorem perform_trades (inside : place < system.limiters.length)
    (noJob : ∀ index state, move = .turn index → system.tasks[index]? = some state →
      state.task.isAdmission = false) :
    Trades place (system.dealsIn place move) system (system.perform move) := by
  cases move with
  | turn index => exact turn_trades inside fun state => noJob index state rfl
  | drop index =>
      rcases dropNow_cases system index with same | ⟨state, -, -, dropped⟩
      · rw [perform, same]
        exact .refl place system
      · rw [perform, dropped]
        exact dropTask_trades system index state.task
  | abort index => exact .of_frame (by simp [perform]) (by simp [perform])
  | start task => exact .of_frame (by simp [perform]) (by simp [perform])
  | tryAcquire called => exact .of_setPool inside (Deal.claimFrom_inUse (system.pool called))
  | tryRelease called =>
      have counted := Deal.giveBackTo_inUse (system.pool called)
      refine (Trades.of_setPool inside counted).trans (.of_frame ?_ ?_)
      · simp [perform, tryRelease]
      · simp [perform, tryRelease]
  | reconcile change =>
      have counted := Reconciler.apply_inUse 0 (system.pool 0) change
      refine (Trades.of_setPool inside counted).trans (.of_frame ?_ ?_)
      · simp [perform, reconcile, apply_takenBack]
      · simp [perform, reconcile]
  | elsewhere happening => exact .of_frame (by simp [perform]) (by simp [perform])

/-- A job is not one of the others. -/
theorem dealsIn_of_job (found : system.tasks[index]? = some state)
    (job : state.task.isAdmission = true) : system.dealsIn place (.turn index) = [] := by
  have deaf : state.task.isListening = false := by
    cases task : state.task <;> simp_all [Task.isAdmission, Task.isListening]
  have noWait : state.wait? = none := by
    cases task : state.task <;> simp_all [Task.isAdmission, TaskState.wait?]
  have loses : system.wins index = false := wins_of_noWait (by simp [wait?, found, noWait])
  simp [dealsIn, dealsOf, heardBy_of_other found deaf, loses]

end Others

end System

end Admission
