import Admission.Proofs.Chain
import Admission.Proofs.Run

/-!
# What moves do to the limiters

Whatever happens, the pools of a system are only ever used through their operations, and no limiter
is added or taken away. It follows that the pools of a system that begins with sound ones stay
sound, and keep their capacities, along every run.
-/

namespace Admission

namespace Reconciler

theorem settle_reaches (pool : Pool) (change : ResourceEvent) :
    pool.Reaches (settle pool change).1 := by
  simp only [settle]
  split
  · exact .tryAcquire .unused
  · exact .tryRelease .unused
  · exact .unused

theorem apply_reaches (place : Nat) (pool : Pool) (change : ResourceEvent) :
    pool.Reaches (apply place pool change).1 :=
  settle_reaches pool change

end Reconciler

namespace Watch

theorem take_reaches (place index : Nat) (feed : String) (pool : Pool) (isSynced : Bool)
    (item : FeedItem) : pool.Reaches (take place index feed pool isSynced item).1 := by
  cases item with
  | event change => exact Reconciler.apply_reaches place pool change
  | synced =>
      simp only [take]
      split
      · exact .unused
      · exact .unused

theorem takeAll_reaches (place index : Nat) (feed : String) (pool : Pool) (isSynced : Bool)
    (items : List FeedItem) :
    pool.Reaches (takeAll place index feed pool isSynced items).1 := by
  induction items generalizing pool isSynced with
  | nil => exact .unused
  | cons item rest ih =>
      exact (take_reaches place index feed pool isSynced item).trans (ih _ _)

end Watch

namespace System

/-- The limiters of a system are used, and none is added or taken away. -/
def Reaches (system next : System) : Prop :=
  Chain.Reaches system.limiters next.limiters

theorem Reaches.of_eq {system next : System} (limiters : next.limiters = system.limiters) :
    system.Reaches next := by
  simp only [Reaches, limiters]
  exact Chain.Reaches.refl system.limiters

theorem Reaches.trans {system next last : System} (before : system.Reaches next)
    (after : next.Reaches last) : system.Reaches last :=
  Chain.Reaches.trans before after

/-- Whatever becomes of the limiter at a place. -/
theorem Reaches.getElem? {system next : System} (reaches : system.Reaches next) {place : Nat}
    {limiter : Limiter} (found : system.limiters[place]? = some limiter) :
    ∃ after, next.limiters[place]? = some after ∧ limiter.pool.Reaches after.pool :=
  Chain.Reaches.getElem? reaches found

theorem Reaches.length {system next : System} (reaches : system.Reaches next) :
    next.limiters.length = system.limiters.length :=
  (List.Forall₂.length_eq reaches).symm

theorem Reaches.pool {system next : System} (reaches : system.Reaches next) {place : Nat}
    (inside : place < system.limiters.length) :
    (system.pool place).Reaches (next.pool place) := by
  have found : system.limiters[place]? = some system.limiters[place] :=
    List.getElem?_eq_getElem inside
  obtain ⟨after, foundAfter, used⟩ := reaches.getElem? found
  simpa [System.pool, found, foundAfter] using used

theorem reaches_setPool {system : System} {place : Nat} {pool : Pool}
    (reaches : (system.pool place).Reaches pool) : system.Reaches (system.setPool place pool) := by
  simp only [Reaches, setPool, setPool_limiters]
  apply Chain.Reaches.modify
  intro limiter found
  simpa [System.pool, found, Limiter.Reaches] using reaches

section Turns

/-- A task that is dropped ends, and nothing else happens but to the queues of pools. -/
@[simp]
theorem dropTask_frame (system : System) (index : Nat) (task : Task) :
    (system.dropTask index task).tasks =
        system.tasks.modify index (fun state => { state with outcome := some .aborted }) ∧
      (system.dropTask index task).watches = system.watches ∧
      (system.dropTask index task).feeds = system.feeds ∧
      (system.dropTask index task).streams = system.streams ∧
      (system.dropTask index task).takenBack = system.takenBack := by
  cases task with
  | acquisition context signal => simp [dropTask]
  | admission job context stage => cases stage <;> simp [dropTask]
  | _ => simp [dropTask]

theorem dropTask_inUse (system : System) (index : Nat) (task : Task) (place : Nat) :
    ((system.dropTask index task).pool place).inUse = (system.pool place).inUse := by
  cases task with
  | acquisition context signal =>
      simp only [dropTask, finish_pool, noteAll_pool]
      by_cases first : place = 0
      · subst first
        by_cases inside : 0 < system.limiters.length
        · rw [pool_setPool inside, if_pos rfl, (Pool.withdraw_frame _ _).2]
        · have empty : system.limiters = [] := List.length_eq_zero_iff.mp (by omega)
          have unchanged : (system.setPool 0 ((system.pool 0).withdraw index).1).limiters =
              system.limiters := by
            simp [setPool, setPool_limiters, empty]
          rw [pool_congr unchanged 0]
      · rw [pool_setPool_of_ne first]
  | admission job context stage =>
      cases stage with
      | waiting reached since =>
          simp only [dropTask, finish_pool, noteAll_pool]
          simp only [pool, Chain.withdraw_limiters, List.getElem?_modify]
          cases system.limiters[place]? with
          | none => rfl
          | some limiter => by_cases same : reached = place <;> simp [same]
      | _ => simp only [dropTask, finish_pool]
  | _ => simp only [dropTask, finish_pool]

theorem dropTask_reaches (system : System) (index : Nat) (task : Task) :
    system.Reaches (system.dropTask index task) := by
  cases task with
  | acquisition context signal =>
      simp only [Reaches, dropTask, finish_frame, noteAll_frame]
      exact reaches_setPool (.withdraw .unused index)
  | admission job context stage =>
      cases stage with
      | arriving => exact .of_eq (by simp [dropTask])
      | waiting place since =>
          refine .trans ?_ (.of_eq (finish_frame _ _ _).1)
          simp only [Reaches, noteAll_frame]
          exact Chain.withdraw_reaches index place system.limiters
      | inside holds => exact .of_eq (by simp [dropTask])
  | timer signal delay deadline => exact .of_eq (by simp [dropTask])
  | awaitCancellation context => exact .of_eq (by simp [dropTask])
  | awaitStaleness signal => exact .of_eq (by simp [dropTask])
  | registration feed context watch => exact .of_eq (by simp [dropTask])
  | listening watch => exact .of_eq (by simp [dropTask])

theorem acquire_reaches (system : System) (index : Nat) (context : Context) (signal : Nat) :
    system.Reaches (system.acquire index context signal) := by
  have turned : system.Reaches (system.setPool 0 ((system.pool 0).turn index
      (system.isCancelled context) (system.isFired signal)).2.1) :=
    reaches_setPool (.turn .unused index _ _)
  simp only [acquire]
  split
  · exact turned.trans (.of_eq (by simp))
  · exact turned.trans (.of_eq (by simp))
  · exact turned.trans (.of_eq (by simp))
  · exact turned.trans (.of_eq (by simp))

theorem concludeJob_reaches (system : System) (index : Nat) (job : Job)
    (result : Except HandlerError Unit) : system.Reaches (system.concludeJob index job result) := by
  refine .trans ?_ (.of_eq (finish_frame _ _ _).1)
  simp only [Reaches, noteAll_frame]
  exact Chain.conclude_reaches 0 job.uuid result system.limiters

theorem handleInside_reaches (system : System) (index : Nat) (job : Job) (context : Context)
    (holds : List Hold) : system.Reaches (system.handleInside index job context holds) := by
  simp only [handleInside]
  split
  · split
    · exact .of_eq (by simp)
    · exact concludeJob_reaches system index job _
    · refine .trans ?_ (concludeJob_reaches _ index job _)
      split
      · exact .of_eq (by simp)
      · exact .of_eq rfl
  · exact .of_eq (by simp)

theorem admitJob_reaches (system : System) (index : Nat) (job : Job) (context : Context)
    (place since : Nat) : system.Reaches (system.admitJob index job context place since) := by
  simp only [admitJob]
  split
  · simp only [Reaches, setTask_frame, noteAll_frame]
    exact Chain.advance_reaches 0 place _ system.limiters
  · simp only [Reaches, finish_frame, noteAll_frame]
    exact Chain.advance_reaches 0 place _ system.limiters
  · refine .trans ?_ (handleInside_reaches _ _ _ _ _)
    simp only [Reaches, note_frame, noteAll_frame]
    exact Chain.advance_reaches 0 place _ system.limiters

theorem settleRegistration_reaches (system : System) (index : Nat) (context : Context)
    (watch : Nat) (deadline : Option Nat) :
    system.Reaches (system.settleRegistration index context watch deadline) := by
  simp only [settleRegistration]
  split
  · exact .of_eq rfl
  · split
    · exact .of_eq rfl
    · exact .of_eq (by simp)
    · exact .of_eq (by simp)

theorem startRegistration_reaches (system : System) (index : Nat) (feed : String)
    (context : Context) : system.Reaches (system.startRegistration index feed context) := by
  have watched := (watchFeed_frame
    ({ system with cancellation := (system.cancellation.child context).1 } : System) feed
    (system.cancellation.child context).2).1
  simp only [startRegistration]
  split
  · rename_i after error watching
    rw [watching] at watched
    exact .of_eq (by simpa using watched)
  · rename_i after name stream watching
    rw [watching] at watched
    refine .trans ?_ (settleRegistration_reaches _ index context _ _)
    exact .of_eq (by simpa using watched)

theorem listen_reaches (system : System) (index watch : Nat) :
    system.Reaches (system.listen index watch) := by
  simp only [listen]
  split
  · exact .of_eq rfl
  · split
    · exact .of_eq (by simp [endListening])
    · have used (watched : Watch) (items : List FeedItem) :
          system.Reaches (system.setPool 0 (Watch.takeAll 0 watch watched.feed (system.pool 0)
            watched.isSynced items).1) :=
        reaches_setPool (Watch.takeAll_reaches 0 watch _ _ _ _)
      split
      · simp only [Reaches, note_frame, noteAll_frame]
        exact used _ _
      · split
        · simp only [Reaches, noteAll_frame]
          exact used _ _
        · simp only [Reaches, endListening, finish_frame, note_frame, noteAll_frame]
          exact used _ _

theorem turn_reaches (system : System) (index : Nat) : system.Reaches (system.turn index) := by
  simp only [turn]
  split
  · exact .of_eq rfl
  · rename_i state found
    split
    · exact .of_eq rfl
    · split
      · exact dropTask_reaches system index state.task
      · split
        · rename_i signal delay deadline task
          simp only [runTimer]
          split
          · exact .of_eq (by simp)
          · split
            · exact .of_eq (by simp)
            · exact .of_eq (by simp)
        · split
          · exact .of_eq (by simp)
          · exact .of_eq rfl
        · split
          · exact .of_eq (by simp)
          · exact .of_eq rfl
        · exact acquire_reaches system index _ _
        · exact admitJob_reaches system index _ _ _ _
        · exact admitJob_reaches system index _ _ _ _
        · exact handleInside_reaches system index _ _ _
        · exact startRegistration_reaches system index _ _
        · exact settleRegistration_reaches system index _ _ _
        · exact listen_reaches system index _

end Turns

/-- Whatever happens, pools are only used through their operations. -/
theorem perform_reaches (system : System) (move : Move) :
    system.Reaches (system.perform move) := by
  cases move with
  | turn index => exact turn_reaches system index
  | drop index =>
      rcases dropNow_cases system index with same | ⟨state, -, -, dropped⟩
      · exact .of_eq (congrArg limiters same)
      · simp only [perform, dropped]
        exact dropTask_reaches system index state.task
  | abort index => exact .of_eq (by simp [perform])
  | start task => exact .of_eq (by simp [perform])
  | tryAcquire place => exact reaches_setPool (.tryAcquire .unused)
  | tryRelease place =>
      simp only [Reaches, perform, tryRelease, noteAll_frame]
      exact reaches_setPool (.tryRelease .unused)
  | reconcile change =>
      simp only [Reaches, perform, reconcile, noteAll_frame]
      exact reaches_setPool (Reconciler.apply_reaches 0 (system.pool 0) change)
  | elsewhere happening => exact .of_eq (by simp [perform])

theorem run_reaches (system : System) (moves : List Move) : system.Reaches (system.run moves) := by
  induction moves generalizing system with
  | nil => exact .of_eq rfl
  | cons move rest ih => exact (perform_reaches system move).trans (ih _)

end System

end Admission
