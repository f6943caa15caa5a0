import Admission.Proofs.Contexts
import Admission.Proofs.Course

/-!
# What turns do to the feeds

Of all tasks only a job can change a feed, and it does so at one occasion: when the last handler
starts it and answers that it succeeded, in one turn. A job whose resource was put into the feed
before can only go on waiting at the holds of the last handler, or succeed without a further
change.
-/

namespace Admission

/-- Whether a task uses neither pools nor feeds. -/
def Task.isIdle : Task → Bool
  | .timer _ _ _ | .awaitCancellation _ | .awaitStaleness _ => true
  | _ => false

theorem Task.Advances.isIdle_eq {task later : Task} (advances : task.Advances later) :
    later.isIdle = task.isIdle := by
  cases advances <;> rfl

theorem Task.Advances.isAdmission_eq {task later : Task} (advances : task.Advances later) :
    later.isAdmission = task.isAdmission := by
  cases advances <;> rfl

theorem Task.isIdle_or_isAdmission {task : Task} (keeps : task.keepsToAdmission = true) :
    task.isIdle = true ∨ task.isAdmission = true := by
  cases task with
  | admission job context stage => exact Or.inr rfl
  | timer signal delay deadline => exact Or.inl rfl
  | awaitCancellation context => exact Or.inl rfl
  | awaitStaleness signal => exact Or.inl rfl
  | _ => cases keeps

namespace System

/-- The limiters, the watches, the feeds and their streams are the same. -/
structure SameFeeds (system next : System) : Prop where
  limiters : next.limiters = system.limiters
  watches : next.watches = system.watches
  feeds : next.feeds = system.feeds
  streams : next.streams = system.streams

section Turns

variable {system before next : System} {index : Nat} {state : TaskState} {job : Job}
  {context : Context} {stage : Stage}

theorem SameFeeds.finish (same : system.SameFeeds before) (index : Nat) (outcome : Outcome) :
    system.SameFeeds (before.finish index outcome) where
  limiters := by simp [same.limiters]
  watches := by simp [same.watches]
  feeds := by simp [same.feeds]
  streams := by simp [same.streams]

theorem SameFeeds.setTask (same : system.SameFeeds before) (index : Nat) (task : Task) :
    system.SameFeeds (before.setTask index task) where
  limiters := same.limiters
  watches := same.watches
  feeds := same.feeds
  streams := same.streams

theorem SameFeeds.note (same : system.SameFeeds before) (notice : Notice) :
    system.SameFeeds (before.note notice) where
  limiters := by simp [same.limiters]
  watches := by simp [same.watches]
  feeds := by simp [same.feeds]
  streams := by simp [same.streams]

theorem SameFeeds.refl (system : System) : system.SameFeeds system :=
  ⟨rfl, rfl, rfl, rfl⟩

theorem dropTask_of_isIdle {task : Task} (idle : task.isIdle = true) (system : System)
    (index : Nat) : system.dropTask index task = system.finish index .aborted := by
  cases task <;> first | rfl | cases idle

/-- An idle task changes itself only. -/
theorem turn_of_isIdle (found : system.tasks[index]? = some state)
    (idle : state.task.isIdle = true) :
    system.SameFeeds (system.turn index) ∧
      ∃ change, (system.turn index).tasks = system.tasks.modify index change := by
  have same : system.SameFeeds system := .refl system
  have unchanged : ∃ change, system.tasks = system.tasks.modify index change := by
    refine ⟨id, Array.ext (by simp) ?_⟩
    intro position _ _
    simp [Array.getElem_modify]
  have ending {before : System} (same : system.SameFeeds before)
      (tasks : before.tasks = system.tasks) (outcome : Outcome) :
      system.SameFeeds (before.finish index outcome) ∧
        ∃ change, (before.finish index outcome).tasks = system.tasks.modify index change :=
    ⟨same.finish index outcome, _, by rw [(finish_frame before index outcome).2.1, tasks]⟩
  simp only [turn, found]
  split
  · exact ⟨same, unchanged⟩
  · split
    · rw [dropTask_of_isIdle idle]
      exact ending same rfl _
    · cases task : state.task with
      | timer signal delay deadline =>
          simp only [runTimer]
          split
          · exact ending same rfl _
          · split
            · refine ending ⟨?_, ?_, ?_, ?_⟩ ?_ _ <;> simp
            · exact ⟨same.setTask index _, _, (setTask_frame system index _).2.1⟩
      | awaitCancellation context =>
          simp only
          split
          · exact ending same rfl _
          · exact ⟨same, unchanged⟩
      | awaitStaleness signal =>
          simp only
          split
          · exact ending same rfl _
          · exact ⟨same, unchanged⟩
      | acquisition context signal => simp [task, Task.isIdle] at idle
      | admission job context stage => simp [task, Task.isIdle] at idle
      | registration feed context watch => simp [task, Task.isIdle] at idle
      | listening watch => simp [task, Task.isIdle] at idle

/-! ### Jobs -/

/-- What the turn of a job does to the feeds, and how it may end. -/
inductive JobTurn (index : Nat) (job : Job) (context : Context) (system next : System) : Prop where
  /-- The feeds stay as they are. -/
  | quiet (watches : next.watches = system.watches) (feeds : next.feeds = system.feeds)
      (streams : next.streams = system.streams) (unmarked : next.outcome? index ≠ some .aborted)
      (unstarted : next.outcome? index = some (.handled (.ok ())) →
        system.verdictOn job context = .succeeds false)
  /-- The job is started in the cluster, and succeeds. -/
  | started {before : System} (watches : next.watches = system.watches)
      (feedsBefore : before.feeds = system.feeds) (streamsBefore : before.streams = system.streams)
      (uncancelled : before.cancellation = system.cancellation)
      (feeds : next.feeds =
        (before.applyResource clusterFeed (.running job.uuid job.uuid)).feeds)
      (streams : next.streams =
        (before.applyResource clusterFeed (.running job.uuid job.uuid)).streams)
      (outcome : next.outcome? index = some (.handled (.ok ())))
      (starts : system.verdictOn job context = .succeeds true)

theorem verdictOn_congr (rules : before.rules = system.rules)
    (cancellation : before.cancellation = system.cancellation) :
    before.verdictOn job context = system.verdictOn job context := by
  simp only [verdictOn, ruleFor, isCancelled, rules, cancellation]

theorem concludeJob_outcome? (found : before.tasks[index]? = some state) (job : Job)
    (result : Except HandlerError Unit) :
    (before.concludeJob index job result).outcome? index = some (.handled result) :=
  finish_outcome? (by simpa using found) _

theorem setTask_outcome? (found : before.tasks[index]? = some state) (task : Task) :
    (before.setTask index task).outcome? index = state.outcome := by
  simp [outcome?, Array.getElem?_modify, found]

/-- Without success nothing was started. -/
theorem JobTurn.of_outcome (watches : next.watches = system.watches)
    (feeds : next.feeds = system.feeds) (streams : next.streams = system.streams)
    {outcome : Option Outcome} (ended : next.outcome? index = outcome)
    (unmarked : outcome ≠ some .aborted) (unsuccessful : outcome ≠ some (.handled (.ok ()))) :
    JobTurn index job context system next := by
  rw [← ended] at unmarked unsuccessful
  exact .quiet watches feeds streams unmarked fun succeeds => absurd succeeds unsuccessful

theorem JobTurn.of_handleInside (tasks : before.tasks = system.tasks)
    (watches : before.watches = system.watches) (feeds : before.feeds = system.feeds)
    (streams : before.streams = system.streams) (rules : before.rules = system.rules)
    (cancellation : before.cancellation = system.cancellation)
    (found : system.tasks[index]? = some state) (unfinished : state.outcome = none)
    (holds : List Hold) :
    JobTurn index job context system (before.handleInside index job context holds) := by
  have foundBefore : before.tasks[index]? = some state := by rw [tasks, found]
  have verdict : (before.ruleFor job.uuid).verdict (before.isCancelled context) =
      system.verdictOn job context := verdictOn_congr rules cancellation
  simp only [handleInside, verdict]
  split
  · split
    · exact .of_outcome (by simp [watches]) (by simp [feeds]) (by simp [streams])
        (finish_outcome? foundBefore _) (by simp) (by simp)
    · exact .of_outcome (by simp [concludeJob, watches]) (by simp [concludeJob, feeds])
        (by simp [concludeJob, streams]) (concludeJob_outcome? foundBefore _ _) (by simp) (by simp)
    · rename_i starts succeeds
      cases starts with
      | false =>
          refine .quiet (by simp [concludeJob, watches]) (by simp [concludeJob, feeds])
            (by simp [concludeJob, streams]) ?_ fun _ => succeeds
          simp only [Bool.false_eq_true, if_false]
          rw [concludeJob_outcome? foundBefore]
          simp
      | true =>
          refine .started (by simp [concludeJob, watches]) feeds streams
            cancellation (by simp [concludeJob]) (by simp [concludeJob]) ?_ succeeds
          exact concludeJob_outcome? (by simpa using foundBefore) job (.ok ())
  · refine .of_outcome watches feeds streams (setTask_outcome? foundBefore _) ?_ ?_ <;>
      simp [unfinished]

theorem JobTurn.of_turn (found : system.tasks[index]? = some state)
    (task : state.task = .admission job context stage) (unfinished : state.outcome = none)
    (unmarked : state.isAborted = false) :
    JobTurn index job context system (system.turn index) := by
  have admitting (place since : Nat) :
      JobTurn index job context system (system.admitJob index job context place since) := by
    simp only [admitJob]
    split
    · refine .of_outcome (by simp) (by simp) (by simp)
        (setTask_outcome? (by simpa using found) _) ?_ ?_ <;> simp [unfinished]
    · exact .of_outcome (by simp) (by simp) (by simp) (finish_outcome? (by simpa using found) _)
        (by simp) (by simp)
    · exact .of_handleInside (by simp) (by simp) (by simp) (by simp) (by simp) (by simp) found
        unfinished _
  simp only [turn, found, unfinished, unmarked, task, Option.isSome_none, Bool.false_eq_true,
    if_false]
  cases stage with
  | arriving => exact admitting 0 system.now
  | waiting place since => exact admitting place since
  | inside holds => exact .of_handleInside rfl rfl rfl rfl rfl rfl found unfinished holds

/-- A job that can only succeed without starting anything goes on waiting, or does so. -/
theorem turn_of_inside (found : system.tasks[index]? = some state) {holds : List Hold}
    (task : state.task = .admission job context (.inside holds)) (unfinished : state.outcome = none)
    (unmarked : state.isAborted = false)
    (noPanic : ∀ text, (system.turn index).outcome? index ≠ some (.panicked text))
    (noFailure : ∀ error, (system.turn index).outcome? index ≠ some (.handled (.error error)))
    (noStart : (system.turn index).outcome? index = some (.handled (.ok ())) →
      system.verdictOn job context = .succeeds false) :
    system.SameFeeds (system.turn index) ∧
      ∃ change, (system.turn index).tasks = system.tasks.modify index change ∧
        ∃ left, (change state).task = .admission job context (.inside left) := by
  have step : system.turn index = system.handleInside index job context holds := by
    simp [turn, found, unfinished, unmarked, task]
  rw [step] at noPanic noFailure noStart ⊢
  simp only [handleInside] at noPanic noFailure noStart ⊢
  split at noPanic
  · rename_i passed
    simp only [passed, if_true] at noPanic noFailure noStart ⊢
    split at noPanic
    · exact absurd (finish_outcome? found _) (noPanic _)
    · rename_i error verdict
      rw [verdict] at noFailure
      exact absurd (concludeJob_outcome? found job (.error error)) (noFailure error)
    · rename_i starts verdict
      rw [verdict] at noStart
      have ends : ((if starts = true then
          system.applyResource clusterFeed (.running job.uuid job.uuid) else system).concludeJob
            index job (.ok ())).outcome? index = some (.handled (.ok ())) :=
        concludeJob_outcome? (by split <;> simpa using found) job (.ok ())
      have unstarted := (Verdict.succeeds.inj (verdict.symm.trans (noStart ends)))
      subst unstarted
      refine ⟨⟨?_, ?_, ?_, ?_⟩,
        fun state => { state with outcome := some (.handled (.ok ())) }, ?_, holds, task⟩
      · simp [concludeJob, Chain.conclude_ok]
      · simp [concludeJob]
      · simp [concludeJob]
      · simp [concludeJob]
      · simp [concludeJob]
  · rename_i blocked
    simp only [blocked]
    exact ⟨(SameFeeds.refl system).setTask index _, _, (setTask_frame system index _).2.1, _, rfl⟩

end Turns

end System

end Admission
