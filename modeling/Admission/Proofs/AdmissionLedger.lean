import Admission.Proofs.Limiters
import Admission.Proofs.Proceeding

/-!
# The ledger of a chain of limiters

In the runs of this file the pools of a chain are used by jobs and by direct calls that claim a
token, and nothing is given back from outside. A job is with the handler behind a limiter from the
turn in which it claims a token of the limiter until it ends, whether it waits for a later limiter
in the meantime or is with the last handler. It keeps the token if it succeeds, and also if it is
dropped or brought down by a fault while it is there.

`JobStep` says of a turn of one job that every limiter has as many tokens more or less in use as
the job accounts for. The claimed tokens of each limiter follow by adding up all jobs.
-/

namespace Admission

/-- Whether a job that has come so far is with the handler behind the limiter at a place. -/
def Stage.isBeyond (place : Nat) : Stage → Bool
  | arriving => false
  | waiting reached _ => place < reached
  | inside _ => true

/-- Whether a task handles a job. -/
def Task.isAdmission : Task → Bool
  | .admission _ _ _ => true
  | _ => false

/-- Whether an outcome is not that of a job that came to its end. -/
def Outcome.endsNoJob : Outcome → Bool
  | handled _ | panicked _ => false
  | _ => true

/-- Whether a task handles a job, or uses no pool. -/
def Task.keepsToAdmission : Task → Bool
  | .admission _ _ _ | .timer _ _ _ | .awaitCancellation _ | .awaitStaleness _ => true
  | _ => false

/-- Whether a move gives back no token from outside, and starts no task but jobs and those that use
no pool. -/
def Move.keepsToAdmission : Move → Bool
  | .start (.admission _ _ .arriving) => true
  | .start (.admission _ _ _) => false
  | .start task => task.keepsToAdmission
  | .tryRelease _ | .reconcile _ => false
  | _ => true

namespace TaskState

/-- Whether the task is a job that is with the handler behind the limiter at a place. -/
def isWithNext (place : Nat) (state : TaskState) : Bool :=
  match state.task, state.outcome with
  | .admission _ _ stage, none => stage.isBeyond place
  | _, _ => false

/-- Whether the task is a job that was handled with success. -/
def hasSucceeded (state : TaskState) : Bool :=
  match state.outcome with
  | some (.handled (.ok _)) => true
  | _ => false

/-- Whether the task is a job that was dropped, or brought down by a fault, while it was with the
handler behind the limiter at a place. -/
def hasBrokenOff (place : Nat) (state : TaskState) : Bool :=
  match state.task, state.outcome with
  | .admission _ _ stage, some .aborted => stage.isBeyond place
  | _, some (.panicked _) => true
  | _, _ => false

/-- How many tokens of the limiter at a place the task accounts for. -/
def tokens (place : Nat) (state : TaskState) : Nat :=
  (state.isWithNext place).toNat + state.hasSucceeded.toNat + (state.hasBrokenOff place).toNat

section Tokens

variable {state : TaskState} {job : Job} {context : Context} {stage : Stage}

theorem tokens_of_unfinished (task : state.task = .admission job context stage)
    (unfinished : state.outcome = none) (place : Nat) :
    state.tokens place = (stage.isBeyond place).toNat := by
  simp [tokens, isWithNext, hasSucceeded, hasBrokenOff, task, unfinished]

theorem tokens_of_stage (unfinished : state.outcome = none) (job : Job) (context : Context)
    (stage : Stage) (place : Nat) :
    tokens place { state with task := .admission job context stage } =
      (stage.isBeyond place).toNat := by
  simp [tokens, isWithNext, hasSucceeded, hasBrokenOff, unfinished]

theorem tokens_of_succeeded (ended : state.outcome = some (.handled (.ok ()))) (place : Nat) :
    state.tokens place = 1 := by
  rcases state with ⟨task, isAborted, outcome⟩
  simp only at ended
  subst ended
  cases task <;> rfl

theorem tokens_failed (state : TaskState) (error : HandlerError) (place : Nat) :
    tokens place { state with outcome := some (.handled (.error error)) } = 0 := by
  cases state.task <;> simp [tokens, isWithNext, hasSucceeded, hasBrokenOff]

theorem tokens_panicked (state : TaskState) (text : String) (place : Nat) :
    tokens place { state with outcome := some (.panicked text) } = 1 := by
  cases state.task <;> simp [tokens, isWithNext, hasSucceeded, hasBrokenOff]

theorem tokens_of_noJob {state : TaskState} (noJob : state.task.isAdmission = false)
    (unended : ∀ outcome ∈ state.outcome, outcome.endsNoJob = true) (place : Nat) :
    state.tokens place = 0 := by
  rcases state with ⟨task, isAborted, outcome⟩
  simp only at noJob unended
  cases outcome with
  | none =>
      cases task <;> simp_all [tokens, isWithNext, hasSucceeded, hasBrokenOff, Task.isAdmission]
  | some outcome =>
      have quiet := unended outcome rfl
      cases outcome <;> cases task <;>
        simp_all [tokens, isWithNext, hasSucceeded, hasBrokenOff, Task.isAdmission,
          Outcome.endsNoJob]

/-- A task that is dropped accounts for the tokens that it had. -/
theorem tokens_dropped {state : TaskState} (keeps : state.task.keepsToAdmission = true)
    (unfinished : state.outcome = none) (place : Nat) :
    tokens place { state with outcome := some .aborted } = state.tokens place := by
  rcases state with ⟨task, isAborted, outcome⟩
  simp only at keeps unfinished
  subst unfinished
  cases task with
  | admission job context stage => simp [tokens, isWithNext, hasSucceeded, hasBrokenOff]
  | acquisition context signal => cases keeps
  | registration feed context watch => cases keeps
  | listening watch => cases keeps
  | _ => rfl

end Tokens

end TaskState

namespace System

/-- How many jobs are with the handler behind the limiter at a place. -/
def withNext (place : Nat) (system : System) : Nat :=
  system.tasks.countP (TaskState.isWithNext place)

/-- How many jobs were handled with success. -/
def succeeded (system : System) : Nat :=
  system.tasks.countP TaskState.hasSucceeded

/-- How many jobs broke off while they were with the handler behind the limiter at a place. -/
def brokenOff (place : Nat) (system : System) : Nat :=
  system.tasks.countP (TaskState.hasBrokenOff place)

/-- How many tokens of the limiter at a place all jobs account for. -/
def tokens (place : Nat) (system : System) : Nat :=
  system.withNext place + system.succeeded + system.brokenOff place

section Tokens

variable {system next : System} {index : Nat} {state : TaskState}

theorem tokens_le (found : system.tasks[index]? = some state) (place : Nat) :
    state.tokens place ≤ system.tokens place := by
  have within := toNat_le_countP (TaskState.isWithNext place) found
  have succeeded := toNat_le_countP TaskState.hasSucceeded found
  have broken := toNat_le_countP (TaskState.hasBrokenOff place) found
  simp only [TaskState.tokens, tokens, withNext, System.succeeded, brokenOff]
  omega

theorem tokens_of_modify (found : system.tasks[index]? = some state)
    {change : TaskState → TaskState} (tasks : next.tasks = system.tasks.modify index change)
    (place : Nat) :
    next.tokens place + state.tokens place =
      system.tokens place + (change state).tokens place := by
  have within := countP_modify (TaskState.isWithNext place) found change
  have succeeded := countP_modify TaskState.hasSucceeded found change
  have broken := countP_modify (TaskState.hasBrokenOff place) found change
  simp only [TaskState.tokens, tokens, withNext, System.succeeded, brokenOff, tasks]
  omega

end Tokens

/-- Every token that a limiter took back between two states was accepted by its pool. -/
def AllReturned (system next : System) : Prop :=
  ∃ since, next.takenBack = system.takenBack ++ since ∧ ∀ record ∈ since, record.SaysReturned

theorem AllReturned.of_eq {system next : System} (unchanged : next.takenBack = system.takenBack) :
    system.AllReturned next :=
  ⟨[], by rw [unchanged, List.append_nil], by simp⟩

theorem AllReturned.trans {system next last : System} (before : system.AllReturned next)
    (after : next.AllReturned last) : system.AllReturned last := by
  rcases before with ⟨earlier, first, allEarlier⟩
  rcases after with ⟨later, second, allLater⟩
  refine ⟨earlier ++ later, by rw [second, first, List.append_assoc], ?_⟩
  intro record member
  rcases List.mem_append.mp member with inner | inner
  · exact allEarlier record inner
  · exact allLater record inner

/-- A job that held tokens at some places has a turn: at each place as many tokens more or less are
in use as the job accounts for afterwards. -/
structure JobStep (index : Nat) (state : TaskState) (held : Nat → Nat) (system next : System) :
    Prop where
  tasks : ∃ change, next.tasks = system.tasks.modify index change ∧
    ∀ place, place < system.limiters.length →
      (next.pool place).inUse + held place =
        (system.pool place).inUse + (change state).tokens place
  returned : system.AllReturned next

namespace JobStep

variable {system next : System} {index : Nat} {state : TaskState} {job : Job} {context : Context}
  {stage : Stage} {held : Nat → Nat}

theorem of_finish {before : System} (tasks : before.tasks = system.tasks)
    (returned : system.AllReturned before) (outcome : Outcome)
    (balanced : ∀ place, place < system.limiters.length →
      (before.pool place).inUse + held place = (system.pool place).inUse +
        TaskState.tokens place { state with outcome := some outcome }) :
    JobStep index state held system (before.finish index outcome) where
  tasks := by
    refine ⟨_, by rw [(finish_frame before index outcome).2.1, tasks], ?_⟩
    intro place inside
    rw [finish_pool]
    exact balanced place inside
  returned := returned.trans (.of_eq (by simp))

theorem of_setTask {before : System} (tasks : before.tasks = system.tasks)
    (returned : system.AllReturned before) (task : Task)
    (balanced : ∀ place, place < system.limiters.length →
      (before.pool place).inUse + held place = (system.pool place).inUse +
        TaskState.tokens place { state with task }) :
    JobStep index state held system (before.setTask index task) where
  tasks := by
    refine ⟨_, by rw [(setTask_frame before index task).2.1, tasks], ?_⟩
    intro place inside
    rw [setTask_pool]
    exact balanced place inside
  returned := returned.trans (.of_eq (by simp))

theorem of_concludeJob {before : System} (tasks : before.tasks = system.tasks)
    (limiters : before.limiters = system.limiters) (returned : system.AllReturned before)
    (claimed : ∀ limiter ∈ system.limiters, 0 < limiter.pool.inUse)
    (result : Except HandlerError Unit) :
    JobStep index state (fun _ => 1) system (before.concludeJob index job result) := by
  cases result with
  | ok done =>
      cases done
      refine of_finish (by simp [tasks]) (returned.trans (.of_eq ?_)) _ ?_
      · simp [Chain.conclude_ok]
      · intro place _
        rw [noteAll_pool, TaskState.tokens_of_succeeded (by rfl)]
        simp only [Chain.conclude_ok, pool, limiters]
  | error error =>
      simp only [concludeJob]
      refine of_finish (by simp [tasks]) (returned.trans ⟨_, noteAll_takenBack
        { before with limiters := (Chain.conclude 0 job.uuid (.error error) before.limiters).1 }
        _, ?_⟩) _ ?_
      · rw [limiters]
        exact Chain.conclude_returned claimed
      · intro place inside
        have found : system.limiters[place]? = some system.limiters[place] :=
          List.getElem?_eq_getElem inside
        have positive := claimed system.limiters[place] (List.getElem_mem inside)
        rw [noteAll_pool, TaskState.tokens_failed]
        simp only [pool, limiters, Chain.conclude_error, List.getElem?_map, found,
          Option.map_some, Option.getD_some, Pool.tryRelease_frame]
        omega

/-- The last handler is reached by a job that holds a token of every limiter. -/
theorem of_handleInside (unfinished : state.outcome = none)
    (claimed : ∀ limiter ∈ system.limiters, 0 < limiter.pool.inUse) (holds : List Hold) :
    JobStep index state (fun _ => 1) system (system.handleInside index job context holds) := by
  simp only [handleInside]
  split
  · split
    · apply of_finish rfl (.of_eq rfl) _
      intro place _
      rw [TaskState.tokens_panicked]
    · exact of_concludeJob rfl rfl (.of_eq rfl) claimed _
    · refine of_concludeJob ?_ ?_ (.of_eq ?_) claimed _ <;> split <;> simp
  · apply of_setTask rfl (.of_eq rfl) _
    intro place _
    rw [TaskState.tokens_of_stage unfinished]
    rfl

/-- A turn may begin with changes that leave the tasks alone. -/
theorem after {middle : System} {between : Nat → Nat} (tasks : middle.tasks = system.tasks)
    (length : middle.limiters.length = system.limiters.length)
    (returned : system.AllReturned middle)
    (balanced : ∀ place, place < system.limiters.length →
      (middle.pool place).inUse + held place = (system.pool place).inUse + between place)
    (step : JobStep index state between middle next) : JobStep index state held system next where
  tasks := by
    rcases step.tasks with ⟨change, changed, counted⟩
    refine ⟨change, by rw [changed, tasks], ?_⟩
    intro place inside
    have first := balanced place inside
    have second := counted place (by rw [length]; exact inside)
    omega
  returned := returned.trans step.returned

/-- At each place a job that moves on has as many tokens more or less as the place it comes to
says. -/
theorem advance_balanced {passed : Nat} (holds : Chain.HoldsTokens passed system.limiters)
    (visit : Visit) {place : Nat} (inside : place < system.limiters.length) :
    (({ system with limiters := (Chain.advance 0 passed visit system.limiters).1 } :
        System).pool place).inUse + (decide (place < passed)).toNat =
      (system.pool place).inUse +
        ((Chain.advance 0 passed visit system.limiters).2.1.isBeyond place).toNat := by
  have found : system.limiters[place]? = some system.limiters[place] :=
    List.getElem?_eq_getElem inside
  rcases (Chain.advance_reaches 0 passed visit system.limiters).getElem? found with
    ⟨after, foundAfter, -⟩
  have counted := Chain.advance_inUse holds found foundAfter
  rw [Nat.zero_add] at counted
  rw [pool_of_getElem? found, pool_of_getElem? foundAfter]
  exact counted

/-- A job that comes to the last handler holds a token of every limiter. -/
theorem claimed_of_through {passed : Nat} (holds : Chain.HoldsTokens passed system.limiters)
    {visit : Visit} (through : (Chain.advance 0 passed visit system.limiters).2.1 = .through) :
    ∀ limiter ∈ (Chain.advance 0 passed visit system.limiters).1, 0 < limiter.pool.inUse := by
  intro limiter member
  rcases List.getElem?_of_mem member with ⟨place, found⟩
  have inside : place < system.limiters.length := by
    rw [(Chain.advance_reaches 0 passed visit system.limiters).length_eq]
    exact (List.getElem?_eq_some_iff.mp found).1
  have counted := advance_balanced holds visit inside
  rw [through] at counted
  simp only [pool, found, List.getElem?_eq_getElem inside, Option.map_some, Option.getD_some,
    Passage.isBeyond_through, Bool.toNat_true] at counted
  by_cases earlier : place < passed
  · have positive := holds place _ earlier (List.getElem?_eq_getElem inside)
    simp only [earlier, decide_true, Bool.toNat_true] at counted
    omega
  · simp only [earlier, decide_false, Bool.toNat_false] at counted
    omega

/-- A job that has passed some limiters, and holds a token of each, moves on. -/
theorem of_admitJob (unfinished : state.outcome = none) {passed : Nat}
    (holds : Chain.HoldsTokens passed system.limiters) (since : Nat) :
    JobStep index state (fun place => (decide (place < passed)).toNat) system
      (system.admitJob index job context passed since) := by
  simp only [admitJob]
  generalize visiting : Visit.mk index job.uuid (system.cancellation.cause context)
    (system.isFired job.signal) (.ofMilliseconds (system.now - since)) = visit
  have reaches := Chain.advance_reaches 0 passed visit system.limiters
  have returned : system.AllReturned
      (({ system with limiters := (Chain.advance 0 passed visit system.limiters).1 } :
        System).noteAll (Chain.advance 0 passed visit system.limiters).2.2) :=
    ⟨_, noteAll_takenBack _ _, Chain.advance_returned holds⟩
  split
  · rename_i reached passage
    apply of_setTask (by simp) returned _
    intro place inside
    have balanced := advance_balanced holds visit inside
    rw [passage] at balanced
    rw [noteAll_pool, TaskState.tokens_of_stage unfinished]
    exact balanced
  · rename_i error passage
    apply of_finish (by simp) returned _
    intro place inside
    have balanced := advance_balanced holds visit inside
    rw [passage] at balanced
    rw [noteAll_pool, TaskState.tokens_failed]
    exact balanced
  · rename_i passage
    refine after (by simp) ?_ (returned.trans (.of_eq (by simp))) ?_
      (of_handleInside unfinished ?_ _)
    · simpa using reaches.length_eq.symm
    · intro place inside
      have balanced := advance_balanced holds visit inside
      rw [passage] at balanced
      rw [note_pool, noteAll_pool]
      exact balanced
    · simp only [note_frame, noteAll_frame]
      exact claimed_of_through holds passage

/-- The end of a task that handles no job. -/
theorem of_noJob (noJob : state.task.isAdmission = false) (unfinished : state.outcome = none)
    {before : System} (tasks : before.tasks = system.tasks)
    (limiters : before.limiters = system.limiters) (unchanged : before.takenBack = system.takenBack)
    {outcome : Outcome} (quiet : outcome.endsNoJob = true) :
    JobStep index state state.tokens system (before.finish index outcome) := by
  apply of_finish tasks (.of_eq unchanged) outcome
  intro place _
  have held : state.tokens place = 0 :=
    TaskState.tokens_of_noJob noJob (by simp [unfinished]) place
  have kept : TaskState.tokens place { state with outcome := some outcome } = 0 := by
    refine TaskState.tokens_of_noJob ?_ ?_ place
    · exact noJob
    · simpa using quiet
  rw [held, kept, pool_congr limiters]

theorem of_dropTask (keeps : state.task.keepsToAdmission = true)
    (unfinished : state.outcome = none) :
    JobStep index state state.tokens system (system.dropTask index state.task) := by
  refine ⟨⟨_, (dropTask_frame system index state.task).1, ?_⟩, .of_eq (by simp)⟩
  intro place _
  rw [dropTask_inUse, TaskState.tokens_dropped keeps unfinished]

theorem of_runTimer (noJob : state.task.isAdmission = false) (unfinished : state.outcome = none)
    (signal delay : Nat) (deadline : Option Nat) :
    JobStep index state state.tokens system (system.runTimer index signal delay deadline) := by
  simp only [runTimer]
  split
  · exact of_noJob noJob unfinished rfl rfl rfl rfl
  · split
    · exact of_noJob noJob unfinished (by simp) (by simp) (by simp) rfl
    · apply of_setTask rfl (.of_eq rfl) _
      intro place _
      have held : state.tokens place = 0 :=
        TaskState.tokens_of_noJob noJob (by simp [unfinished]) place
      rw [held, TaskState.tokens_of_noJob rfl (by simp [unfinished])]

theorem of_turn (keeps : state.task.keepsToAdmission = true)
    (found : system.tasks[index]? = some state) (unfinished : state.outcome = none)
    (claimed : ∀ place, place < system.limiters.length →
      state.tokens place ≤ (system.pool place).inUse) :
    system.turn index = system ∨
      JobStep index state state.tokens system (system.turn index) := by
  by_cases marked : state.isAborted = true
  · rw [turn_of_isAborted found unfinished marked]
    exact Or.inr (of_dropTask keeps unfinished)
  · simp only [turn, found, unfinished, marked, Option.isSome_none, Bool.false_eq_true, if_false]
    cases task : state.task with
    | admission job context stage =>
        have held (place : Nat) : state.tokens place = (stage.isBeyond place).toNat :=
          TaskState.tokens_of_unfinished task unfinished place
        simp only [held] at claimed ⊢
        right
        cases stage with
        | arriving =>
            have step : JobStep index state (fun place => (decide (place < 0)).toNat) system
                (system.admitJob index job context 0 system.now) :=
              of_admitJob unfinished (Chain.holdsTokens_zero system.limiters) system.now
            simpa [Stage.isBeyond] using step
        | waiting reached since =>
            apply of_admitJob unfinished
            intro place limiter earlier foundLimiter
            have positive := claimed place (List.getElem?_eq_some_iff.mp foundLimiter).1
            rw [pool_of_getElem? foundLimiter] at positive
            simp only [Stage.isBeyond, earlier, decide_true, Bool.toNat_true] at positive
            omega
        | inside holds =>
            apply of_handleInside unfinished
            intro limiter member
            rcases List.getElem?_of_mem member with ⟨place, foundLimiter⟩
            have positive := claimed place (List.getElem?_eq_some_iff.mp foundLimiter).1
            rw [pool_of_getElem? foundLimiter] at positive
            simp only [Stage.isBeyond, Bool.toNat_true] at positive
            omega
    | timer signal delay deadline =>
        right
        exact of_runTimer (by rw [task]; rfl) unfinished signal delay deadline
    | awaitCancellation context =>
        simp only
        split
        · exact Or.inr (of_noJob (by rw [task]; rfl) unfinished rfl rfl rfl rfl)
        · exact Or.inl rfl
    | awaitStaleness signal =>
        simp only
        split
        · exact Or.inr (of_noJob (by rw [task]; rfl) unfinished rfl rfl rfl rfl)
        · exact Or.inl rfl
    | acquisition context signal => simp [Task.keepsToAdmission, task] at keeps
    | registration feed context watch => simp [Task.keepsToAdmission, task] at keeps
    | listening watch => simp [Task.keepsToAdmission, task] at keeps

end JobStep

/-! ### Runs -/

/-- Every claimed token of a limiter was claimed by a direct call, or is accounted for by a job. -/
structure KeptToAdmission (outside : Nat → Nat) (system : System) : Prop where
  keeps : system.AllTasks Task.keepsToAdmission
  accounted : ∀ place, place < system.limiters.length →
    (system.pool place).inUse = outside place + system.tokens place

/-- A move that calls no pool directly changes the claimed tokens as the jobs account for them. -/
structure AdmissionStep (system next : System) : Prop where
  balanced : ∀ place, place < system.limiters.length →
    (next.pool place).inUse + system.tokens place = (system.pool place).inUse + next.tokens place
  returned : system.AllReturned next

section Steps

variable {system next : System} {outside : Nat → Nat}

theorem AdmissionStep.of_eq (limiters : next.limiters = system.limiters)
    (tasks : next.tasks = system.tasks) (unchanged : next.takenBack = system.takenBack) :
    AdmissionStep system next where
  balanced := by
    intro place _
    rw [pool_congr limiters]
    simp only [tokens, withNext, System.succeeded, brokenOff, tasks]
  returned := .of_eq unchanged

theorem AdmissionStep.of_jobStep {index : Nat} {state : TaskState}
    (found : system.tasks[index]? = some state)
    (step : JobStep index state state.tokens system next) : AdmissionStep system next where
  balanced := by
    intro place inside
    rcases step.tasks with ⟨change, changed, counted⟩
    have first := counted place inside
    have second := tokens_of_modify found changed place
    omega
  returned := step.returned

theorem KeptToAdmission.tokens_le_inUse (kept : system.KeptToAdmission outside) {index : Nat}
    {state : TaskState} (found : system.tasks[index]? = some state) (place : Nat)
    (inside : place < system.limiters.length) : state.tokens place ≤ (system.pool place).inUse := by
  have accounted := kept.accounted place inside
  have counted := tokens_le found place
  omega

theorem AdmissionStep.of_same {next : System} (same : next = system) :
    AdmissionStep system next := by
  rw [same]
  exact .of_eq rfl rfl rfl

theorem AdmissionStep.of_turn (kept : system.KeptToAdmission outside) (index : Nat) :
    AdmissionStep system (system.turn index) := by
  rcases turn_cases system index with same | ⟨state, found, unfinished⟩
  · exact .of_same same
  · rcases JobStep.of_turn (kept.keeps index state found) found unfinished
      (kept.tokens_le_inUse found) with same | step
    · exact .of_same same
    · exact .of_jobStep found step

theorem AdmissionStep.of_dropNow (kept : system.KeptToAdmission outside) (index : Nat) :
    AdmissionStep system (system.dropNow index) := by
  rcases dropNow_cases system index with same | ⟨state, found, unfinished, dropped⟩
  · exact .of_same same
  · rw [dropped]
    exact .of_jobStep found (JobStep.of_dropTask (kept.keeps index state found) unfinished)

theorem AdmissionStep.of_abort (system : System) (index : Nat) :
    AdmissionStep system (system.abort index) := by
  rcases abort_cases system index with same | ⟨state, found, -, marked⟩
  · exact .of_same same
  · refine .of_jobStep found ⟨⟨_, marked, ?_⟩, .of_eq (by simp)⟩
    intro place _
    rw [abort_pool]
    rfl

/-- A task that is started accounts for no token yet. -/
theorem AdmissionStep.of_spawn (system : System) {task : Task}
    (permitted : (Move.start task).keepsToAdmission = true) :
    AdmissionStep system (system.spawn task).1 where
  balanced := by
    intro place _
    have fresh : TaskState.tokens place { task } = 0 := by
      cases task with
      | admission job context stage =>
          cases stage with
          | arriving => rfl
          | waiting reached since => cases permitted
          | inside holds => cases permitted
      | _ => rfl
    have counted : (system.spawn task).1.tokens place = system.tokens place := by
      simp only [TaskState.tokens] at fresh
      simp only [tokens, withNext, System.succeeded, brokenOff, spawn_frame, Array.countP_push]
      simp only [Nat.add_eq_zero_iff, Bool.toNat_eq_zero] at fresh
      simp [fresh]
    rw [spawn_pool, counted]
  returned := .of_eq (by simp)

/-- Every permitted move is a direct call that claims a token or changes the claimed tokens as the
jobs account for them. -/
theorem AdmissionStep.of_move (kept : system.KeptToAdmission outside) {move : Move}
    (permitted : move.keepsToAdmission = true) :
    AdmissionStep system (system.perform move) ∨ ∃ place, move = .tryAcquire place := by
  cases move with
  | turn index => exact Or.inl (.of_turn kept index)
  | drop index => exact Or.inl (.of_dropNow kept index)
  | abort index => exact Or.inl (.of_abort system index)
  | start task => exact Or.inl (.of_spawn system permitted)
  | tryAcquire place => exact Or.inr ⟨place, rfl⟩
  | tryRelease place => cases permitted
  | reconcile change => cases permitted
  | elsewhere happening =>
      exact Or.inl (.of_eq (undergo_frame system happening).1 (undergo_frame system happening).2.1
        (undergo_frame system happening).2.2.2)

theorem takes_of_step {move : Move} (noCall : ∀ place, move ≠ .tryAcquire place) (place : Nat) :
    system.takes place move = false := by
  cases move with
  | tryAcquire called => exact absurd rfl (noCall called)
  | _ => rfl

/-- A direct call claims one token at its place, if one is available. -/
theorem tryAcquire_accounted (kept : system.KeptToAdmission outside) (called place : Nat)
    (inside : place < system.limiters.length) :
    ((system.perform (.tryAcquire called)).pool place).inUse =
      outside place + (system.takes place (.tryAcquire called)).toNat + system.tokens place := by
  have accounted := kept.accounted place inside
  by_cases same : place = called
  · subst same
    simp only [perform, tryAcquire, takes, pool_setPool inside, if_true, Pool.tryAcquire_inUse,
      BEq.rfl, Bool.true_and]
    omega
  · have apart : (called == place) = false := by simpa using Ne.symm same
    simp only [perform, tryAcquire, takes, pool_setPool_of_ne same, apart, Bool.false_and,
      Bool.toNat_false]
    omega

theorem perform_keptToAdmission {move : Move} (permitted : move.keepsToAdmission = true)
    (kept : system.KeptToAdmission outside) :
    (system.perform move).KeptToAdmission
      (fun place => outside place + (system.takes place move).toNat) where
  keeps := by
    refine perform_allTasks ?_ ?_ ?_ kept.keeps
    · intro task later advances
      cases advances <;> rfl
    · intro task keeps
      cases task <;> first | rfl | cases keeps
    · rintro task rfl
      cases task with
      | admission job context stage => rfl
      | _ => exact permitted
  accounted := by
    intro place inside
    rw [(perform_reaches system move).length] at inside
    by_cases called : ∃ place, move = .tryAcquire place
    · rcases called with ⟨called, rfl⟩
      rw [tryAcquire_accounted kept called place inside]
      rfl
    · rcases AdmissionStep.of_move kept permitted with step | call
      · have unclaimed : system.takes place move = false := by
          refine takes_of_step ?_ place
          intro other same
          exact called ⟨other, same⟩
        have counted := step.balanced place inside
        have accounted := kept.accounted place inside
        rw [unclaimed, Bool.toNat_false]
        omega
      · exact absurd call called

theorem perform_allReturned {move : Move} (permitted : move.keepsToAdmission = true)
    (kept : system.KeptToAdmission outside) : system.AllReturned (system.perform move) := by
  rcases AdmissionStep.of_move kept permitted with step | ⟨place, rfl⟩
  · exact step.returned
  · exact .of_eq (by simp [perform, tryAcquire])

theorem run_keptToAdmission {moves : List Move}
    (permitted : ∀ move ∈ moves, move.keepsToAdmission = true)
    (kept : system.KeptToAdmission outside) :
    (system.run moves).KeptToAdmission
        (fun place => outside place + system.tally (takes place) moves) ∧
      system.AllReturned (system.run moves) := by
  induction moves generalizing system outside with
  | nil => exact ⟨by simpa [tally] using kept, .of_eq rfl⟩
  | cons move rest ih =>
      have allowed := permitted move (by simp)
      rcases ih (fun other member => permitted other (by simp [member]))
        (perform_keptToAdmission allowed kept) with ⟨later, returned⟩
      refine ⟨?_, (perform_allReturned allowed kept).trans returned⟩
      simpa [tally, Nat.add_assoc] using later

end Steps

/-- What the claimed tokens of the limiter at a place stand for after a run. -/
structure AdmissionBound (place : Nat) (system : System) (moves : List Move) : Prop where
  /-- Every claimed token was claimed by a direct call, or by a job that is with the next handler,
  was handled with success, or broke off while it was with the next handler. -/
  exact : ((system.run moves).pool place).inUse =
    system.tally (takes place) moves + (system.run moves).withNext place +
      (system.run moves).succeeded + (system.run moves).brokenOff place
  /-- There are never more jobs past the limiter than it has tokens. -/
  bounded : system.tally (takes place) moves + (system.run moves).withNext place +
    (system.run moves).succeeded + (system.run moves).brokenOff place ≤
      (system.pool place).capacity
  /-- Every token that is taken back after a failure was claimed. -/
  returned : system.AllReturned (system.run moves)

/-- Limiters whose tokens are given back by nobody else admit as many jobs as they have tokens, and
take back the token of every job that a later handler failed. -/
theorem admissionBound_of_keptToAdmission (system : System) (moves : List Move) (place : Nat)
    (inside : place < system.limiters.length)
    (created : ∀ limiter ∈ system.limiters,
      Pool.create limiter.pool.capacity = .ok limiter.pool)
    (idle : system.tasks = #[]) (permitted : ∀ move ∈ moves, move.keepsToAdmission = true) :
    AdmissionBound place system moves := by
  have unused (place : Nat) (inside : place < system.limiters.length) :
      system.pool place = .full (system.pool place).capacity := by
    have full := Pool.eq_full_of_create
      (created system.limiters[place] (List.getElem_mem inside))
    simpa [pool, inside] using full
  have initially : system.KeptToAdmission (fun _ => 0) := by
    refine ⟨?_, ?_⟩
    · intro index state found
      simp [idle] at found
    · intro place inside
      rw [unused place inside]
      simp [tokens, withNext, System.succeeded, brokenOff, idle, Pool.full]
  rcases run_keptToAdmission permitted initially with ⟨kept, returned⟩
  have reaches := run_reaches system moves
  have accounted := kept.accounted place (by rw [reaches.length]; exact inside)
  have sound : ((system.run moves).pool place).Sound := by
    apply (reaches.pool inside).sound
    rw [unused place inside]
    exact Pool.full_sound _
  have conserved := sound.conserved
  rw [(reaches.pool inside).capacity] at conserved
  simp only [tokens, Nat.zero_add] at accounted
  refine ⟨by omega, by omega, returned⟩

/-- Three jobs and a direct call share three tokens: one job fails, one is dropped while it is with
the last handler, and one succeeds. -/
def mixed : List Move :=
  [.elsewhere (.instruct
      [("failing", { holds := [.gate "door"], fails := some (.fail "refused") }),
        ("stuck", { holds := [.gate "never"] })]),
    .elsewhere .createContext, .elsewhere (.createSignal false), .tryAcquire 0,
    .start (.admission { uuid := "failing", signal := 0 } ⟨⟨0, 0⟩, []⟩ .arriving),
    .start (.admission { uuid := "stuck", signal := 0 } ⟨⟨0, 0⟩, []⟩ .arriving),
    .start (.admission { uuid := "next", signal := 0 } ⟨⟨0, 0⟩, []⟩ .arriving),
    .turn 0, .turn 1, .turn 2, .elsewhere (.openGate "door"), .drop 1, .turn 0, .turn 2]

theorem admissionBound_mixed :
    AdmissionBound 0 (single (.full 3)) mixed ∧
      ((single (.full 3)).run mixed).pool 0 =
        { capacity := 3, available := 0, inUse := 3, queue := [], handed := [] } ∧
      ((single (.full 3)).run mixed).succeeded = 1 ∧
      ((single (.full 3)).run mixed).brokenOff 0 = 1 ∧
      ((single (.full 3)).run mixed).takenBack.length = 1 := by
  refine ⟨?_, by decide, rfl, rfl, rfl⟩
  refine admissionBound_of_keptToAdmission (single (.full 3)) mixed 0 (by decide) ?_ rfl (by decide)
  intro limiter member
  rw [List.mem_singleton.mp member]
  rfl

end System

end Admission
