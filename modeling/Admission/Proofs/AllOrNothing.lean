import Admission.Proofs.Balance
import Mathlib.Algebra.Ring.Int.Defs

/-!
# All or nothing

What a job accounts for is measured at the pools: by how much its own moves have changed how many
tokens are claimed there. A job that is on its way accounts for one token of each limiter that it has
passed, and for none further on. In the end it accounts for one token of every limiter, if it
succeeded, or for none at all, if it failed. A job that fails is stopped at one level, by an error that
is raised there, and every limiter that it had passed tells its return, the innermost one first.
-/

namespace Admission

/-- Whether a move is a task's own. -/
def Move.isOf (index : Nat) : Move → Bool
  | .turn other => other == index
  | .drop other => other == index
  | _ => false

theorem Move.startsArriving_of_keepsToAdmission {move : Move}
    (permitted : move.keepsToAdmission = true) : move.startsArriving = true := by
  cases move with
  | start task =>
      cases task with
      | admission job context stage =>
          cases stage with
          | arriving => rfl
          | _ => cases permitted
      | _ => rfl
  | _ => rfl

/-- The place at which the return of a job's token is told, if it is. -/
def Sign.returnOf (uuid : String) : Sign → Option Nat
  | .told place event =>
      if event.kind = .tokenReturned ∧ event.job = some uuid then some place else none
  | _ => none

/-- The error that stops a job at a level of a chain, and the signs that this level gives of it. -/
inductive Raised (decided : System) (job : Job) (context : Context) (length : Nat) :
    Nat → HandlerError → List Sign → Prop where
  | canceled {level : Nat} {cause : String} (inside : level < length)
      (cancelled : decided.cancellation.cause context = some cause) :
      Raised decided job context length level (.canceled cause)
        [.told level { kind := .waitCanceled, job := some job.uuid, reason := some cause }]
  | stale {level : Nat} (inside : level < length)
      (live : decided.cancellation.cause context = none)
      (fired : decided.isFired job.signal = true) :
      Raised decided job context length level .staleJob
        [.told level { kind := .jobStale, job := some job.uuid }]
  /-- Behind the last level the last handler fails. -/
  | failed {error : HandlerError} (isCanceled isStale : Bool)
      (verdict : (decided.verdictOn job context).result? = some (.error error)) :
      Raised decided job context length length error [.called job isCanceled isStale]

section Stopped

variable {decided : System} {job : Job} {context : Context} {length left : Nat} {tale : List Sign}
  {error : HandlerError}

/-- A job that fails is stopped at one level, and leaves the levels that it has passed. -/
theorem Handling.stopped {place : Nat}
    (handling : Handling decided job context place left tale (.error error)) :
    ∃ count raised, Raised decided job context (place + left) (place + count) error raised ∧
      tale = Sign.entering job.uuid place count ++
        (raised ++ Sign.leaving job.uuid error place count) := by
  generalize result : Except.error error = answer at handling
  induction handling with
  | canceled cancelled =>
      cases result
      exact ⟨0, _, .canceled (by omega) cancelled, rfl⟩
  | stale live fired =>
      cases result
      exact ⟨0, _, .stale (by omega) live fired, rfl⟩
  | succeeded next => cases result
  | @failed place left signs _ next ih =>
      cases result
      rcases ih rfl with ⟨count, raised, stops, told⟩
      refine ⟨count + 1, raised, ?_, ?_⟩
      · rwa [Nat.add_right_comm place 1 left, Nat.add_right_comm place 1 count] at stops
      · rw [told, Sign.entering_succ, Sign.leaving_succ]
        simp [Sign.acquired, Sign.returned]
  | answered isCanceled isStale verdict =>
      subst result
      exact ⟨0, _, .failed isCanceled isStale verdict, rfl⟩

theorem Sign.filterMap_returnOf_entering (uuid : String) (place count : Nat) :
    (entering uuid place count).filterMap (returnOf uuid) = [] := by
  simp [entering, acquired, returnOf]

theorem Sign.filterMap_returnOf_leaving (uuid : String) (error : HandlerError)
    (place count : Nat) :
    (leaving uuid error place count).filterMap (returnOf uuid) =
      (List.range' place count).reverse := by
  induction count generalizing place with
  | zero => rfl
  | succ count ih =>
      have here : (returned uuid error place).filterMap (returnOf uuid) = [place] := by
        simp [returned, List.filterMap_cons, returnOf]
      rw [leaving_succ, List.filterMap_append, ih, List.range'_succ, List.reverse_cons, here]

/-- The level at which a job is stopped tells no return itself. -/
theorem Raised.filterMap_returnOf {level : Nat} {raised : List Sign}
    (stops : Raised decided job context length level error raised) :
    raised.filterMap (Sign.returnOf job.uuid) = [] := by
  cases stops <;> rfl

theorem Raised.level_le {level : Nat} {raised : List Sign}
    (stops : Raised decided job context length level error raised) : level ≤ length := by
  cases stops with
  | canceled inside cancelled => exact Nat.le_of_lt inside
  | stale inside live fired => exact Nat.le_of_lt inside
  | failed isCanceled isStale verdict => exact Nat.le_refl _

theorem Handling.quiet {place : Nat}
    (handling : Handling decided job context place left tale (.ok ())) :
    tale.filterMap (Sign.returnOf job.uuid) = [] := by
  generalize result : Except.ok () = answer at handling
  induction handling with
  | canceled cancelled => cases result
  | stale live fired => cases result
  | succeeded next ih =>
      have later := ih rfl
      simpa [Sign.acquired, Sign.returnOf] using later
  | failed next ih => cases result
  | answered isCanceled isStale verdict => rfl

end Stopped

theorem TaskState.tokens_of_start {task : Task}
    (permitted : (Move.start task).keepsToAdmission = true) (place : Nat) :
    TaskState.tokens place { task } = 0 := by
  cases task with
  | admission job context stage =>
      cases stage with
      | arriving => rfl
      | _ => cases permitted
  | _ => rfl

namespace System

/-- By how much a move of a task's own changes how many tokens of a pool are claimed. -/
def claimedIn (index place : Nat) (system : System) (move : Move) : List Int :=
  if move.isOf index then
    [((system.perform move).pool place).inUse - (system.pool place).inUse]
  else []

/-- How many claimed tokens of a pool a task accounts for after a run. -/
def account (start : System) (moves : List Move) (index place : Nat) : Int :=
  (start.gather (claimedIn index place) moves).sum

/-- How many tokens of the limiter at a place a task is to account for. -/
def tokensOf (index place : Nat) (system : System) : Nat :=
  (system.tasks[index]?.map (TaskState.tokens place)).getD 0

section Accounts

variable {start system : System} {moves : List Move} {index place : Nat} {move : Move}
  {outside : Nat → Nat}

theorem account_concat (start : System) (moves : List Move) (move : Move) (index place : Nat) :
    start.account (moves ++ [move]) index place =
      start.account moves index place + ((start.run moves).claimedIn index place move).sum := by
  rw [account, gather_concat, List.sum_append, account]

/-- A move of others, or one that leaves the pool as it is, claims nothing. -/
theorem claimedIn_sum_of_same (same : move.isOf index = true →
    ((system.perform move).pool place).inUse = (system.pool place).inUse) :
    (system.claimedIn index place move).sum = 0 := by
  rw [claimedIn]
  split
  · rename_i own
    rw [same own]
    simp
  · rfl

theorem isOf_cases (own : move.isOf index = true) : move = .turn index ∨ move = .drop index := by
  cases move with
  | turn other => exact Or.inl (by rw [eq_of_beq own])
  | drop other => exact Or.inr (by rw [eq_of_beq own])
  | _ => cases own

theorem perform_of_absent (absent : system.tasks[index]? = none) (own : move.isOf index = true) :
    system.perform move = system := by
  rcases isOf_cases own with rfl | rfl
  · simp [perform, turn, absent]
  · simp [perform, dropNow, absent]

/-- Before anything happened every pool is full, and no task accounts for a token. -/
theorem keptToAdmission_of_idle
    (created : ∀ limiter ∈ start.limiters, Pool.create limiter.pool.capacity = .ok limiter.pool)
    (idle : start.tasks = #[]) : start.KeptToAdmission (fun _ => 0) where
  keeps := by
    intro index state found
    simp [idle] at found
  accounted := by
    intro place inside
    have full := Pool.eq_full_of_create (created start.limiters[place] (List.getElem_mem inside))
    have unused : start.pool place = .full (start.pool place).capacity := by
      simpa [pool, inside] using full
    rw [unused]
    simp [tokens, withNext, System.succeeded, brokenOff, idle, Pool.full]

/-- A move of a task's own claims as many tokens as the task has won with it. -/
theorem claimedIn_of_perform (kept : system.KeptToAdmission outside)
    (permitted : move.keepsToAdmission = true) (inside : place < system.limiters.length) :
    (system.tokensOf index place : Int) + (system.claimedIn index place move).sum =
      (system.perform move).tokensOf index place := by
  have quiet (same : (system.perform move).tokensOf index place = system.tokensOf index place)
      (unclaimed : move.isOf index = true →
        ((system.perform move).pool place).inUse = (system.pool place).inUse) :
      (system.tokensOf index place : Int) + (system.claimedIn index place move).sum =
        (system.perform move).tokensOf index place := by
    rw [claimedIn_sum_of_same unclaimed, same, Int.add_zero]
  cases found : (system.perform move).tasks[index]? with
  | none =>
      have absent : system.tasks[index]? = none := absent_of_perform found
      apply quiet
      · simp [tokensOf, absent, found]
      · intro own
        rw [perform_of_absent absent own]
  | some later =>
      cases Befalls.of_perform found with
      | kept state present sameTask sameOutcome elsewhere =>
          apply quiet
          · simp [tokensOf, present, found, TaskState.tokens, TaskState.isWithNext,
              TaskState.hasSucceeded, TaskState.hasBrokenOff, sameTask, sameOutcome]
          · intro own
            rcases elsewhere with unchanged | others
            · rw [unchanged]
            · rcases isOf_cases own with turns | drops
              · exact absurd turns others.1
              · exact absurd drops others.2
      | began absent started =>
          have fresh : later.tokens place = 0 := by
            rcases started with ⟨rfl, fresh⟩ | listening
            · rw [fresh]
              exact TaskState.tokens_of_start permitted place
            · have keeps := (perform_keptToAdmission permitted kept).keeps index later found
              cases task : later.task <;> simp_all [Task.isListening, Task.keepsToAdmission]
          apply quiet
          · simp [tokensOf, absent, found, fresh]
          · intro own
            rw [perform_of_absent absent own]
      | dropped state present unfinished ended step cause =>
          apply quiet
          · have same := TaskState.tokens_dropped (kept.keeps index state present) unfinished place
            simp [tokensOf, present, found, ended, same]
          · intro own
            rw [step, dropTask_inUse]
      | turned state present unfinished unmarked turns =>
          subst turns
          rcases JobStep.of_turn (kept.keeps index state present) present unfinished
            (kept.tokens_le_inUse present) with same | step
          · apply quiet
            · rw [perform, same]
            · intro own
              rw [perform, same]
          · rcases step.tasks with ⟨change, changed, counted⟩
            rw [perform, changed, Array.getElem?_modify, if_pos rfl, present] at found
            cases found
            have balance := counted place inside
            have after : (system.turn index).tasks[index]? = some (change state) := by
              rw [changed, Array.getElem?_modify, if_pos rfl, present, Option.map_some]
            have own : (Move.turn index).isOf index = true := beq_self_eq_true index
            simp only [tokensOf, claimedIn, perform, present, after, own, if_true, Option.map_some,
              Option.getD_some, List.sum_cons, List.sum_nil]
            omega

/-- What a task accounts for at the pools is what its stage or its outcome says. -/
theorem account_eq
    (created : ∀ limiter ∈ start.limiters, Pool.create limiter.pool.capacity = .ok limiter.pool)
    (idle : start.tasks = #[]) (permitted : ∀ move ∈ moves, move.keepsToAdmission = true)
    (inside : place < start.limiters.length) (index : Nat) :
    start.account moves index place = (start.run moves).tokensOf index place := by
  induction moves using List.reverseRecOn with
  | nil => simp [account, gather, tokensOf, idle]
  | append_singleton moves move ih =>
      have earlier : ∀ other ∈ moves, other.keepsToAdmission = true := fun other member =>
        permitted other (List.mem_append_left _ member)
      have kept := (run_keptToAdmission earlier (keptToAdmission_of_idle created idle)).1
      have within : place < (start.run moves).limiters.length := by
        rwa [(run_reaches start moves).length]
      rw [account_concat, ih earlier, run_append]
      exact claimedIn_of_perform kept (permitted move (by simp)) within

/-- All tasks together account for the tokens of all jobs. -/
theorem tokens_eq_sum (system : System) (place : Nat) :
    (system.tokens place : Int) =
      ((List.range system.tasks.size).map fun index => (system.tokensOf index place : Int)).sum := by
  have listed : (List.range system.tasks.size).map (fun index =>
      (system.tokensOf index place : Int)) =
        system.tasks.toList.map fun state => (state.tokens place : Int) := by
    apply List.ext_getElem
    · simp
    · intro index counted _
      have bound : index < system.tasks.size := by simpa using counted
      simp [tokensOf, Array.getElem?_eq_getElem bound]
  rw [listed]
  simp only [tokens, withNext, System.succeeded, brokenOff, ← Array.countP_toList]
  induction system.tasks.toList with
  | nil => rfl
  | cons state rest ih =>
      rw [List.map_cons, List.sum_cons, ← ih, TaskState.tokens]
      simp only [countP_cons_toNat]
      omega

end Accounts

/-- How a job that failed was stopped, in its last turn. -/
structure Stopped (start : System) (moves : List Move) (index : Nat) (job : Job)
    (context : Context) (error : HandlerError) (level : Nat) : Prop where
  within : level ≤ start.limiters.length
  /-- The error is the one that was raised at the level. -/
  raised : ∃ early late raised, moves = early ++ .turn index :: late ∧
    (start.run early).outcome? index = none ∧
    Raised (start.run early) job context start.limiters.length level error raised ∧
    start.tale moves index = Sign.entering job.uuid 0 level ++
      (raised ++ Sign.leaving job.uuid error 0 level)
  /-- The levels that it had passed tell the return of its token, the innermost one first. -/
  returns : (start.tale moves index).filterMap (Sign.returnOf job.uuid) =
    (List.range level).reverse

/-- What a job accounts for after a run. -/
structure AllOrNothing (start : System) (moves : List Move) (index : Nat) (job : Job)
    (context : Context) (stage : Stage) (outcome : Option Outcome) : Prop where
  onTheWay : outcome = none → stage.isInside = false →
    stage.passed start.limiters.length < start.limiters.length
  /-- It has one token of each limiter that it has passed. -/
  unfinished : outcome = none → ∀ place, place < start.limiters.length →
    start.account moves index place =
      if place < stage.passed start.limiters.length then 1 else 0
  succeeded : outcome = some (.handled (.ok ())) →
    (∀ place, place < start.limiters.length → start.account moves index place = 1) ∧
      (start.tale moves index).filterMap (Sign.returnOf job.uuid) = []
  failed : ∀ error, outcome = some (.handled (.error error)) →
    (∀ place, place < start.limiters.length → start.account moves index place = 0) ∧
      ∃ level, Stopped start moves index job context error level

section Jobs

variable {start : System} {moves : List Move} {index : Nat} {job : Job} {context : Context}
  {stage : Stage} {tale : List Sign}

/-- The tale of a job that failed. -/
theorem Narrated.stopped {error : HandlerError}
    (narrated : Narrated start moves index job context (start.tale moves index) stage
      (some (.handled (.error error)))) :
    ∃ level, Stopped start moves index job context error level := by
  cases narrated with
  | onTheWay unended _ _ _ => rcases unended with ended | ended <;> cases ended
  | inside _ _ unended _ => rcases unended with ended | ended <;> cases ended
  | handled early late split pending story =>
      rcases story.stopped with ⟨level, raised, stops, told⟩
      rw [Nat.zero_add, Nat.zero_add] at stops
      refine ⟨level, stops.level_le, ⟨early, late, raised, split, pending, stops, told⟩, ?_⟩
      rw [told]
      simp only [List.filterMap_append, Sign.filterMap_returnOf_entering, stops.filterMap_returnOf,
        Sign.filterMap_returnOf_leaving, List.nil_append, List.range_eq_range']

theorem Narrated.quiet
    (narrated : Narrated start moves index job context tale stage (some (.handled (.ok ())))) :
    tale.filterMap (Sign.returnOf job.uuid) = [] := by
  cases narrated with
  | onTheWay unended _ _ _ => rcases unended with ended | ended <;> cases ended
  | inside _ _ unended _ => rcases unended with ended | ended <;> cases ended
  | handled early late split pending story => exact story.quiet

end Jobs

/-- In a chain whose tokens are given back by nobody else a job holds the tokens of the limiters that
it has passed, and in the end either all tokens or none. All claimed tokens are accounted for by one
job each, or were claimed by direct calls. -/
theorem allOrNothing_of_keptToAdmission (start : System) (moves : List Move)
    (limited : 0 < start.limiters.length)
    (created : ∀ limiter ∈ start.limiters, Pool.create limiter.pool.capacity = .ok limiter.pool)
    (idle : start.tasks = #[]) (permitted : ∀ move ∈ moves, move.keepsToAdmission = true) :
    (∀ (index : Nat) (state : TaskState) (job : Job) (context : Context) (stage : Stage),
      (start.run moves).tasks[index]? = some state →
      state.task = .admission job context stage →
      AllOrNothing start moves index job context stage state.outcome) ∧
    ∀ place, place < start.limiters.length →
      (((start.run moves).pool place).inUse : Int) = start.tally (takes place) moves +
        ((List.range (start.run moves).tasks.size).map fun index =>
          start.account moves index place).sum := by
  constructor
  · intro index state job context stage found task
    have narrated : Narrated start moves index job context (start.tale moves index) stage
        state.outcome := by
      refine (accompanied_of_run limited idle ?_ index).narrated state job context stage found task
      intro move member
      exact Move.startsArriving_of_keepsToAdmission (permitted move member)
    have accounted {place : Nat} (inside : place < start.limiters.length) :
        start.account moves index place = state.tokens place := by
      rw [account_eq created idle permitted inside index, tokensOf, found]
      rfl
    constructor
    · intro unfinished
      rw [unfinished] at narrated
      exact narrated.placed
    · intro unfinished place inside
      rw [accounted inside, TaskState.tokens_of_unfinished task unfinished,
        stage.isBeyond_eq inside]
      split <;> simp_all
    · intro ended
      rw [ended] at narrated
      refine ⟨?_, narrated.quiet⟩
      intro place inside
      rw [accounted inside, TaskState.tokens_of_succeeded ended]
      rfl
    · intro error ended
      rw [ended] at narrated
      refine ⟨?_, narrated.stopped⟩
      intro place inside
      rw [accounted inside]
      have lost := TaskState.tokens_failed state error place
      rw [← ended] at lost
      exact congrArg Int.ofNat lost
  · intro place inside
    have kept := (run_keptToAdmission permitted (keptToAdmission_of_idle created idle)).1
    have counted := kept.accounted place (by rwa [(run_reaches start moves).length])
    simp only [account_eq created idle permitted inside]
    rw [← tokens_eq_sum, counted]
    omega

theorem allOrNothing_threefold :
    ((∀ (index : Nat) (state : TaskState) (job : Job) (context : Context) (stage : Stage),
        ((double (.full 3) (.full 1)).run threefold).tasks[index]? = some state →
        state.task = .admission job context stage →
        AllOrNothing (double (.full 3) (.full 1)) threefold index job context stage
          state.outcome) ∧
      ∀ place, place < (double (.full 3) (.full 1)).limiters.length →
        (((double (.full 3) (.full 1)).run threefold).pool place).inUse =
          ((double (.full 3) (.full 1)).tally (takes place) threefold : Int) +
            ((List.range ((double (.full 3) (.full 1)).run threefold).tasks.size).map fun index =>
              (double (.full 3) (.full 1)).account threefold index place).sum) ∧
      ((double (.full 3) (.full 1)).run threefold).outcome? 0 =
        some (.handled (.error (.fail "refused"))) ∧
      ((double (.full 3) (.full 1)).tale threefold 0).filterMap (Sign.returnOf "failing") =
        [1, 0] ∧
      (double (.full 3) (.full 1)).account (threefold.take 10) 1 0 = 1 ∧
      (double (.full 3) (.full 1)).account (threefold.take 10) 1 1 = 0 ∧
      (double (.full 3) (.full 1)).account threefold 1 0 = 0 ∧
      (double (.full 3) (.full 1)).account threefold 2 1 = 1 := by
  refine ⟨?_, by decide +kernel, by decide +kernel, by decide +kernel, by decide +kernel,
    by decide +kernel, by decide +kernel⟩
  refine allOrNothing_of_keptToAdmission (double (.full 3) (.full 1)) threefold (by decide) ?_ rfl
    (by decide)
  intro limiter member
  simp only [double, List.mem_cons, List.not_mem_nil, or_false] at member
  rcases member with rfl | rfl
  · rfl
  · rfl

end System

end Admission
