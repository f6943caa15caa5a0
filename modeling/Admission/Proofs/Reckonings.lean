import Admission.Proofs.Balance
import Admission.Proofs.Calls

/-!
# What happens at the first limiter

A handling of a job by the first limiter waits for its token, and then calls what comes next. The wait
ends in one turn of the job, as the call of the pool returns; and what comes next may fail, in the same
turn or in a later one. The first limiter tells each of these in one event, when it happens.
-/

namespace Admission

/-- Whether a sign is one that a job can give: what limiters tell is about its admission, and a token
that it won is told with the wait for it. -/
def Sign.isOfJob : Sign → Bool
  | .told _ event => event.kind.isAdmission && (event.kind != .tokenAcquired || event.wait.isSome)
  | _ => true

namespace System

/-- The job that a task handles, if it goes on with it in its next turn. -/
def handling? (system : System) (index : Nat) : Option (Job × Context × Stage) :=
  match system.tasks[index]? with
  | some { task := .admission job context stage, isAborted := false, outcome := none } =>
      some (job, context, stage)
  | _ => none

/-- What the call for a token of the first limiter returns in the next turn of a task, if it waits
for one. -/
def firstWait (system : System) (index : Nat) : Option Wait :=
  (system.handling? index).bind fun (job, context, stage) =>
    if stage.isBeyond 0 then none
    else
      some ((system.pool 0).turn index (system.isCancelled context) (system.isFired job.signal)).1

/-- Whether a wait for a token of the first limiter ends so in a move. -/
def endsWait (wait : Wait) (system : System) : Move → Bool
  | .turn index => system.firstWait index == some wait
  | _ => false

/-- Whether what the first limiter calls next fails a job in a move: the handling ends with a failure
that is not that of its own wait. -/
def failsBehind (system : System) : Move → Bool
  | .turn index =>
      (system.handling? index).isSome && isFailure ((system.turn index).outcome? index) &&
        system.firstWait index != some .canceled && system.firstWait index != some .stale
  | _ => false
where
  /-- Whether a job was handled and failed. -/
  isFailure : Option Outcome → Bool
    | some (.handled (.error _)) => true
    | _ => false

section Turns

variable {system : System} {index : Nat} {state : TaskState} {job : Job} {context : Context}
  {stage : Stage}

theorem handling?_eq_some (found : system.tasks[index]? = some state)
    (task : state.task = .admission job context stage) (unfinished : state.outcome = none)
    (unmarked : state.isAborted = false) : system.handling? index = some (job, context, stage) := by
  rcases state with ⟨_, _, _⟩
  cases task
  cases unfinished
  cases unmarked
  simp [handling?, found]

theorem handling?_cases (system : System) (index : Nat) :
    system.handling? index = none ∨ ∃ state job context stage,
      system.tasks[index]? = some state ∧ state.task = .admission job context stage ∧
        state.outcome = none ∧ state.isAborted = false := by
  simp only [handling?]
  split
  · rename_i job context stage found
    exact Or.inr ⟨_, job, context, stage, found, rfl, rfl, rfl⟩
  · exact Or.inl rfl

/-- What a wait comes to whose context is cancelled or whose signal has fired. -/
theorem firstWait_of_refused (handled : system.handling? index = some (job, context, stage))
    {error : HandlerError} (refused : system.refusal context job.signal = some error) :
    system.firstWait index = if stage.isBeyond 0 then none else some error.endOfWait := by
  have cancelled := system.cancellation.cause_isSome context
  simp only [firstWait, handled, Option.bind_some, Pool.turn, System.isCancelled, ← cancelled]
  simp only [refusal] at refused
  split at refused
  · rename_i cause present
    cases refused
    rw [present]
    rfl
  · rename_i none
    rw [none]
    split at refused
    · rename_i fired
      cases refused
      rw [fired]
      rfl
    · cases refused

theorem firstWait_of_free (handled : system.handling? index = some (job, context, stage))
    (free : system.refusal context job.signal = none) :
    system.firstWait index =
      if stage.isBeyond 0 then none else some ((system.pool 0).claim index).1 := by
  rcases refusal_eq_none.mp free with ⟨live, unfired⟩
  simp [firstWait, handled, Pool.turn, live, unfired]

theorem isInside_of_before (before : stage.isBeyond 0 = false) : stage.isInside = false := by
  cases stage with
  | inside holds => cases before
  | _ => rfl

/-- The first limiter is the one that a job has come to, or it has passed it. -/
theorem passed_eq_zero (ready : 0 < system.limiters.length) :
    stage.isBeyond 0 = false ↔ stage.passed system.limiters.length = 0 := by
  rw [stage.isBeyond_eq ready, decide_eq_false_iff_not]
  omega

/-- A job that comes to the last handler has won a token of the first limiter. -/
theorem Enters.firstWait_eq (enters : system.Enters index job context stage)
    (handled : system.handling? index = some (job, context, stage))
    (ready : 0 < system.limiters.length) :
    system.firstWait index = if stage.isBeyond 0 then none else some .acquired := by
  cases beyond : stage.isBeyond 0 with
  | true => simp [firstWait, handled, beyond]
  | false =>
      have here := (passed_eq_zero ready).mp beyond
      have won := enters.clears.granted 0 (Nat.le_of_eq here) ready
      rw [firstWait_of_free handled (enters.free (isInside_of_before beyond)), beyond, won]

theorem Enters.firstWait_ne (enters : system.Enters index job context stage)
    (handled : system.handling? index = some (job, context, stage))
    (ready : 0 < system.limiters.length) {wait : Wait} (other : wait ≠ .acquired) :
    (system.firstWait index == some wait) = false := by
  rw [enters.firstWait_eq handled ready]
  cases stage.isBeyond 0 with
  | true => rfl
  | false => simpa using Ne.symm other

/-- Whether what comes next fails a job in a turn, given how the turn ends. -/
theorem failsBehind_of_outcome (handled : system.handling? index = some (job, context, stage))
    {outcome : Option Outcome} (ended : (system.turn index).outcome? index = outcome) :
    system.failsBehind (.turn index) =
      (failsBehind.isFailure outcome &&
        system.firstWait index != some .canceled && system.firstWait index != some .stale) := by
  rw [failsBehind, handled, ended]
  rfl

end Turns

/-! ### The turn of a job -/

section Jobs

variable {system : System} {index : Nat} {state : TaskState} {job : Job} {context : Context}
  {stage : Stage}

theorem error_endOfWait_iff {error : HandlerError} {kind : EventKind} {wait : Wait}
    (answers : kind = .waitCanceled ∧ wait = .canceled ∨ kind = .jobStale ∧ wait = .stale) :
    (error.toldAs == kind) = (error.endOfWait == wait) := by
  rcases answers with ⟨rfl, rfl⟩ | ⟨rfl, rfl⟩ <;> cases error <;> rfl

theorem countP_closing_of_ne (uuid : String) (first count place : Nat)
    (result : Except HandlerError Unit) {kind : EventKind} (other : kind ≠ .tokenReturned) :
    (Chain.closing uuid first count result).countP (Sign.tells kind place) = 0 := by
  cases result with
  | ok done => rfl
  | error error => exact Sign.countP_leaving_of_ne _ _ _ _ _ other

/-- A wait that ends with a token is told by the first limiter. -/
theorem JobMoves.countP_acquired (handled : system.handling? index = some (job, context, stage))
    (ready : 0 < system.limiters.length)
    (step : JobMoves index job context stage system (system.turn index)) :
    (system.taleIn index (.turn index)).countP (Sign.tells .tokenAcquired 0) =
      (system.firstWait index == some .acquired).toNat := by
  have entered (enters : system.Enters index job context stage) :
      (system.entry job context stage).countP (Sign.tells .tokenAcquired 0) =
        (system.firstWait index == some .acquired).toNat := by
    have counted := countP_entry_acquired job context stage ready enters.clears.further
    rw [enters.firstWait_eq handled ready]
    cases beyond : stage.isBeyond 0 with
    | true =>
        rw [beyond] at counted
        simpa using counted
    | false =>
        rw [beyond] at counted
        simpa using counted
  cases step with
  | gaveUp error outside refused tasks signs pools wakes =>
      rw [taleIn_of_turn signs, List.countP_cons, Sign.countP_leaving_of_ne _ _ _ _ _ (by decide),
        Sign.tells_refused, firstWait_of_refused handled refused]
      have unwon : (error.toldAs == .tokenAcquired) = false ∧
          (error.endOfWait == .acquired) = false := by
        cases error <;> exact ⟨rfl, rfl⟩
      cases stage.isBeyond 0 <;> simp [unwon]
  | waits reached since outside free clears short tasks signs pools =>
      have further := clears.further
      rw [taleIn_of_turn signs, Sign.countP_entering, firstWait_of_free handled free]
      cases beyond : stage.isBeyond 0 with
      | true =>
          have behind := stage.isBeyond_eq ready
          rw [beyond, eq_comm, decide_eq_true_eq] at behind
          rw [decide_eq_false (by omega)]
          rfl
      | false =>
          have here := (passed_eq_zero ready).mp beyond
          rw [here]
          by_cases goes : 0 < reached
          · rw [clears.granted 0 (Nat.le_of_eq here) goes, decide_eq_true (by omega)]
            rfl
          · have stays : reached = 0 := by omega
            subst stays
            rw [clears.refused short, decide_eq_false (by omega)]
            rfl
  | heldUp holds enters tasks signs pools => rw [taleIn_of_turn signs, entered enters]
  | panicked text enters verdict tasks signs pools => rw [taleIn_of_turn signs, entered enters]
  | answered result enters verdict tasks signs pools =>
      rw [taleIn_of_turn signs, List.countP_append, entered enters,
        countP_closing_of_ne _ _ _ _ _ (by decide)]
      rfl

/-- A wait that is given up is told by the first limiter, and by none that the job has passed. -/
theorem JobMoves.countP_refused (handled : system.handling? index = some (job, context, stage))
    (ready : 0 < system.limiters.length)
    (step : JobMoves index job context stage system (system.turn index)) {kind : EventKind}
    {wait : Wait}
    (answers : kind = .waitCanceled ∧ wait = .canceled ∨ kind = .jobStale ∧ wait = .stale) :
    (system.taleIn index (.turn index)).countP (Sign.tells kind 0) =
      (system.firstWait index == some wait).toNat := by
  have notWon : kind ≠ .tokenAcquired ∧ kind ≠ .tokenReturned ∧ wait ≠ .acquired ∧
      wait ≠ .pending := by
    rcases answers with ⟨rfl, rfl⟩ | ⟨rfl, rfl⟩ <;> decide
  rcases notWon with ⟨notAcquired, notReturned, other, ended⟩
  cases step with
  | gaveUp error outside refused tasks signs pools wakes =>
      rw [taleIn_of_turn signs, List.countP_cons, Sign.countP_leaving_of_ne _ _ _ _ _ notReturned,
        Sign.tells_refused, error_endOfWait_iff answers, firstWait_of_refused handled refused]
      cases beyond : stage.isBeyond 0 with
      | true =>
          have behind := stage.isBeyond_eq ready
          rw [beyond, eq_comm, decide_eq_true_eq] at behind
          have passedIt : stage.passed system.limiters.length ≠ 0 := by omega
          simp [passedIt]
      | false =>
          rw [(passed_eq_zero ready).mp beyond]
          cases error <;> cases wait <;> rfl
  | waits reached since outside free clears short tasks signs pools =>
      have unrefused : (system.firstWait index == some wait) = false := by
        rw [firstWait_of_free handled free]
        cases stage.isBeyond 0 with
        | true => rfl
        | false =>
            rcases (system.pool 0).claim_answer index with same | same <;> rw [same]
            · simpa using Ne.symm ended
            · simpa using Ne.symm other
      rw [taleIn_of_turn signs, Sign.countP_entering_of_ne _ _ _ _ notAcquired, unrefused]
      rfl
  | heldUp holds enters tasks signs pools =>
      rw [taleIn_of_turn signs, countP_entry_of_ne _ _ _ _ _ notAcquired,
        enters.firstWait_ne handled ready other]
      rfl
  | panicked text enters verdict tasks signs pools =>
      rw [taleIn_of_turn signs, countP_entry_of_ne _ _ _ _ _ notAcquired,
        enters.firstWait_ne handled ready other]
      rfl
  | answered result enters verdict tasks signs pools =>
      rw [taleIn_of_turn signs, List.countP_append, countP_entry_of_ne _ _ _ _ _ notAcquired,
        countP_closing_of_ne _ _ _ _ _ notReturned, enters.firstWait_ne handled ready other]
      rfl

/-- A failure of what comes next is told by the first limiter, which takes its token back. -/
theorem JobMoves.countP_returned (found : system.tasks[index]? = some state)
    (unfinished : state.outcome = none)
    (handled : system.handling? index = some (job, context, stage))
    (ready : 0 < system.limiters.length)
    (step : JobMoves index job context stage system (system.turn index)) :
    (system.taleIn index (.turn index)).countP (Sign.tells .tokenReturned 0) =
      (system.failsBehind (.turn index)).toNat := by
  cases step with
  | gaveUp error outside refused tasks signs pools wakes =>
      rw [failsBehind_of_outcome handled (outcome?_of_modify found tasks), taleIn_of_turn signs,
        List.countP_cons, Sign.countP_leaving, Sign.tells_refused,
        firstWait_of_refused handled refused]
      have behind := stage.isBeyond_eq ready
      cases beyond : stage.isBeyond 0 with
      | true =>
          rw [beyond, eq_comm, decide_eq_true_eq] at behind
          cases error <;> simp [behind, HandlerError.toldAs, failsBehind.isFailure, bne]
      | false =>
          rw [(passed_eq_zero ready).mp beyond]
          cases error <;> rfl
  | waits reached since outside free clears short tasks signs pools =>
      rw [failsBehind_of_outcome handled (outcome?_of_modify found tasks), unfinished,
        taleIn_of_turn signs, Sign.countP_entering_of_ne _ _ _ _ (by decide)]
      rfl
  | heldUp holds enters tasks signs pools =>
      rw [failsBehind_of_outcome handled (outcome?_of_modify found tasks), unfinished,
        taleIn_of_turn signs, countP_entry]
      rfl
  | panicked text enters verdict tasks signs pools =>
      rw [failsBehind_of_outcome handled (outcome?_of_modify found tasks), taleIn_of_turn signs,
        countP_entry]
      rfl
  | answered result enters verdict tasks signs pools =>
      rw [failsBehind_of_outcome handled (outcome?_of_modify found tasks), taleIn_of_turn signs,
        List.countP_append, countP_entry]
      cases result with
      | ok done => rfl
      | error error =>
          have canceled : (system.firstWait index == some .canceled) = false :=
            enters.firstWait_ne handled ready (by decide)
          have stale : (system.firstWait index == some .stale) = false :=
            enters.firstWait_ne handled ready (by decide)
          rw [Chain.closing, Sign.countP_leaving]
          simp [bne, canceled, stale, ready, failsBehind.isFailure]

theorem JobMoves.isOfJob (step : JobMoves index job context stage system (system.turn index)) :
    (system.taleIn index (.turn index)).all Sign.isOfJob = true := by
  have entering (first count : Nat) :
      (Sign.entering job.uuid first count).all Sign.isOfJob = true := by
    simp [Sign.entering, Sign.acquired, Sign.isOfJob, EventKind.isAdmission]
  have leaving (error : HandlerError) (first count : Nat) :
      (Sign.leaving job.uuid error first count).all Sign.isOfJob = true := by
    simp [Sign.leaving, Sign.returned, Sign.isOfJob, EventKind.isAdmission]
  have entry : (system.entry job context stage).all Sign.isOfJob = true := by
    rw [System.entry]
    split
    · rfl
    · rw [List.all_append, entering]
      rfl
  cases step with
  | gaveUp error outside refused tasks signs pools wakes =>
      rw [taleIn_of_turn signs, List.all_cons, leaving]
      cases error <;> rfl
  | waits reached since outside free clears short tasks signs pools =>
      rw [taleIn_of_turn signs, entering]
  | heldUp holds enters tasks signs pools => rw [taleIn_of_turn signs, entry]
  | panicked text enters verdict tasks signs pools => rw [taleIn_of_turn signs, entry]
  | answered result enters verdict tasks signs pools =>
      rw [taleIn_of_turn signs, List.all_append, entry]
      cases result with
      | ok done => rfl
      | error error => exact leaving error 0 system.limiters.length

end Jobs

/-! ### Runs -/

/-- The signs that a job gives in a move. -/
def jobSigns (system : System) : Move → List Sign
  | .turn index =>
      if (system.handling? index).isSome then system.taleIn index (.turn index) else []
  | _ => []

/-- What a job tells in a move: whether it won, lost or gave back a token of the first limiter. -/
structure Tells (system : System) (move : Move) : Prop where
  acquired : (system.jobSigns move).countP (Sign.tells .tokenAcquired 0) =
    (system.endsWait .acquired move).toNat
  canceled : (system.jobSigns move).countP (Sign.tells .waitCanceled 0) =
    (system.endsWait .canceled move).toNat
  stale : (system.jobSigns move).countP (Sign.tells .jobStale 0) =
    (system.endsWait .stale move).toNat
  returned : (system.jobSigns move).countP (Sign.tells .tokenReturned 0) =
    (system.failsBehind move).toNat
  isOfJob : (system.jobSigns move).all Sign.isOfJob = true

section Runs

variable {start system : System} {moves : List Move} {test : Sign → Bool}

theorem taleIn_prefix (system : System) (index : Nat) :
    (system.turn index).signs = system.signs ++ system.taleIn index (.turn index) := by
  rcases system.perform_noted (.turn index) with ⟨noted, extended⟩
  have told : (system.turn index).signs = system.signs ++ noted.flatMap Notice.signs := by
    rw [signs, ← perform, extended.history, List.flatMap_append]
    rfl
  rw [taleIn_of_turn told, told]

/-- A job that has ended tells nothing, and neither does one that is to be dropped. -/
theorem taleIn_of_unhandled {index : Nat} {state : TaskState}
    (found : system.tasks[index]? = some state) (isJob : state.task.isAdmission = true)
    (unhandled : system.handling? index = none) : system.taleIn index (.turn index) = [] := by
  apply taleIn_eq_nil
  left
  rw [perform]
  rcases turn_cases system index with same | ⟨other, present, unfinished⟩
  · rw [same]
  · rw [found, Option.some.injEq] at present
    subst present
    cases marked : state.isAborted with
    | true => rw [turn_of_isAborted found unfinished marked, dropTask_signs]
    | false =>
        cases task : state.task with
        | admission job context stage =>
            rw [handling?_eq_some found task unfinished marked] at unhandled
            cases unhandled
        | _ => simp [task, Task.isAdmission] at isJob

/-- A move adds to the signs what a job tells, and what the reconciler tells of the changes of which
it is notified. -/
theorem perform_countP_signs
    (unmoved : ∀ event, event.kind = .feedSynced → test (.told 0 event) = false) {move : Move}
    (unpublished : ∀ place event, move = .elsewhere (.publish place event) →
      test (.told place event.bare) = false) :
    (system.perform move).signs.countP test = system.signs.countP test +
      ((system.jobSigns move).countP test +
        (system.notified move).countP fun change => test change.sign) := by
  by_cases noJob : ∀ index state, move = .turn index → system.tasks[index]? = some state →
      state.task.isAdmission = false
  · have untold : system.jobSigns move = [] := by
      cases move with
      | turn index =>
          rcases system.handling?_cases index with
            none | ⟨state, job, context, stage, found, task, -, -⟩
          · simp [jobSigns, none]
          · have deaf := noJob index state rfl found
            rw [task] at deaf
            cases deaf
      | _ => rfl
    rw [perform_countP unmoved noJob unpublished, untold, List.countP_nil, Nat.zero_add]
  · obtain ⟨index, state, rfl, found, isJob⟩ : ∃ index state, move = .turn index ∧
        system.tasks[index]? = some state ∧ state.task.isAdmission = true := by
      simpa using noJob
    have deaf : system.heardBy index = none := by
      apply heardBy_of_other found
      cases task : state.task with
      | listening watch => simp [task, Task.isAdmission] at isJob
      | _ => rfl
    have unnotified : system.notified (.turn index) = [] := by simp [notified, deaf]
    rw [perform, taleIn_prefix, List.countP_append, unnotified, List.countP_nil, Nat.add_zero]
    cases handled : system.handling? index with
    | none =>
        rw [jobSigns, handled, taleIn_of_unhandled found isJob handled]
        rfl
    | some _ => rw [jobSigns, handled, Option.isSome_some, if_pos rfl]

theorem countP_of_run
    (unmoved : ∀ event, event.kind = .feedSynced → test (.told 0 event) = false)
    (unpublished : ∀ place event, .elsewhere (.publish place event) ∈ moves →
      test (.told place event.bare) = false) :
    (start.run moves).signs.countP test = start.signs.countP test +
      ((start.gather jobSigns moves).countP test +
        (start.gather notified moves).countP fun change => test change.sign) := by
  induction moves generalizing start with
  | nil => rfl
  | cons move rest ih =>
      rw [run_cons, ih, perform_countP_signs unmoved, gather, gather, List.countP_append,
        List.countP_append]
      · omega
      · rintro place event rfl
        exact unpublished place event (by simp)
      · intro place event member
        exact unpublished place event (by simp [member])

/-- What is counted move by move adds up. -/
theorem countP_gather {Item : Type} {brought : System → Move → List Item} {counts : Item → Bool}
    {happens : System → Move → Bool}
    (each : ∀ early move late, moves = early ++ move :: late →
      (brought (start.run early) move).countP counts = (happens (start.run early) move).toNat) :
    (start.gather brought moves).countP counts = start.tally happens moves := by
  induction moves generalizing start with
  | nil => rfl
  | cons move rest ih =>
      have first : (brought start move).countP counts = (happens start move).toNat :=
        each [] move rest rfl
      have later : ((start.perform move).gather brought rest).countP counts =
          (start.perform move).tally happens rest := by
        apply ih
        rintro early other late rfl
        exact each (move :: early) other late rfl
      rw [gather, List.countP_append, later, tally, first]

theorem all_gather {Item : Type} {brought : System → Move → List Item} {holds : Item → Bool}
    (each : ∀ early move late, moves = early ++ move :: late →
      (brought (start.run early) move).all holds = true) :
    (start.gather brought moves).all holds = true := by
  induction moves generalizing start with
  | nil => rfl
  | cons move rest ih =>
      have later : ((start.perform move).gather brought rest).all holds = true := by
        apply ih
        rintro early other late rfl
        exact each (move :: early) other late rfl
      rw [gather, List.all_append, Bool.and_eq_true]
      exact ⟨each [] move rest rfl, later⟩

theorem tells_of_move (ready : 0 < system.limiters.length) (placed : system.Placed) (move : Move) :
    Tells system move := by
  have silent (untold : system.jobSigns move = [])
      (nothing : (∀ wait, system.endsWait wait move = false) ∧ system.failsBehind move = false) :
      Tells system move := by
    rcases nothing with ⟨unended, unfailed⟩
    constructor <;> simp [untold, unended, unfailed]
  cases move with
  | turn index =>
      rcases system.handling?_cases index with
        none | ⟨state, job, context, stage, found, task, unfinished, unmarked⟩
      · apply silent <;> simp [jobSigns, endsWait, failsBehind, firstWait, none]
      · have handled := handling?_eq_some found task unfinished unmarked
        have told : system.jobSigns (.turn index) = system.taleIn index (.turn index) := by
          rw [jobSigns, handled, Option.isSome_some, if_pos rfl]
        have step : JobMoves index job context stage system (system.turn index) :=
          .of_turn found task unfinished unmarked
            (placed index state job context stage found task unfinished)
        constructor
        · rw [told]
          exact step.countP_acquired handled ready
        · rw [told]
          exact step.countP_refused handled ready (Or.inl ⟨rfl, rfl⟩)
        · rw [told]
          exact step.countP_refused handled ready (Or.inr ⟨rfl, rfl⟩)
        · rw [told]
          exact step.countP_returned found unfinished handled ready
        · rw [told]
          exact step.isOfJob
  | _ => exact silent rfl ⟨fun _ => rfl, rfl⟩

/-- Whatever holds of a system with its limiters and jobs in place holds at each move of a run. -/
theorem ready_of_split (limited : 0 < start.limiters.length) (idle : start.tasks = #[])
    (arriving : ∀ move ∈ moves, move.startsArriving = true) {early late : List Move} {move : Move}
    (split : moves = early ++ move :: late) :
    0 < (start.run early).limiters.length ∧ (start.run early).Placed := by
  constructor
  · rwa [(run_reaches start early).length]
  · apply placed_of_run limited idle
    intro other member
    exact arriving other (by simp [split, member])

end Runs

end System

end Admission
