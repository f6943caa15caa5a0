import Admission.Proofs.Reckonings

/-!
# To how many calls something happens

The wait of a call for its token ends once, and what comes next fails a call once: afterwards the call
has passed the first limiter, or is over, whatever else happens. So as many calls won a token, gave up
or failed further on as there were moves in which this happened.
-/

namespace Admission

/-- Whether a task waits for no token of the first limiter any more: it has ended, or it handles a job
that has passed it. -/
def TaskState.hasPassed (state : TaskState) : Bool :=
  state.outcome.isSome ||
    match state.task with
    | .admission _ _ stage => stage.isBeyond 0
    | _ => false

namespace System

/-- Whether something happens to a task in a turn of its own. -/
def happensTo (happens : System → Move → Bool) (index : Nat) (system : System) : Move → Bool
  | .turn other => other == index && happens system (.turn other)
  | _ => false

/-- To how many tasks something happens in a run. -/
def tasksWith (happens : System → Move → Bool) (start : System) (moves : List Move) : Nat :=
  (List.range (start.run moves).tasks.size).countP fun index =>
    decide (0 < start.tally (happensTo happens index) moves)

theorem happensTo_eq_true {happens : System → Move → Bool} {index : Nat} {system : System}
    {move : Move} : happensTo happens index system move = true ↔
      move = .turn index ∧ happens system (.turn index) = true := by
  cases move with
  | turn other =>
      rw [happensTo, Bool.and_eq_true, beq_iff_eq, Move.turn.injEq]
      constructor
      · rintro ⟨rfl, happens⟩
        exact ⟨rfl, happens⟩
      · rintro ⟨rfl, happens⟩
        exact ⟨rfl, happens⟩
  | _ => simp [happensTo]

/-! ### Counting tasks and counting moves -/

theorem countP_range_add_one {size index : Nat} {before after : Nat → Bool} (within : index < size)
    (fresh : before index = false) (now : after index = true)
    (others : ∀ other, other ≠ index → after other = before other) :
    (List.range size).countP after = (List.range size).countP before + 1 := by
  induction size with
  | zero => omega
  | succ size ih =>
      rw [List.range_succ, List.countP_append, List.countP_append]
      by_cases last : index = size
      · have same : (List.range size).countP after = (List.range size).countP before := by
          apply List.countP_congr
          intro other member
          have apart : other ≠ index := by
            have inside := List.mem_range.mp member
            omega
          rw [others other apart]
        rw [same, ← last]
        simp [fresh, now]
      · rw [ih (by omega)]
        simp [others size (Ne.symm last)]
        omega

section Counts

variable {start system : System} {moves : List Move} {happens : System → Move → Bool}

/-- What happens to each task at most once, in its turn, happens to as many tasks as there are such
turns. -/
theorem countP_range_tally {size : Nat}
    (inTurn : ∀ early move late, moves = early ++ move :: late →
      happens (start.run early) move = true → ∃ index, move = .turn index ∧ index < size)
    (once : ∀ index, start.tally (happensTo happens index) moves ≤ 1) :
    ((List.range size).countP fun index =>
      decide (0 < start.tally (happensTo happens index) moves)) = start.tally happens moves := by
  induction moves generalizing start with
  | nil => simp [tally]
  | cons move rest ih =>
      have later : ((List.range size).countP fun index =>
          decide (0 < (start.perform move).tally (happensTo happens index) rest)) =
            (start.perform move).tally happens rest := by
        apply ih
        · rintro early other late rfl
          exact inTurn (move :: early) other late rfl
        · intro index
          have whole := once index
          rw [tally] at whole
          omega
      cases now : happens start move with
      | false =>
          have nobody (index : Nat) : happensTo happens index start move = false := by
            cases move <;> simp [happensTo, now]
          simp only [tally, now, nobody, later, Bool.toNat_false, Nat.zero_add]
      | true =>
          rcases inTurn [] move rest rfl now with ⟨index, rfl, within⟩
          have whole := once index
          have own : happensTo happens index start (.turn index) = true := by simp [happensTo, now]
          rw [tally, own, Bool.toNat_true] at whole
          rw [tally, now, ← later, Bool.toNat_true, Nat.add_comm]
          apply countP_range_add_one within
          · rw [decide_eq_false_iff_not]
            omega
          · rw [tally, own, decide_eq_true_eq, Bool.toNat_true]
            omega
          · intro other apart
            have unconcerned : happensTo happens other start (.turn index) = false := by
              simp [happensTo, Ne.symm apart]
            rw [tally, unconcerned, Bool.toNat_false, Nat.zero_add]

/-- What brings about a state in which it cannot happen any more happens at most once. -/
theorem tally_le_one {holds : System → Prop}
    (brings : ∀ early move late, moves = early ++ move :: late →
      happens (start.run early) move = true → holds ((start.run early).perform move))
    (stays : ∀ early move late, moves = early ++ move :: late →
      holds (start.run early) → holds ((start.run early).perform move))
    (quiet : ∀ system move, holds system → happens system move = false) :
    start.tally happens moves ≤ 1 ∧ (holds start → start.tally happens moves = 0) := by
  induction moves generalizing start with
  | nil => exact ⟨Nat.zero_le 1, fun _ => rfl⟩
  | cons move rest ih =>
      have later : (start.perform move).tally happens rest ≤ 1 ∧
          (holds (start.perform move) → (start.perform move).tally happens rest = 0) := by
        apply ih
        · rintro early other late rfl
          exact brings (move :: early) other late rfl
        · rintro early other late rfl
          exact stays (move :: early) other late rfl
      constructor
      · cases now : happens start move with
        | false => simpa [tally, now] using later.1
        | true =>
            have nothing := later.2 (brings [] move rest rfl now)
            simp [tally, now, nothing]
      · intro held
        have nothing := later.2 (stays [] move rest rfl held)
        simp [tally, quiet start move held, nothing]

end Counts

/-! ### What happens to a call once -/

/-- A task that there is has ended. -/
def HasEnded (index : Nat) (system : System) : Prop :=
  ∃ state, system.tasks[index]? = some state ∧ state.outcome.isSome = true

/-- A task that there is waits for no token of the first limiter any more. -/
def HasPassed (index : Nat) (system : System) : Prop :=
  ∃ state, system.tasks[index]? = some state ∧ state.hasPassed = true

section Once

variable {start system : System} {moves : List Move} {index : Nat} {state : TaskState} {job : Job}
  {context : Context} {stage : Stage}

theorem HasEnded.perform (ended : system.HasEnded index) (move : Move) :
    (system.perform move).HasEnded index := by
  rcases ended with ⟨state, found, ended⟩
  cases next : (system.perform move).tasks[index]? with
  | none =>
      rw [absent_of_perform next] at found
      cases found
  | some later =>
      refine ⟨later, next, ?_⟩
      cases Befalls.of_perform next with
      | kept before present _ outcome _ =>
          rw [found, Option.some.injEq] at present
          rw [outcome, ← present]
          exact ended
      | began absent _ =>
          rw [found] at absent
          cases absent
      | dropped before present unfinished _ _ _ =>
          rw [found, Option.some.injEq] at present
          rw [present, unfinished] at ended
          cases ended
      | turned before present unfinished _ _ =>
          rw [found, Option.some.injEq] at present
          rw [present, unfinished] at ended
          cases ended

/-- A job that has passed the first limiter, or whose wait for it ends in its turn, has passed it
after the turn, or is over. -/
theorem JobMoves.hasPassed (found : system.tasks[index]? = some state)
    (ready : 0 < system.limiters.length)
    (handled : system.handling? index = some (job, context, stage))
    (ends : stage.isBeyond 0 = true ∨ ∃ wait, wait ≠ .pending ∧ system.firstWait index = some wait)
    (step : JobMoves index job context stage system (system.turn index)) :
    (system.turn index).HasPassed index := by
  have becomes {change : TaskState → TaskState}
      (tasks : (system.turn index).tasks = system.tasks.modify index change)
      (passed : (change state).hasPassed = true) : (system.turn index).HasPassed index := by
    refine ⟨change state, ?_, passed⟩
    rw [tasks, Array.getElem?_modify, if_pos rfl, found]
    rfl
  cases step with
  | gaveUp error outside refused tasks signs pools wakes => exact becomes tasks rfl
  | waits reached since outside free clears short tasks signs pools =>
      have further := clears.further
      have onward : 0 < reached := by
        by_contra stays
        have here : reached = 0 := by omega
        have before : stage.isBeyond 0 = false := (passed_eq_zero ready).mpr (by omega)
        rcases ends with beyond | ⟨wait, ended, answer⟩
        · rw [before] at beyond
          cases beyond
        · subst here
          rw [firstWait_of_free handled free, before, clears.refused short] at answer
          exact ended (Option.some.inj answer).symm
      apply becomes tasks
      simp [TaskState.hasPassed, Stage.isBeyond, onward]
  | heldUp holds enters tasks signs pools =>
      apply becomes tasks
      simp [TaskState.hasPassed, Stage.isBeyond]
  | panicked text enters verdict tasks signs pools => exact becomes tasks rfl
  | answered result enters verdict tasks signs pools => exact becomes tasks rfl

theorem HasPassed.perform (ready : 0 < system.limiters.length) (placed : system.Placed)
    (passed : system.HasPassed index) (move : Move) : (system.perform move).HasPassed index := by
  rcases passed with ⟨state, found, passed⟩
  cases next : (system.perform move).tasks[index]? with
  | none =>
      rw [absent_of_perform next] at found
      cases found
  | some later =>
      cases Befalls.of_perform next with
      | kept before present task outcome _ =>
          rw [found, Option.some.injEq] at present
          refine ⟨later, next, ?_⟩
          rw [TaskState.hasPassed, task, outcome, ← present]
          exact passed
      | began absent _ =>
          rw [found] at absent
          cases absent
      | dropped before present _ ended _ _ => exact ⟨later, next, by rw [ended]; rfl⟩
      | turned before present unfinished unmarked turns =>
          rw [found, Option.some.injEq] at present
          subst present turns
          rcases state with ⟨task, isAborted, outcome⟩
          cases unfinished
          cases task with
          | admission job context stage =>
              have step := JobMoves.of_turn found rfl rfl unmarked
                (placed index _ job context stage found rfl rfl)
              exact step.hasPassed found ready (handling?_eq_some found rfl rfl unmarked)
                (Or.inl passed)
          | _ => cases passed

/-- No wait ends of a task that waits for no token any more. -/
theorem HasPassed.firstWait (passed : system.HasPassed index) : system.firstWait index = none := by
  rcases passed with ⟨state, found, passed⟩
  rcases system.handling?_cases index with
    none | ⟨other, job, context, stage, present, task, unfinished, unmarked⟩
  · simp [System.firstWait, none]
  · have handled := handling?_eq_some present task unfinished unmarked
    rw [found, Option.some.injEq] at present
    subst present
    have beyond : stage.isBeyond 0 = true := by
      simpa [TaskState.hasPassed, unfinished, task] using passed
    simp [System.firstWait, handled, beyond]

/-- A task that there is stays. -/
theorem lt_size_of_run (found : system.tasks[index]? = some state) (moves : List Move) :
    index < (system.run moves).tasks.size := by
  induction moves generalizing system state with
  | nil => exact (Array.getElem?_eq_some_iff.mp found).1
  | cons move rest ih =>
      cases next : (system.perform move).tasks[index]? with
      | none =>
          rw [absent_of_perform next] at found
          cases found
      | some later => exact ih next

theorem endsWait_cases {wait : Wait} {move : Move} (happens : system.endsWait wait move = true) :
    ∃ index state job context stage, move = .turn index ∧ system.firstWait index = some wait ∧
      system.tasks[index]? = some state ∧ state.task = .admission job context stage ∧
        state.outcome = none ∧ state.isAborted = false := by
  cases move with
  | turn index =>
      have answer : system.firstWait index = some wait := by simpa [endsWait] using happens
      rcases system.handling?_cases index with
        none | ⟨state, job, context, stage, found, task, unfinished, unmarked⟩
      · simp [System.firstWait, none] at answer
      · exact ⟨index, state, job, context, stage, rfl, answer, found, task, unfinished, unmarked⟩
  | _ => cases happens

theorem failsBehind_cases {move : Move} (happens : system.failsBehind move = true) :
    ∃ index state, move = .turn index ∧ system.tasks[index]? = some state ∧
      state.outcome = none ∧ (system.turn index).HasEnded index := by
  cases move with
  | turn index =>
      rcases system.handling?_cases index with
        none | ⟨state, job, context, stage, found, task, unfinished, unmarked⟩
      · simp [failsBehind, none] at happens
      · refine ⟨index, state, rfl, found, unfinished, ?_⟩
        cases later : (system.turn index).tasks[index]? with
        | none => simp [failsBehind, outcome?, later, failsBehind.isFailure] at happens
        | some after =>
            refine ⟨after, later, ?_⟩
            cases outcome : after.outcome with
            | none => simp [failsBehind, outcome?, later, outcome, failsBehind.isFailure] at happens
            | some _ => rfl
  | _ => cases happens

/-- The wait of a call ends at most once. -/
theorem endsWait_once (limited : 0 < start.limiters.length) (idle : start.tasks = #[])
    (arriving : ∀ move ∈ moves, move.startsArriving = true) {wait : Wait}
    (ended : wait ≠ .pending) (index : Nat) :
    start.tally (happensTo (endsWait wait) index) moves ≤ 1 := by
  have once : start.tally (happensTo (endsWait wait) index) moves ≤ 1 ∧
      (start.HasPassed index → start.tally (happensTo (endsWait wait) index) moves = 0) := by
    apply tally_le_one
    · intro early move late split happens
      rcases happensTo_eq_true.mp happens with ⟨rfl, now⟩
      rcases endsWait_cases now with
        ⟨_, state, job, context, stage, ⟨⟩, answer, found, task, unfinished, unmarked⟩
      rcases ready_of_split limited idle arriving split with ⟨ready, placed⟩
      have step := JobMoves.of_turn found task unfinished unmarked
        (placed index state job context stage found task unfinished)
      apply step.hasPassed found ready
      · exact handling?_eq_some found task unfinished unmarked
      · exact Or.inr ⟨wait, ended, answer⟩
    · intro early move late split passed
      rcases ready_of_split limited idle arriving split with ⟨ready, placed⟩
      exact passed.perform ready placed move
    · intro system move passed
      rw [← Bool.not_eq_true, happensTo_eq_true]
      rintro ⟨-, happens⟩
      simp [endsWait, passed.firstWait] at happens
  exact once.1

/-- What comes next fails a call at most once. -/
theorem failsBehind_once (start : System) (moves : List Move) (index : Nat) :
    start.tally (happensTo failsBehind index) moves ≤ 1 := by
  have once : start.tally (happensTo failsBehind index) moves ≤ 1 ∧
      (start.HasEnded index → start.tally (happensTo failsBehind index) moves = 0) := by
    apply tally_le_one
    · intro early move late split happens
      rcases happensTo_eq_true.mp happens with ⟨rfl, now⟩
      rcases failsBehind_cases now with ⟨_, state, ⟨⟩, _, _, ended⟩
      exact ended
    · intro early move late split ended
      exact ended.perform move
    · intro system move ended
      rw [← Bool.not_eq_true, happensTo_eq_true]
      rintro ⟨rfl, happens⟩
      rcases failsBehind_cases happens with ⟨_, state, ⟨⟩, found, unfinished, _⟩
      rcases ended with ⟨present, foundToo, ended⟩
      rw [found, Option.some.injEq] at foundToo
      rw [← foundToo, unfinished] at ended
      cases ended
  exact once.1

/-- In a run as many calls won a token, or gave up, as there are turns in which a wait ended so. -/
theorem tasksWith_endsWait (limited : 0 < start.limiters.length) (idle : start.tasks = #[])
    (arriving : ∀ move ∈ moves, move.startsArriving = true) {wait : Wait}
    (ended : wait ≠ .pending) :
    start.tasksWith (endsWait wait) moves = start.tally (endsWait wait) moves := by
  apply countP_range_tally
  · intro early move late split happens
    rcases endsWait_cases happens with ⟨index, state, _, _, _, turns, _, found, _⟩
    refine ⟨index, turns, ?_⟩
    rw [split, run_append]
    exact lt_size_of_run found (move :: late)
  · exact endsWait_once limited idle arriving ended

/-- In a run as many calls failed further on as there are turns in which this happened. -/
theorem tasksWith_failsBehind (start : System) (moves : List Move) :
    start.tasksWith failsBehind moves = start.tally failsBehind moves := by
  apply countP_range_tally
  · intro early move late split happens
    rcases failsBehind_cases happens with ⟨index, state, turns, found, _⟩
    refine ⟨index, turns, ?_⟩
    rw [split, run_append]
    exact lt_size_of_run found (move :: late)
  · exact failsBehind_once start moves

end Once

/-! ### What the jobs tell -/

/-- What the jobs of a run tell adds up: it tells to how many of them each thing happened. -/
structure Reckoned (start : System) (moves : List Move) : Prop where
  acquired : (start.gather jobSigns moves).countP (Sign.tells .tokenAcquired 0) =
    start.tasksWith (endsWait .acquired) moves
  canceled : (start.gather jobSigns moves).countP (Sign.tells .waitCanceled 0) =
    start.tasksWith (endsWait .canceled) moves
  stale : (start.gather jobSigns moves).countP (Sign.tells .jobStale 0) =
    start.tasksWith (endsWait .stale) moves
  returned : (start.gather jobSigns moves).countP (Sign.tells .tokenReturned 0) =
    start.tasksWith failsBehind moves
  isOfJob : (start.gather jobSigns moves).all Sign.isOfJob = true

/-- In every run the first limiter tells how the wait of each call for its token ended, and of each
failure of what comes next. -/
theorem reckoned_of_run {start : System} {moves : List Move}
    (limited : 0 < start.limiters.length) (idle : start.tasks = #[])
    (arriving : ∀ move ∈ moves, move.startsArriving = true) : Reckoned start moves := by
  have tells : ∀ early move late, moves = early ++ move :: late →
      Tells (start.run early) move := by
    intro early move late split
    rcases ready_of_split limited idle arriving split with ⟨ready, placed⟩
    exact tells_of_move ready placed move
  constructor
  · rw [tasksWith_endsWait limited idle arriving (by decide)]
    exact countP_gather fun early move late split => (tells early move late split).acquired
  · rw [tasksWith_endsWait limited idle arriving (by decide)]
    exact countP_gather fun early move late split => (tells early move late split).canceled
  · rw [tasksWith_endsWait limited idle arriving (by decide)]
    exact countP_gather fun early move late split => (tells early move late split).stale
  · rw [tasksWith_failsBehind]
    exact countP_gather fun early move late split => (tells early move late split).returned
  · exact all_gather fun early move late split => (tells early move late split).isOfJob

end System

end Admission
