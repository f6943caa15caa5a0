import Admission.Proofs.Stories

/-!
# Calls for a token

A task that has called for a token is asked at each of its turns. Its context may be cancelled, its
signal may have fired, and there may be a token for it; the call ends at the first turn at which one
of the three is so, and they count in this order. A call that ends without a token, or is dropped,
claims nothing, and a token that was on its way to it goes on to the first of those who still wait, in
the same step.

A job makes such a call at each limiter. In one turn it makes all those that win a token at once, and
the first one that does not.
-/

namespace Admission

/-- A call for a token of the limiter at a place. -/
structure Call where
  place : Nat
  context : Context
  signal : Nat

/-- The call that a task has made and that has not ended. -/
def TaskState.call? (state : TaskState) : Option Call :=
  match state.outcome, state.task with
  | none, .acquisition context signal => some ⟨0, context, signal⟩
  | none, .admission job context (.waiting place _) => some ⟨place, context, job.signal⟩
  | _, _ => none

/-- The end of a wait for a token, as the limiter at a place tells it. -/
def Sign.endOfWait (place : Nat) : Sign → Option Wait
  | .told there event =>
      if there = place then
        match event.kind with
        | .waitCanceled => some .canceled
        | .jobStale => some .stale
        | .tokenAcquired => some .acquired
        | _ => none
      else none
  | _ => none

/-- How a refused job's wait has ended. -/
def HandlerError.endOfWait : HandlerError → Wait
  | .canceled _ => .canceled
  | _ => .stale

/-- What is left of a pool when a waiter has given up, with the waiter that is handed a token. -/
structure Pool.GivesUp (pool : Pool) (waiter : Nat) (next : Pool) (woken : Option Nat) : Prop where
  /-- Nothing was claimed. -/
  inUse : next.inUse = pool.inUse
  /-- A waiter that was handed no token just leaves the queue. -/
  unhanded : waiter ∉ pool.handed → next.available = pool.available ∧
    next.handed = pool.handed ∧ next.queue = pool.queue.erase waiter
  /-- The token that was handed to it goes to the first waiter in the queue, which is woken. -/
  handedOn : waiter ∈ pool.handed → ∀ first rest, pool.queue = first :: rest →
    next.available = pool.available ∧ next.handed = pool.handed.erase waiter ++ [first] ∧
      next.queue = rest ∧ woken = some first
  /-- If nobody waits it is available again. -/
  restored : waiter ∈ pool.handed → pool.queue = [] →
    next.available = pool.available + 1 ∧ next.handed = pool.handed.erase waiter ∧
      next.queue = []

theorem Pool.withdraw_givesUp (pool : Pool) (waiter : Nat) :
    pool.GivesUp waiter (pool.withdraw waiter).1 (pool.withdraw waiter).2 where
  inUse := (pool.withdraw_frame waiter).2
  unhanded := by
    intro notHanded
    rw [withdraw_of_not_mem_handed notHanded]
    exact ⟨rfl, rfl, rfl⟩
  handedOn := by
    intro handed first rest queue
    simp [withdraw, handed, handOn, queue]
  restored := by
    intro handed queue
    simp [withdraw, handed, handOn, queue]

namespace System

/-- What a call comes to at a turn: a cancelled context counts before a signal that has fired, and
both before a token. -/
def answer (index : Nat) (call : Call) (system : System) : Wait :=
  if system.isCancelled call.context then .canceled
  else if system.isFired call.signal then .stale
  else if index ∈ (system.pool call.place).handed ∨ 0 < (system.pool call.place).available then
    .acquired
  else .pending

def call? (system : System) (index : Nat) : Option Call :=
  system.tasks[index]?.bind TaskState.call?

/-- What a task learns in a turn about its call at a place: a task that only acquires a token ends
with the answer, and the limiter tells the answer to a job. -/
def reply (index place : Nat) (system : System) : Wait :=
  match (system.turn index).outcome? index with
  | some .acquired => .acquired
  | some .canceled => .canceled
  | some .stale => .stale
  | _ => ((system.taleIn index (.turn index)).findSome? (Sign.endOfWait place)).getD .pending

/-- The calls for which a task is asked in a turn that is not its last because it is dropped. -/
inductive Asks (index : Nat) (system : System) : Call → Prop where
  | acquisition (state : TaskState) (context : Context) (signal : Nat)
      (found : system.tasks[index]? = some state) (unfinished : state.outcome = none)
      (unmarked : state.isAborted = false) (task : state.task = .acquisition context signal) :
      Asks index system ⟨0, context, signal⟩
  /-- A job calls at the limiter that it has come to, and at those further on as long as it wins. -/
  | admission (state : TaskState) (job : Job) (context : Context) (stage : Stage) (place : Nat)
      (found : system.tasks[index]? = some state) (unfinished : state.outcome = none)
      (unmarked : state.isAborted = false) (task : state.task = .admission job context stage)
      (outside : stage.isInside = false) (come : stage.passed system.limiters.length ≤ place)
      (within : place < system.limiters.length)
      (won : ∀ earlier, stage.passed system.limiters.length ≤ earlier → earlier < place →
        system.answer index ⟨earlier, context, job.signal⟩ = .acquired) :
      Asks index system ⟨place, context, job.signal⟩

/-- What a turn of its task brings to a call. -/
structure Answered (index : Nat) (call : Call) (system : System) : Prop where
  replies : system.reply index call.place = system.answer index call
  /-- The call goes on if there is no answer, and claims nothing. -/
  pending : system.answer index call = .pending →
    (system.turn index).call? index = some call ∧
      ((system.turn index).pool call.place).inUse = (system.pool call.place).inUse ∧
      ((system.turn index).pool call.place).available = (system.pool call.place).available ∧
      ((system.turn index).pool call.place).handed = (system.pool call.place).handed
  ended : system.answer index call ≠ .pending → (system.turn index).call? index ≠ some call
  /-- Losing costs nothing. -/
  lost : system.answer index call = .canceled ∨ system.answer index call = .stale →
    ∃ woken, (system.pool call.place).GivesUp index ((system.turn index).pool call.place) woken ∧
      Wakes system (system.turn index) woken

section Answers

variable {system : System} {index : Nat} {call : Call} {context : Context} {signal : Nat}
  {state : TaskState} {job : Job} {stage : Stage}

theorem refusal_eq_none : system.refusal context signal = none ↔
    system.isCancelled context = false ∧ system.isFired signal = false := by
  have cancelled := system.cancellation.cause_isSome context
  simp only [refusal]
  split
  · rename_i cause present
    rw [present] at cancelled
    simp [System.isCancelled, ← cancelled]
  · rename_i none
    rw [none] at cancelled
    simp [System.isCancelled, ← cancelled]

/-- Unless a call is given up its answer is that of the pool. -/
theorem answer_of_free (free : system.refusal call.context call.signal = none)
    (sound : (system.pool call.place).Sound) :
    system.answer index call = ((system.pool call.place).claim index).1 := by
  rcases refusal_eq_none.mp free with ⟨live, unfired⟩
  simp only [answer, live, unfired, Bool.false_eq_true, if_false]
  rcases (system.pool call.place).claim_cases index with ⟨handed, eq⟩ | ⟨notHanded, queued, eq⟩ |
    ⟨notHanded, -, none, eq⟩ | ⟨-, -, some, eq⟩
  · rw [if_pos (Or.inl handed), eq]
  · have none : (system.pool call.place).available = 0 :=
      sound.noneIdle (List.ne_nil_of_mem queued)
    rw [if_neg (by simp [notHanded, none]), eq]
  · rw [if_neg (by simp [notHanded, none]), eq]
  · rw [if_pos (Or.inr (Nat.pos_of_ne_zero some)), eq]

theorem answer_of_refused {error : HandlerError}
    (refused : system.refusal call.context call.signal = some error) :
    system.answer index call = error.endOfWait := by
  have cancelled := system.cancellation.cause_isSome call.context
  simp only [refusal] at refused
  split at refused
  · rename_i cause present
    cases refused
    have dead : system.isCancelled call.context = true := by
      rw [System.isCancelled, ← cancelled, present]
      rfl
    rw [answer, if_pos dead]
    rfl
  · rename_i none
    have live : system.isCancelled call.context = false := by
      rw [System.isCancelled, ← cancelled, none]
      rfl
    split at refused
    · rename_i fired
      cases refused
      rw [answer, live, if_neg Bool.false_ne_true, if_pos fired]
      rfl
    · cases refused

/-- A claim that is not granted changes the queue only. -/
theorem claim_of_pending {pool : Pool} {waiter : Nat} (pending : (pool.claim waiter).1 = .pending) :
    (pool.claim waiter).2.inUse = pool.inUse ∧ (pool.claim waiter).2.available = pool.available ∧
      (pool.claim waiter).2.handed = pool.handed := by
  rcases pool.claim_cases waiter with ⟨-, eq⟩ | ⟨-, -, eq⟩ | ⟨-, -, -, eq⟩ | ⟨-, -, -, eq⟩
  · rw [eq] at pending
    cases pending
  · rw [eq]
    exact ⟨rfl, rfl, rfl⟩
  · rw [eq]
    exact ⟨rfl, rfl, rfl⟩
  · rw [eq] at pending
    cases pending

/-- A job is told of each token that it wins. -/
theorem endOfWait_entering (uuid : String) {first count place : Nat} (behind : first ≤ place)
    (before : place < first + count) (more : List Sign) :
    (Sign.entering uuid first count ++ more).findSome? (Sign.endOfWait place) =
      some .acquired := by
  induction count generalizing first with
  | zero => omega
  | succ count ih =>
      rw [Sign.entering_succ, List.cons_append, List.findSome?_cons]
      by_cases here : first = place
      · subst here
        simp [Sign.acquired, Sign.endOfWait]
      · have further : Sign.endOfWait place (Sign.acquired uuid first) = none := by
          simp [Sign.acquired, Sign.endOfWait, here]
        rw [further]
        exact ih (by omega) (by omega)

theorem endOfWait_entering_of_le (uuid : String) {first count place : Nat}
    (beyond : first + count ≤ place) :
    (Sign.entering uuid first count).findSome? (Sign.endOfWait place) = none := by
  induction count generalizing first with
  | zero => rfl
  | succ count ih =>
      have further : Sign.endOfWait place (Sign.acquired uuid first) = none := by
        have apart : first ≠ place := by omega
        simp [Sign.acquired, Sign.endOfWait, apart]
      rw [Sign.entering_succ, List.findSome?_cons, further]
      exact ih (by omega)

theorem call?_of_modify (found : system.tasks[index]? = some state) {next : System}
    {change : TaskState → TaskState} (tasks : next.tasks = system.tasks.modify index change) :
    next.call? index = (change state).call? := by
  rw [call?, tasks, Array.getElem?_modify, if_pos rfl, found]
  rfl

theorem outcome?_of_modify (found : system.tasks[index]? = some state) {next : System}
    {change : TaskState → TaskState} (tasks : next.tasks = system.tasks.modify index change) :
    next.outcome? index = (change state).outcome := by
  rw [outcome?, tasks, Array.getElem?_modify, if_pos rfl, found]
  rfl

/-- What the limiters told a job in its turn. -/
theorem reply_of_job {signs : List Sign} (told : (system.turn index).signs = system.signs ++ signs)
    {outcome : Option Outcome} (ended : (system.turn index).outcome? index = outcome)
    (job : outcome = none ∨ (∃ result, outcome = some (.handled result)) ∨
      ∃ text, outcome = some (.panicked text)) (place : Nat) :
    system.reply index place = (signs.findSome? (Sign.endOfWait place)).getD .pending := by
  rw [reply, ended, taleIn_of_turn told]
  rcases job with rfl | ⟨result, rfl⟩ | ⟨text, rfl⟩ <;> rfl

theorem endOfWait_refused (uuid : String) (error : HandlerError) (place : Nat)
    (more : List Sign) :
    (Sign.refused uuid error place :: more).findSome? (Sign.endOfWait place) =
      some error.endOfWait := by
  cases error <;> simp [Sign.refused, Sign.endOfWait, HandlerError.endOfWait]

/-- A job that comes to the last handler has won the tokens of all limiters on its way. -/
theorem Enters.answered (enters : system.Enters index job context stage)
    (sound : ∀ place, place < system.limiters.length → (system.pool place).Sound)
    (outside : stage.isInside = false) {place : Nat}
    (come : stage.passed system.limiters.length ≤ place) (within : place < system.limiters.length) :
    system.answer index ⟨place, context, job.signal⟩ = .acquired := by
  rw [answer_of_free (enters.free outside) (sound place within)]
  exact enters.clears.granted place come within

theorem Answered.of_acquired {place : Nat}
    (won : system.answer index ⟨place, context, signal⟩ = .acquired)
    (replies : system.reply index place = .acquired)
    (ended : (system.turn index).call? index ≠ some ⟨place, context, signal⟩) :
    Answered index ⟨place, context, signal⟩ system where
  replies := by rw [replies, won]
  pending := by
    intro pending
    rw [won] at pending
    cases pending
  ended := fun _ => ended
  lost := by
    intro lost
    rw [won] at lost
    rcases lost with canceled | stale
    · cases canceled
    · cases stale

theorem Answered.of_entered {more : List Sign} {outcome : Option Outcome} {place : Nat}
    (enters : system.Enters index job context stage)
    (sound : ∀ place, place < system.limiters.length → (system.pool place).Sound)
    (outside : stage.isInside = false) (come : stage.passed system.limiters.length ≤ place)
    (within : place < system.limiters.length)
    (told : (system.turn index).signs = system.signs ++ (system.entry job context stage ++ more))
    (ended : (system.turn index).outcome? index = outcome)
    (handled : outcome = none ∨ (∃ result, outcome = some (.handled result)) ∨
      ∃ text, outcome = some (.panicked text))
    (left : (system.turn index).call? index = none) :
    Answered index ⟨place, context, job.signal⟩ system := by
  apply Answered.of_acquired (enters.answered sound outside come within)
  · rw [reply_of_job told ended handled, entry, if_neg (by simp [outside]), List.append_assoc,
      endOfWait_entering job.uuid come (by omega)]
    rfl
  · rw [left]
    simp

/-- A call that is given up ends, and what it costs is at most a place in the queue. -/
theorem Answered.of_lost {wait : Wait} {woken : Option Nat}
    (ends : wait = .canceled ∨ wait = .stale) (answers : system.answer index call = wait)
    (replies : system.reply index call.place = wait)
    (left : (system.turn index).call? index ≠ some call)
    (givesUp : (system.pool call.place).GivesUp index ((system.turn index).pool call.place) woken)
    (wakes : Wakes system (system.turn index) woken) : Answered index call system where
  replies := by rw [replies, answers]
  pending := by
    intro pending
    rw [answers] at pending
    rw [pending] at ends
    rcases ends with canceled | stale
    · cases canceled
    · cases stale
  ended := fun _ => left
  lost := fun _ => ⟨woken, givesUp, wakes⟩

/-- A call that goes on is pending, and claims nothing. -/
theorem Answered.of_pending (pending : system.answer index call = .pending)
    (replies : system.reply index call.place = .pending)
    (waiting : (system.turn index).call? index = some call)
    (refused : ((system.pool call.place).claim index).1 = .pending)
    (pool : (system.turn index).pool call.place = ((system.pool call.place).claim index).2) :
    Answered index call system where
  replies := by rw [replies, pending]
  pending := by
    intro _
    refine ⟨waiting, ?_⟩
    rw [pool]
    exact claim_of_pending refused
  ended := fun ended => absurd pending ended
  lost := by
    rw [pending]
    rintro (lost | lost) <;> cases lost

/-- A job that is refused in its turn makes one call, where it stands. -/
theorem Answered.of_gaveUp {error : HandlerError} {place : Nat}
    (found : system.tasks[index]? = some state)
    (come : stage.passed system.limiters.length ≤ place) (within : place < system.limiters.length)
    (won : ∀ earlier, stage.passed system.limiters.length ≤ earlier → earlier < place →
      system.answer index ⟨earlier, context, job.signal⟩ = .acquired)
    (refused : system.refusal context job.signal = some error)
    (tasks : (system.turn index).tasks = system.tasks.modify index
      fun state => { state with outcome := some (.handled (.error error)) })
    (signs : (system.turn index).signs = system.signs ++
      Sign.refused job.uuid error (stage.passed system.limiters.length) ::
        Sign.leaving job.uuid error 0 (stage.passed system.limiters.length))
    (pools : ∀ place, place < system.limiters.length → (system.turn index).pool place =
      system.forsaken index (stage.passed system.limiters.length) place)
    (wakes : Wakes system (system.turn index)
      ((system.pool (stage.passed system.limiters.length)).withdraw index).2) :
    Answered index ⟨place, context, job.signal⟩ system := by
  have answers (there : Nat) :
      system.answer index ⟨there, context, job.signal⟩ = error.endOfWait :=
    answer_of_refused refused
  have here : place = stage.passed system.limiters.length := by
    by_contra further
    have before := won _ (Nat.le_refl _) (by omega)
    rw [answers] at before
    cases error <;> cases before
  have ended := outcome?_of_modify found tasks
  subst here
  apply Answered.of_lost _ (answers _) _ _ _ wakes
  · cases error with
    | canceled cause => exact Or.inl rfl
    | _ => exact Or.inr rfl
  · rw [reply_of_job signs ended (Or.inr (Or.inl ⟨_, rfl⟩)), endOfWait_refused]
    rfl
  · rw [call?_of_modify found tasks]
    intro same
    cases same
  · rw [pools _ within, forsaken, if_neg (Nat.lt_irrefl _), if_pos rfl]
    exact Pool.withdraw_givesUp _ _

/-- A job that comes to wait wins all its calls but the last one, which goes on. -/
theorem Answered.of_waits {place reached since : Nat}
    (found : system.tasks[index]? = some state) (unfinished : state.outcome = none)
    (sound : ∀ place, place < system.limiters.length → (system.pool place).Sound)
    (come : stage.passed system.limiters.length ≤ place) (within : place < system.limiters.length)
    (won : ∀ earlier, stage.passed system.limiters.length ≤ earlier → earlier < place →
      system.answer index ⟨earlier, context, job.signal⟩ = .acquired)
    (free : system.refusal context job.signal = none)
    (clears : system.Clears index (stage.passed system.limiters.length) reached)
    (short : reached < system.limiters.length)
    (tasks : (system.turn index).tasks = system.tasks.modify index
      fun state => { state with task := .admission job context (.waiting reached since) })
    (signs : (system.turn index).signs = system.signs ++
      Sign.entering job.uuid (stage.passed system.limiters.length)
        (reached - stage.passed system.limiters.length))
    (pools : ∀ place, place < system.limiters.length → (system.turn index).pool place =
      system.asked index (stage.passed system.limiters.length) reached place) :
    Answered index ⟨place, context, job.signal⟩ system := by
  have answers {there : Nat} (inside : there < system.limiters.length) :
      system.answer index ⟨there, context, job.signal⟩ = ((system.pool there).claim index).1 :=
    answer_of_free free (sound there inside)
  have notFurther : place ≤ reached := by
    by_contra further
    have before := won reached clears.further (by omega)
    rw [answers short, clears.refused short] at before
    cases before
  have ended := (outcome?_of_modify found tasks).trans unfinished
  have waiting : (system.turn index).call? index = some ⟨reached, context, job.signal⟩ := by
    rw [call?_of_modify found tasks]
    simp [TaskState.call?, unfinished]
  by_cases here : place = reached
  · subst here
    have untold : (Sign.entering job.uuid (stage.passed system.limiters.length)
        (place - stage.passed system.limiters.length)).findSome? (Sign.endOfWait place) = none :=
      endOfWait_entering_of_le job.uuid (by omega)
    apply Answered.of_pending _ _ waiting (clears.refused short)
    · rw [pools place within, asked, if_pos ⟨come, Nat.le_refl _⟩]
    · rw [answers short, clears.refused short]
    · rw [reply_of_job signs ended (Or.inl rfl), untold]
      rfl
  · have told : place < stage.passed system.limiters.length +
        (reached - stage.passed system.limiters.length) := by omega
    have replied := endOfWait_entering job.uuid come told []
    rw [List.append_nil] at replied
    apply Answered.of_acquired
    · rw [answers within]
      exact clears.granted place come (by omega)
    · rw [reply_of_job signs ended (Or.inl rfl), replied]
      rfl
    · rw [waiting]
      intro same
      cases same
      exact here rfl

/-- The calls of a job in its turn. -/
theorem Answered.of_jobMoves (found : system.tasks[index]? = some state)
    (unfinished : state.outcome = none) (sound : ∀ place, place < system.limiters.length →
      (system.pool place).Sound)
    (outside : stage.isInside = false) {place : Nat}
    (come : stage.passed system.limiters.length ≤ place) (within : place < system.limiters.length)
    (won : ∀ earlier, stage.passed system.limiters.length ≤ earlier → earlier < place →
      system.answer index ⟨earlier, context, job.signal⟩ = .acquired)
    (step : JobMoves index job context stage system (system.turn index)) :
    Answered index ⟨place, context, job.signal⟩ system := by
  cases step with
  | gaveUp error _ refused tasks signs pools wakes =>
      exact .of_gaveUp found come within won refused tasks signs pools wakes
  | waits reached since _ free clears short tasks signs pools =>
      exact .of_waits found unfinished sound come within won free clears short tasks signs pools
  | heldUp holds enters tasks signs pools =>
      refine .of_entered enters sound outside come within (by rw [signs, List.append_nil])
        ((outcome?_of_modify found tasks).trans unfinished) (Or.inl rfl) ?_
      rw [call?_of_modify found tasks]
      simp [TaskState.call?, unfinished]
  | panicked text enters verdict tasks signs pools =>
      refine .of_entered enters sound outside come within (by rw [signs, List.append_nil])
        (outcome?_of_modify found tasks) (Or.inr (Or.inr ⟨_, rfl⟩)) ?_
      rw [call?_of_modify found tasks]
      rfl
  | answered result enters verdict tasks signs pools =>
      refine .of_entered enters sound outside come within signs
        (outcome?_of_modify found tasks) (Or.inr (Or.inl ⟨_, rfl⟩)) ?_
      rw [call?_of_modify found tasks]
      rfl

/-- A task that only acquires a token gives up its call. -/
theorem Answered.of_giveUp (ready : 0 < system.limiters.length)
    (found : system.tasks[index]? = some state) {wait : Wait} {outcome : Outcome}
    (answers : system.answer index ⟨0, context, signal⟩ = wait)
    (ends : wait = .canceled ∧ outcome = .canceled ∨ wait = .stale ∧ outcome = .stale)
    (turns : system.turn index = ((system.setPool 0 ((system.pool 0).withdraw index).1).noteAll
      (Notice.wokenOf ((system.pool 0).withdraw index).2)).finish index outcome) :
    Answered index ⟨0, context, signal⟩ system := by
  have tasks : (system.turn index).tasks = system.tasks.modify index
      fun state => { state with outcome := some outcome } := by
    rw [turns]
    simp
  have ended : (system.turn index).outcome? index = some outcome := outcome?_of_modify found tasks
  have wakes : Wakes system (system.turn index) ((system.pool 0).withdraw index).2 := by
    rw [turns]
    exact wakes_of_wokenOf (system.setPool 0 ((system.pool 0).withdraw index).1) rfl
      (finish_history _ _ _)
  apply Answered.of_lost _ answers _ _ _ wakes
  · rcases ends with ⟨canceled, -⟩ | ⟨stale, -⟩
    · exact Or.inl canceled
    · exact Or.inr stale
  · rw [reply, ended]
    rcases ends with ⟨rfl, rfl⟩ | ⟨rfl, rfl⟩ <;> rfl
  · rw [call?_of_modify found tasks]
    intro same
    cases same
  · rw [turns, finish_pool, noteAll_pool, pool_setPool ready, if_pos rfl]
    exact Pool.withdraw_givesUp _ _

/-- The call of a task that only acquires a token. -/
theorem Answered.of_acquire (ready : 0 < system.limiters.length)
    (found : system.tasks[index]? = some state) (unfinished : state.outcome = none)
    (task : state.task = .acquisition context signal) (sound : (system.pool 0).Sound)
    (turns : system.turn index = system.acquire index context signal) :
    Answered index ⟨0, context, signal⟩ system := by
  simp only [acquire, Pool.turn] at turns
  by_cases canceled : system.isCancelled context = true
  · simp only [canceled, if_true] at turns
    exact .of_giveUp ready found (by simp [answer, canceled]) (Or.inl ⟨rfl, rfl⟩) turns
  · by_cases stale : system.isFired signal = true
    · simp only [canceled, stale, Bool.false_eq_true, if_false, if_true] at turns
      exact .of_giveUp ready found (by simp [answer, canceled, stale]) (Or.inr ⟨rfl, rfl⟩) turns
    · simp only [canceled, stale, Bool.false_eq_true, if_false] at turns
      have free : system.refusal context signal = none :=
        refusal_eq_none.mpr ⟨by simpa using canceled, by simpa using stale⟩
      have answers : system.answer index ⟨0, context, signal⟩ =
          ((system.pool 0).claim index).1 := answer_of_free free sound
      rcases (system.pool 0).claim_answer index with refused | granted
      · rw [refused] at turns answers
        have next : system.turn index = system.setPool 0 ((system.pool 0).claim index).2 := turns
        have silent : (system.turn index).signs = system.signs ++ [] := by
          rw [next]
          simp
        apply Answered.of_pending answers _ _ refused
        · rw [next, pool_setPool ready, if_pos rfl]
        · rw [reply_of_job silent _ (Or.inl rfl)]
          · rfl
          · simp [next, outcome?, found, unfinished]
        · simp [next, call?, found, TaskState.call?, unfinished, task]
      · rw [granted] at turns answers
        have tasks : (system.turn index).tasks = system.tasks.modify index
            fun state => { state with outcome := some .acquired } := by
          rw [turns]
          simp
        apply Answered.of_acquired answers
        · rw [reply, outcome?_of_modify found tasks]
        · rw [call?_of_modify found tasks]
          intro same
          cases same

theorem Answered.of_asks (asks : Asks index system call)
    (ready : 0 < system.limiters.length)
    (sound : ∀ place, place < system.limiters.length → (system.pool place).Sound)
    (placed : system.Placed) : Answered index call system := by
  cases asks with
  | acquisition state context signal found unfinished unmarked task =>
      apply Answered.of_acquire ready found unfinished task (sound 0 ready)
      simp [turn, found, unfinished, unmarked, task]
  | admission state job context stage place found unfinished unmarked task outside come within
      won =>
      apply Answered.of_jobMoves found unfinished sound outside come within won
      apply JobMoves.of_turn found task unfinished unmarked
      exact placed index state job context stage found task unfinished

/-! ### Calls that are dropped -/

theorem withdraw_notices {place : Nat} {limiters : List Limiter} {limiter : Limiter}
    (found : limiters[place]? = some limiter) (task : Nat) :
    (Chain.withdraw task place limiters).2 = Notice.wokenOf (limiter.pool.withdraw task).2 := by
  induction limiters generalizing place with
  | nil => cases found
  | cons first rest ih =>
      cases place with
      | zero =>
          cases found
          rfl
      | succ place => exact ih found

/-- A task that is dropped gives up its call. -/
theorem dropTask_givesUp (called : state.call? = some call)
    (within : call.place < system.limiters.length) :
    ∃ woken, (system.pool call.place).GivesUp index
      ((system.dropTask index state.task).pool call.place) woken ∧
        Wakes system (system.dropTask index state.task) woken := by
  refine ⟨((system.pool call.place).withdraw index).2, ?_⟩
  rcases state with ⟨task, isAborted, outcome⟩
  cases outcome with
  | some outcome => cases called
  | none =>
      cases task with
      | acquisition context signal =>
          cases called
          constructor
          · simp only [dropTask, finish_pool, noteAll_pool, pool_setPool within, if_true]
            exact Pool.withdraw_givesUp _ _
          · exact wakes_of_wokenOf (system.setPool 0 ((system.pool 0).withdraw index).1) rfl
              (finish_history _ _ _)
      | admission job context stage =>
          cases stage with
          | waiting place since =>
              cases called
              have found : system.limiters[place]? = some system.limiters[place] :=
                List.getElem?_eq_getElem within
              constructor
              · rw [dropTask_pool system index job context place since within, if_pos rfl]
                exact Pool.withdraw_givesUp _ _
              · refine wakes_of_wokenOf { system with
                  limiters := (Chain.withdraw index place system.limiters).1 } rfl ?_
                rw [pool_of_getElem? found, ← withdraw_notices found]
                exact finish_history _ _ _
          | _ => cases called
      | _ => cases called

end Answers

/-- How a call that has not ended goes on in a run. -/
inductive Race (index : Nat) (call : Call) : System → List Move → Prop where
  | unended (system : System) : Race index call system []
  /-- A move of others, or one that only marks the task, leaves the call alone. -/
  | apart {system : System} {move : Move} {rest : List Move}
      (others : move ≠ .turn index ∧ move ≠ .drop index)
      (going : (system.perform move).call? index = some call)
      (later : Race index call (system.perform move) rest) : Race index call system (move :: rest)
  /-- None of the three conditions is ready at a turn, and the call goes on. -/
  | unready {system : System} {rest : List Move} (waits : system.answer index call = .pending)
      (answered : Answered index call system) (later : Race index call (system.turn index) rest) :
      Race index call system (.turn index :: rest)
  /-- At the first turn at which one of them is ready the call ends. -/
  | ended {system : System} {rest : List Move} (ready : system.answer index call ≠ .pending)
      (answered : Answered index call system) : Race index call system (.turn index :: rest)
  | dropped {system : System} {move : Move} {rest : List Move} (state : TaskState)
      (found : system.tasks[index]? = some state)
      (cause : move = .drop index ∨ move = .turn index ∧ state.isAborted = true)
      (outcome : (system.perform move).outcome? index = some .aborted) (woken : Option Nat)
      (givesUp : (system.pool call.place).GivesUp index
        ((system.perform move).pool call.place) woken)
      (wakes : Wakes system (system.perform move) woken) : Race index call system (move :: rest)

section Races

variable {start system : System} {moves later : List Move} {index : Nat} {call : Call}
  {state : TaskState}

theorem asks_of_call? (found : system.tasks[index]? = some state)
    (called : state.call? = some call) (unmarked : state.isAborted = false)
    (within : call.place < system.limiters.length) : Asks index system call := by
  rcases state with ⟨task, isAborted, outcome⟩
  cases outcome with
  | some outcome => cases called
  | none =>
      cases task with
      | acquisition context signal =>
          cases called
          exact .acquisition _ context signal found rfl unmarked rfl
      | admission job context stage =>
          cases stage with
          | waiting place since =>
              cases called
              refine .admission _ job context _ place found rfl unmarked rfl rfl (Nat.le_refl _)
                within ?_
              intro earlier from_ before
              exact absurd from_ (Nat.not_le.mpr before)
          | _ => cases called
      | _ => cases called

/-- A call is made at a limiter of the chain. -/
theorem place_lt_of_call? (ready : 0 < system.limiters.length) (placed : system.Placed)
    (found : system.tasks[index]? = some state) (called : state.call? = some call) :
    call.place < system.limiters.length := by
  rcases state with ⟨task, isAborted, outcome⟩
  cases outcome with
  | some outcome => cases called
  | none =>
      cases task with
      | acquisition context signal =>
          cases called
          exact ready
      | admission job context stage =>
          cases stage with
          | waiting place since =>
              cases called
              exact placed index _ job context _ found rfl rfl rfl
          | _ => cases called
      | _ => cases called

theorem outcome_of_call? (called : state.call? = some call) : state.outcome = none := by
  rcases state with ⟨task, isAborted, outcome⟩
  cases outcome with
  | some outcome => cases called
  | none => rfl

/-- What one move does to a call that has not ended. -/
theorem Race.cons (ready : 0 < system.limiters.length)
    (sound : ∀ place, place < system.limiters.length → (system.pool place).Sound)
    (placed : system.Placed) (called : system.call? index = some call) (move : Move)
    (rest : List Move) (goesOn : (system.perform move).call? index = some call →
      Race index call (system.perform move) rest) : Race index call system (move :: rest) := by
  rcases Option.bind_eq_some_iff.mp called with ⟨state, found, own⟩
  have unfinished := outcome_of_call? own
  have within := place_lt_of_call? ready placed found own
  have dropping (step : system.perform move = system.dropTask index state.task)
      (cause : move = .drop index ∨ move = .turn index ∧ state.isAborted = true) :
      Race index call system (move :: rest) := by
    have ended : (system.perform move).outcome? index = some .aborted := by
      rw [step]
      exact outcome?_of_modify found (dropTask_frame system index state.task).1
    rcases dropTask_givesUp own within with ⟨woken, givesUp, wakes⟩
    exact .dropped state found cause ended woken (by rw [step]; exact givesUp)
      (by rw [step]; exact wakes)
  by_cases turns : move = .turn index
  · subst turns
    cases marked : state.isAborted with
    | true => exact dropping (turn_of_isAborted found unfinished marked) (Or.inr ⟨rfl, marked⟩)
    | false =>
        have answered : Answered index call system :=
          .of_asks (asks_of_call? found own marked within) ready sound placed
        by_cases waits : system.answer index call = .pending
        · exact .unready waits answered (goesOn (answered.pending waits).1)
        · exact .ended waits answered
  · by_cases drops : move = .drop index
    · subst drops
      apply dropping _ (Or.inl rfl)
      simp [perform, dropNow, found, unfinished]
    · have going : (system.perform move).call? index = some call := by
        cases next : (system.perform move).tasks[index]? with
        | none =>
            rw [absent_of_perform next] at found
            cases found
        | some after =>
            cases Befalls.of_perform next with
            | kept before present sameTask sameOutcome _ =>
                rw [found, Option.some.injEq] at present
                subst present
                rw [call?, next]
                simpa [TaskState.call?, sameTask, sameOutcome] using own
            | began absent _ =>
                rw [found] at absent
                cases absent
            | dropped before present _ _ _ cause =>
                rcases cause with own | ⟨own, -⟩
                · exact absurd own drops
                · exact absurd own turns
            | turned before present _ _ own => exact absurd own turns
      exact .apart ⟨turns, drops⟩ going (goesOn going)

end Races

/-- In every run each call for a token ends at the first of its turns at which one of its three
conditions is ready, with the answer that the first of these gives; a call that ends without a token,
or is dropped, costs nothing. -/
theorem race_of_startsArriving (start : System) (limited : 0 < start.limiters.length)
    (created : ∀ limiter ∈ start.limiters, Pool.create limiter.pool.capacity = .ok limiter.pool)
    (idle : start.tasks = #[]) (moves later : List Move)
    (arriving : ∀ move ∈ moves ++ later, move.startsArriving = true) (index : Nat) (call : Call) :
    ((start.run moves).call? index = some call → Race index call (start.run moves) later) ∧
      (Asks index (start.run moves) call → Answered index call (start.run moves)) := by
  have known {moves : List Move} (arriving : ∀ move ∈ moves, move.startsArriving = true) :
      0 < (start.run moves).limiters.length ∧ (start.run moves).Placed ∧
        ∀ place, place < (start.run moves).limiters.length →
          ((start.run moves).pool place).Sound := by
    have reaches := run_reaches start moves
    refine ⟨by rwa [reaches.length], placed_of_run limited idle arriving, ?_⟩
    intro place inside
    rw [reaches.length] at inside
    apply (reaches.pool inside).sound
    rw [pool_of_getElem? (List.getElem?_eq_getElem inside),
      Pool.eq_full_of_create (created _ (List.getElem_mem inside))]
    exact Pool.full_sound _
  constructor
  · intro called
    induction later generalizing moves with
    | nil => exact .unended _
    | cons move rest ih =>
        rcases known (fun other member => arriving other (List.mem_append_left _ member)) with
          ⟨ready, placed, sound⟩
        apply Race.cons ready sound placed called
        intro going
        have next : start.run (moves ++ [move]) = (start.run moves).perform move :=
          run_append start moves [move]
        rw [← next] at going ⊢
        exact ih (moves ++ [move]) (by simpa using arriving) going
  · intro asks
    rcases known (fun other member => arriving other (List.mem_append_left _ member)) with
      ⟨ready, placed, sound⟩
    exact .of_asks asks ready sound placed

/-- Two tasks wait for the only token. -/
def lining : List Move :=
  [.elsewhere .createContext, .elsewhere .createContext, .elsewhere (.createSignal false),
    .tryAcquire 0, .start (.acquisition ⟨⟨1, 1⟩, []⟩ 0), .start (.acquisition ⟨⟨0, 0⟩, []⟩ 0),
    .turn 0, .turn 1]

/-- The token is handed to the first one, whose context is cancelled before it has a turn. -/
def lapsing : List Move :=
  [.tryRelease 0, .elsewhere (.cancel ⟨⟨1, 1⟩, []⟩ none), .turn 1, .turn 0]

theorem race_lapsing :
    (((single (.full 1)).run lining).call? 0 = some ⟨0, ⟨⟨1, 1⟩, []⟩, 0⟩ ∧
      Race 0 ⟨0, ⟨⟨1, 1⟩, []⟩, 0⟩ ((single (.full 1)).run lining) lapsing) ∧
    Answered 1 ⟨0, ⟨⟨0, 0⟩, []⟩, 0⟩ ((single (.full 1)).run lining) ∧
    ((single (.full 1)).run (lining ++ lapsing)).outcome? 0 = some .canceled ∧
    ((single (.full 1)).run (lining ++ lapsing)).outcome? 1 = none ∧
    ((single (.full 1)).run (lining ++ lapsing)).pool 0 =
      { capacity := 1, available := 0, inUse := 0, queue := [], handed := [1] } := by
  have created : ∀ limiter ∈ (single (.full 1)).limiters,
      Pool.create limiter.pool.capacity = .ok limiter.pool := by
    intro limiter member
    rw [List.mem_singleton.mp member]
    rfl
  have races := race_of_startsArriving (single (.full 1)) (by decide) created rfl lining lapsing
    (by decide)
  refine ⟨⟨rfl, (races 0 ⟨0, ⟨⟨1, 1⟩, []⟩, 0⟩).1 rfl⟩, (races 1 ⟨0, ⟨⟨0, 0⟩, []⟩, 0⟩).2 ?_,
    by decide +kernel, by decide +kernel, by decide +kernel⟩
  exact .acquisition _ ⟨⟨0, 0⟩, []⟩ 0 rfl rfl rfl rfl

end System

end Admission
