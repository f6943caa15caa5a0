import Admission.Proofs.Course
import Admission.Proofs.Passages
import Admission.Proofs.PoolCalls

/-!
# What the turn of a job does

`JobMoves` lists everything that a turn of a job can do in a chain of any length: the job is refused
at the limiter that it has come to, it waits at one, or it is with the last handler at the end of the
turn, which holds it up, is brought down by a fault, or answers. Each case says what becomes of the
job, which signs the turn gives, and what it does to the pool at every place.

The pool at a place is used as a caller of the limiter there would see it: a claim when the job comes
to it, and one token given back after the later handler has failed.
-/

namespace Admission

/-- How many of the limiters of a chain a job has passed. -/
def Stage.passed (length : Nat) : Stage → Nat
  | arriving => 0
  | waiting place _ => place
  | inside _ => length

/-- Whether a job is with the last handler. -/
def Stage.isInside : Stage → Bool
  | inside _ => true
  | _ => false

theorem Stage.isBeyond_eq (stage : Stage) {place length : Nat} (inside : place < length) :
    stage.isBeyond place = decide (place < stage.passed length) := by
  cases stage with
  | arriving => rfl
  | waiting reached since => rfl
  | inside holds => exact (decide_eq_true inside).symm

/-- What the last handler returns, unless it is brought down by a fault. -/
def Verdict.result? : Verdict → Option (Except HandlerError Unit)
  | panics _ => none
  | fails error => some (.error error)
  | succeeds _ => some (.ok ())

/-- What a limiter does with its pool when the later handler has returned. -/
def Pool.settled (result : Except HandlerError Unit) (pool : Pool) : Pool :=
  match result with
  | .ok _ => pool
  | .error _ => pool.tryRelease.2.1

namespace System

/-- Why a wait for a token is given up at a turn, if it is. -/
def refusal (system : System) (context : Context) (signal : Nat) : Option HandlerError :=
  match system.cancellation.cause context with
  | some cause => some (.canceled cause)
  | none => if system.isFired signal then some .staleJob else none

/-- The limiters from one place up to another have a token for a task, and the next one has none. -/
structure Clears (system : System) (task passed reached : Nat) : Prop where
  further : passed ≤ reached
  within : reached ≤ system.limiters.length
  granted : ∀ place, passed ≤ place → place < reached →
    ((system.pool place).claim task).1 = .acquired
  refused : reached < system.limiters.length → ((system.pool reached).claim task).1 = .pending

/-- The pool at a place after a task has asked for a token at several places. -/
def asked (system : System) (task passed reached place : Nat) : Pool :=
  if passed ≤ place ∧ place ≤ reached then ((system.pool place).claim task).2
  else system.pool place

/-- The pool at a place after a task was refused at another. -/
def forsaken (system : System) (task passed place : Nat) : Pool :=
  if place < passed then (system.pool place).tryRelease.2.1
  else if place = passed then ((system.pool place).withdraw task).1
  else system.pool place

/-- A job comes to the last handler, or is there. -/
structure Enters (index : Nat) (job : Job) (context : Context) (stage : Stage) (system : System) :
    Prop where
  free : stage.isInside = false → system.refusal context job.signal = none
  clears : system.Clears index (stage.passed system.limiters.length) system.limiters.length

/-- The signs of a job on its way from a stage to the last handler. -/
def entry (job : Job) (context : Context) (stage : Stage) (system : System) : List Sign :=
  if stage.isInside then []
  else
    Sign.entering job.uuid (stage.passed system.limiters.length)
      (system.limiters.length - stage.passed system.limiters.length) ++
        [.called job (system.isCancelled context) (system.isFired job.signal)]

/-- Everything that the turn of a job can do. -/
inductive JobMoves (index : Nat) (job : Job) (context : Context) (stage : Stage)
    (system next : System) : Prop where
  /-- It is refused at the limiter that it has come to. -/
  | gaveUp (error : HandlerError) (outside : stage.isInside = false)
      (refused : system.refusal context job.signal = some error)
      (tasks : next.tasks = system.tasks.modify index
        fun state => { state with outcome := some (.handled (.error error)) })
      (signs : next.signs = system.signs ++
        Sign.refused job.uuid error (stage.passed system.limiters.length) ::
          Sign.leaving job.uuid error 0 (stage.passed system.limiters.length))
      (pools : ∀ place, place < system.limiters.length →
        next.pool place = system.forsaken index (stage.passed system.limiters.length) place)
      (wakes : Wakes system next
        ((system.pool (stage.passed system.limiters.length)).withdraw index).2)
  /-- It waits at a limiter. -/
  | waits (reached since : Nat) (outside : stage.isInside = false)
      (free : system.refusal context job.signal = none)
      (clears : system.Clears index (stage.passed system.limiters.length) reached)
      (short : reached < system.limiters.length)
      (tasks : next.tasks = system.tasks.modify index
        fun state => { state with task := .admission job context (.waiting reached since) })
      (signs : next.signs = system.signs ++
        Sign.entering job.uuid (stage.passed system.limiters.length)
          (reached - stage.passed system.limiters.length))
      (pools : ∀ place, place < system.limiters.length →
        next.pool place = system.asked index (stage.passed system.limiters.length) reached place)
  /-- The last handler holds it up. -/
  | heldUp (holds : List Hold) (enters : system.Enters index job context stage)
      (tasks : next.tasks = system.tasks.modify index
        fun state => { state with task := .admission job context (.inside holds) })
      (signs : next.signs = system.signs ++ system.entry job context stage)
      (pools : ∀ place, place < system.limiters.length → next.pool place =
        system.asked index (stage.passed system.limiters.length) system.limiters.length place)
  /-- The last handler is brought down by a fault. -/
  | panicked (text : String) (enters : system.Enters index job context stage)
      (verdict : system.verdictOn job context = .panics text)
      (tasks : next.tasks = system.tasks.modify index
        fun state => { state with outcome := some (.panicked text) })
      (signs : next.signs = system.signs ++ system.entry job context stage)
      (pools : ∀ place, place < system.limiters.length → next.pool place =
        system.asked index (stage.passed system.limiters.length) system.limiters.length place)
  /-- The last handler returns. -/
  | answered (result : Except HandlerError Unit) (enters : system.Enters index job context stage)
      (verdict : (system.verdictOn job context).result? = some result)
      (tasks : next.tasks = system.tasks.modify index
        fun state => { state with outcome := some (.handled result) })
      (signs : next.signs = system.signs ++ (system.entry job context stage ++
        Chain.closing job.uuid 0 system.limiters.length result))
      (pools : ∀ place, place < system.limiters.length → next.pool place =
        (system.asked index (stage.passed system.limiters.length) system.limiters.length
          place).settled result)

section Turns

variable {system before next : System} {index : Nat} {state : TaskState} {job : Job}
  {context : Context} {stage : Stage}

theorem noteAll_append (system : System) (notices more : List Notice) :
    system.noteAll (notices ++ more) = (system.noteAll notices).noteAll more :=
  List.foldl_append

theorem noteAll_history (system : System) (notices : List Notice) :
    system.history.toList <+: (system.noteAll notices).history.toList := by
  induction notices generalizing system with
  | nil => exact List.prefix_refl _
  | cons notice rest ih => exact (note_history system notice).trans (ih _)

theorem setTask_tasks (tasks : before.tasks = system.tasks) (index : Nat) (task : Task) :
    (before.setTask index task).tasks =
      system.tasks.modify index fun state => { state with task } := by
  rw [(setTask_frame before index task).2.1, tasks]

theorem Clears.refl_length (system : System) (task : Nat) :
    system.Clears task system.limiters.length system.limiters.length where
  further := Nat.le_refl _
  within := Nat.le_refl _
  granted := by
    intro place later before
    omega
  refused := by
    intro short
    omega

/-- A task that has passed all limiters asks for no token. -/
theorem asked_of_length (system : System) (task : Nat) {place : Nat}
    (inside : place < system.limiters.length) :
    system.asked task system.limiters.length system.limiters.length place =
      system.pool place := by
  rw [asked, if_neg]
  omega

theorem concludeJob_pool (system : System) (index : Nat) (job : Job)
    (result : Except HandlerError Unit) {place : Nat} (inside : place < system.limiters.length) :
    (system.concludeJob index job result).pool place = (system.pool place).settled result := by
  cases result with
  | ok done =>
      rw [concludeJob, finish_pool, noteAll_pool]
      exact pool_congr (by rw [Chain.conclude_ok]) place
  | error error =>
      have found : system.limiters[place]? = some system.limiters[place] :=
        List.getElem?_eq_getElem inside
      simp only [concludeJob, finish_pool, noteAll_pool]
      simp [pool, Chain.conclude_error, found, Pool.settled]

theorem concludeJob_signs (system : System) (index : Nat) (job : Job)
    (result : Except HandlerError Unit) :
    (system.concludeJob index job result).signs =
      system.signs ++ Chain.closing job.uuid 0 system.limiters.length result := by
  rw [concludeJob, finish_signs, noteAll_signs, Chain.conclude_signs]
  rfl

/-- A job that is dropped while it waits leaves the queue that it stands in. -/
theorem dropTask_pool (system : System) (index : Nat) (job : Job) (context : Context)
    (reached since : Nat) {place : Nat} (inside : place < system.limiters.length) :
    (system.dropTask index (.admission job context (.waiting reached since))).pool place =
      if place = reached then ((system.pool place).withdraw index).1 else system.pool place := by
  have found : system.limiters[place]? = some system.limiters[place] :=
    List.getElem?_eq_getElem inside
  rw [dropTask, finish_pool, noteAll_pool, pool_of_getElem? found]
  simp only [pool, Chain.withdraw_limiters, List.getElem?_modify, found]
  by_cases here : place = reached
  · subst here
    simp
  · simp [here, Ne.symm here]

/-- The last handler goes on with a job, after what happened earlier in the turn. -/
theorem JobMoves.of_handleInside (enters : system.Enters index job context stage)
    (tasks : before.tasks = system.tasks)
    (rules : before.rules = system.rules) (cancellation : before.cancellation = system.cancellation)
    (length : before.limiters.length = system.limiters.length)
    (signs : before.signs = system.signs ++ system.entry job context stage)
    (pools : ∀ place, place < system.limiters.length → before.pool place =
      system.asked index (stage.passed system.limiters.length) system.limiters.length place)
    (holds : List Hold) :
    JobMoves index job context stage system
      (before.handleInside index job context holds) := by
  have verdict : (before.ruleFor job.uuid).verdict (before.isCancelled context) =
      system.verdictOn job context := by
    simp only [verdictOn, ruleFor, isCancelled, rules, cancellation]
  have answering {middle : System} {result : Except HandlerError Unit}
      (answers : (system.verdictOn job context).result? = some result)
      (sameTasks : middle.tasks = system.tasks)
      (limiters : middle.limiters = before.limiters) (same : middle.signs = before.signs) :
      JobMoves index job context stage system (middle.concludeJob index job result) := by
    refine .answered result enters answers (by simp [concludeJob, sameTasks]) ?_ ?_
    · rw [concludeJob_signs, same, signs, limiters, length, List.append_assoc]
    · intro place inside
      rw [concludeJob_pool middle index job result (by rwa [limiters, length]),
        pool_congr limiters, pools place inside]
  simp only [handleInside, verdict]
  split
  · split
    · rename_i text panics
      refine .panicked text enters panics (by simp [tasks]) ?_ ?_
      · rw [finish_signs, signs]
      · intro place inside
        rw [finish_pool, pools place inside]
    · rename_i error fails
      exact answering (by rw [fails]; rfl) tasks rfl rfl
    · rename_i starts succeeds
      refine answering (by rw [succeeds]; rfl) ?_ ?_ ?_
      · split <;> simp [tasks]
      · split <;> simp
      · split <;> simp
  · exact .heldUp _ enters (setTask_tasks tasks index _) signs pools

/-- What a job brings to the limiters in its turn. -/
def visitBy (system : System) (index : Nat) (job : Job) (context : Context) (since : Nat) : Visit where
  task := index
  uuid := job.uuid
  cause := system.cancellation.cause context
  isStale := system.isFired job.signal
  waited := .ofMilliseconds (system.now - since)

theorem visitBy_refusal (system : System) (index : Nat) (job : Job) (context : Context)
    (since : Nat) :
    (system.visitBy index job context since).refusal = system.refusal context job.signal := rfl

theorem exists_limiter {place : Nat} (inside : place < system.limiters.length) :
    ∃ limiter, system.limiters[place]? = some limiter ∧ system.pool place = limiter.pool :=
  ⟨_, List.getElem?_eq_getElem inside, pool_of_getElem? (List.getElem?_eq_getElem inside)⟩

/-- A job that has come to a limiter is refused there. -/
theorem JobMoves.of_leaves (outside : stage.isInside = false)
    (placed : stage.passed system.limiters.length < system.limiters.length) (since : Nat)
    {error : HandlerError} (refused : system.refusal context job.signal = some error) :
    JobMoves index job context stage system
      (system.admitJob index job context (stage.passed system.limiters.length) since) := by
  have leaves : Chain.Leaves index job.uuid error 0 (stage.passed system.limiters.length)
      system.limiters (Chain.advance 0 (stage.passed system.limiters.length)
        (system.visitBy index job context since) system.limiters) :=
    Chain.advance_leaves ((system.visitBy_refusal _ _ _ _).trans refused) 0 placed
  simp only [visitBy] at leaves
  simp only [admitJob]
  rw [leaves.passage]
  refine .gaveUp error outside refused (by simp) ?_ ?_ ?_
  · rw [finish_signs, noteAll_signs, leaves.signs, Nat.zero_add]
    rfl
  · intro place inside
    rcases exists_limiter inside with ⟨limiter, foundLimiter, same⟩
    rcases leaves.pools place limiter foundLimiter with ⟨after, foundAfter, pool⟩
    rw [finish_pool, noteAll_pool, forsaken, same]
    exact (pool_of_getElem? foundAfter).trans pool
  · rcases exists_limiter placed with ⟨limiter, foundLimiter, same⟩
    rcases leaves.wakes limiter foundLimiter with ⟨told, equal⟩
    rw [same]
    refine wakes_of_wokenOf
      { system with limiters := (Chain.advance 0 (stage.passed system.limiters.length)
          (system.visitBy index job context since) system.limiters).1 } rfl ?_
    refine List.IsPrefix.trans ?_ (finish_history _ _ _)
    rw [visitBy, ← equal, noteAll_append]
    exact noteAll_history _ told

theorem Clears.of_passes {passed reached : Nat} {result : List Limiter × Passage × List Notice}
    {uuid : String}
    (passes : Chain.Passes index uuid 0 passed reached system.limiters result) :
    system.Clears index passed reached := by
  refine ⟨passes.further, passes.within, ?_, ?_⟩
  · intro place later before
    rcases exists_limiter (Nat.lt_of_lt_of_le before passes.within) with ⟨limiter, inside, same⟩
    rw [same]
    exact passes.granted place limiter inside later before
  · intro short
    rcases exists_limiter short with ⟨limiter, inside, same⟩
    rw [same]
    exact passes.refused limiter inside

/-- A job that has come to a limiter goes on as far as there are tokens for it. -/
theorem JobMoves.of_passes (outside : stage.isInside = false)
    (placed : stage.passed system.limiters.length < system.limiters.length) (since : Nat)
    (free : system.refusal context job.signal = none) :
    JobMoves index job context stage system
      (system.admitJob index job context (stage.passed system.limiters.length) since) := by
  obtain ⟨reached, passes⟩ : ∃ reached, Chain.Passes index job.uuid 0
      (stage.passed system.limiters.length) reached system.limiters
        (Chain.advance 0 (stage.passed system.limiters.length)
          (system.visitBy index job context since) system.limiters) :=
    Chain.advance_passes ((system.visitBy_refusal _ _ _ _).trans free) 0 (Nat.le_of_lt placed)
  have clears := Clears.of_passes passes
  have pools (place : Nat) (inside : place < system.limiters.length) :
      (({ system with limiters := (Chain.advance 0 (stage.passed system.limiters.length)
          (system.visitBy index job context since) system.limiters).1 } : System).pool place) =
        system.asked index (stage.passed system.limiters.length) reached place := by
    rcases exists_limiter inside with ⟨limiter, foundLimiter, same⟩
    rcases passes.pools place limiter foundLimiter with ⟨after, foundAfter, pool⟩
    rw [asked, same]
    exact (pool_of_getElem? foundAfter).trans pool
  simp only [visitBy] at passes pools
  simp only [admitJob]
  rw [passes.passage]
  by_cases short : reached < system.limiters.length
  · rw [if_pos short, Nat.zero_add]
    refine .waits reached _ outside free clears short
      (setTask_tasks (noteAll_frame _ _).2.1 index _) ?_ ?_
    · rw [setTask_signs, noteAll_signs, passes.signs, Nat.zero_add]
      rfl
    · intro place inside
      rw [setTask_pool, noteAll_pool, pools place inside]
  · rw [if_neg short]
    have all : reached = system.limiters.length := by
      have := passes.within
      omega
    subst all
    refine of_handleInside ⟨fun _ => free, clears⟩ (by simp) (by simp) (by simp) ?_ ?_ ?_ _
    · simpa using (Chain.advance_reaches 0 _ _ system.limiters).length_eq.symm
    · rw [note_signs, noteAll_signs, passes.signs, entry, if_neg (by simp [outside]),
        Nat.zero_add, List.append_assoc]
      simp only [Notice.signs_forwarded, isCancelled, isFired, noteAll_frame]
      rfl
    · intro place inside
      rw [note_pool, noteAll_pool, pools place inside]

theorem JobMoves.of_admitJob (outside : stage.isInside = false)
    (placed : stage.passed system.limiters.length < system.limiters.length) (since : Nat) :
    JobMoves index job context stage system
      (system.admitJob index job context (stage.passed system.limiters.length) since) := by
  cases refused : system.refusal context job.signal with
  | some error => exact of_leaves outside placed since refused
  | none => exact of_passes outside placed since refused

/-- The turn of a job that is not to be dropped does nothing else. -/
theorem JobMoves.of_turn (found : system.tasks[index]? = some state)
    (task : state.task = .admission job context stage) (unfinished : state.outcome = none)
    (unmarked : state.isAborted = false)
    (placed : stage.isInside = false →
      stage.passed system.limiters.length < system.limiters.length) :
    JobMoves index job context stage system (system.turn index) := by
  simp only [turn, found, unfinished, unmarked, task, Option.isSome_none, Bool.false_eq_true,
    if_false]
  cases stage with
  | arriving => exact of_admitJob rfl (placed rfl) system.now
  | waiting place since => exact of_admitJob rfl (placed rfl) since
  | inside holds =>
      have enters : system.Enters index job context (.inside holds) :=
        ⟨by simp [Stage.isInside], Clears.refl_length system index⟩
      refine of_handleInside enters rfl rfl rfl rfl (List.append_nil _).symm ?_ holds
      intro place inside
      exact (asked_of_length system index inside).symm

end Turns

end System

end Admission
