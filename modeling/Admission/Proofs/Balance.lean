import Admission.Proofs.Stories

/-!
# What the stories of all jobs add up to

In every run each job has a story, whatever the others do. In the moves of its own it calls each pool
at most once to ask for a token, or to leave its place in the queue, and gives a token back exactly
when it tells so. As many tokens were won at a place as were taken back there, are held by a job with
the next handler, were kept by a job that succeeded, or were left by a job that broke off.
-/

namespace Admission

/-- Whether a move starts no job but those that have yet to have a turn, and publishes no event of
admission from outside. -/
def Move.isGenuine : Move → Bool
  | .start (.admission _ _ stage) => stage == .arriving
  | .elsewhere (.publish _ event) => !event.kind.isAdmission
  | _ => true

theorem Move.startsArriving_of_isGenuine {move : Move} (genuine : move.isGenuine = true) :
    move.startsArriving = true := by
  cases move with
  | start task => cases task <;> first | rfl | exact genuine
  | _ => rfl

/-- What becomes of a pool that a waiter calls at most once, for a token or to give up its place. -/
inductive Pool.Asks (waiter : Nat) (pool : Pool) : Pool → Prop where
  | nothing : Asks waiter pool pool
  | claim : Asks waiter pool (pool.claim waiter).2
  | withdraw : Asks waiter pool (pool.withdraw waiter).1

namespace System

/-- What a move of a job's own does, apart from its story. -/
structure OwnMove (index : Nat) (job : Job) (context : Context) (system : System) (move : Move) :
    Prop where
  /-- The last handler is called with the job and the context that the job came with. -/
  calls : ∀ called isCanceled isStale,
    .called called isCanceled isStale ∈ system.taleIn index move →
      called = job ∧ isCanceled = system.isCancelled context ∧
        isStale = system.isFired job.signal
  /-- A token is given back where this is told, once, and nowhere else. -/
  settles : ∀ place, place < system.limiters.length →
    ∃ asked, (system.pool place).Asks index asked ∧
      ((system.taleIn index move).countP (Sign.tells .tokenReturned place) = 0 ∧
          (system.perform move).pool place = asked ∨
        (system.taleIn index move).countP (Sign.tells .tokenReturned place) = 1 ∧
          (system.perform move).pool place = asked.tryRelease.2.1)

/-- The story of a job after a run. -/
structure Story (start : System) (moves : List Move) (index : Nat) (job : Job)
    (context : Context) (stage : Stage) (outcome : Option Outcome) : Prop where
  narrated : Narrated start moves index job context (start.tale moves index) stage outcome
  /-- Whatever became of the job, its tale is the beginning of a story. -/
  begins : ∃ decided rest result,
    Handling decided job context 0 start.limiters.length (start.tale moves index ++ rest) result
  ownMoves : ∀ early move late, moves = early ++ move :: late →
    move = .turn index ∨ move = .drop index →
      OwnMove index job context (start.run early) move

section Stories

variable {start system : System} {moves : List Move} {index : Nat} {state : TaskState} {job : Job}
  {context : Context} {tale : List Sign} {stage : Stage} {outcome : Option Outcome}

/-- From the last handler a job may always succeed. -/
theorem Handling.of_entering (job : Job) (context : Context) (length : Nat)
    (isCanceled isStale : Bool) :
    Handling {} job context 0 length
      (Sign.entering job.uuid 0 length ++ [.called job isCanceled isStale]) (.ok ()) := by
  have last : Handling {} job context (0 + length) 0 [.called job isCanceled isStale] (.ok ()) :=
    .answered isCanceled isStale rfl
  have whole := last.within
  rwa [Nat.zero_add, Chain.closing, List.append_nil] at whole

theorem Narrated.begins (narrated : Narrated start moves index job context tale stage outcome) :
    ∃ decided rest result,
      Handling decided job context 0 start.limiters.length (tale ++ rest) result := by
  cases narrated with
  | onTheWay _ _ placed told =>
      have succeeding := Handling.of_entering job context start.limiters.length false false
      have joined := Sign.entering_append job.uuid 0 (stage.passed start.limiters.length)
        (start.limiters.length - stage.passed start.limiters.length)
      rw [Nat.add_sub_cancel' (Nat.le_of_lt placed)] at joined
      rw [← joined, List.append_assoc, ← told] at succeeding
      exact ⟨_, _, _, succeeding⟩
  | inside isCanceled isStale _ told =>
      have succeeding := Handling.of_entering job context start.limiters.length isCanceled isStale
      exact ⟨_, [], _, by rw [told, List.append_nil]; exact succeeding⟩
  | brokenOff isCanceled isStale told =>
      have succeeding := Handling.of_entering job context start.limiters.length isCanceled isStale
      exact ⟨_, [], _, by rw [told, List.append_nil]; exact succeeding⟩
  | @handled _ result early _ _ _ story =>
      exact ⟨start.run early, [], result, by rwa [List.append_nil]⟩

/-! ### Moves of a job's own -/

theorem OwnMove.of_silent {move : Move} (silent : system.taleIn index move = [])
    (asks : ∀ place, place < system.limiters.length →
      (system.pool place).Asks index ((system.perform move).pool place)) :
    OwnMove index job context system move where
  calls := by
    intro called isCanceled isStale member
    rw [silent] at member
    cases member
  settles := by
    intro place inside
    exact ⟨_, asks place inside, Or.inl ⟨by rw [silent]; rfl, rfl⟩⟩

theorem OwnMove.of_same {move : Move} (same : system.perform move = system) :
    OwnMove index job context system move := by
  apply OwnMove.of_silent
  · exact taleIn_eq_nil (Or.inl (by rw [same]))
  · intro place _
    rw [same]
    exact .nothing

theorem dropTask_asks (task : state.task = .admission job context stage) {place : Nat}
    (inside : place < system.limiters.length) :
    (system.pool place).Asks index ((system.dropTask index state.task).pool place) := by
  have unchanged : (system.pool place).Asks index
      ((system.finish index .aborted).pool place) := by
    rw [finish_pool]
    exact .nothing
  rw [task]
  cases stage with
  | arriving => exact unchanged
  | inside holds => exact unchanged
  | waiting reached since =>
      rw [dropTask_pool system index job context reached since inside]
      split
      · exact .withdraw
      · exact .nothing

theorem OwnMove.of_dropTask (task : state.task = .admission job context stage) {move : Move}
    (step : system.perform move = system.dropTask index state.task) :
    OwnMove index job context system move := by
  apply OwnMove.of_silent
  · exact taleIn_eq_nil (Or.inl (by rw [step, dropTask_signs]))
  · intro place inside
    rw [step]
    exact dropTask_asks task inside

theorem asked_asks (system : System) (task passed reached place : Nat) :
    (system.pool place).Asks task (system.asked task passed reached place) := by
  rw [asked]
  split
  · exact .claim
  · exact .nothing

/-- Among the signs of a limiter there is no call of the last handler. -/
theorem not_called_of_entering (uuid : String) (first count : Nat) (called : Job)
    (isCanceled isStale : Bool) :
    .called called isCanceled isStale ∉ Sign.entering uuid first count := by
  simp [Sign.entering, Sign.acquired]

theorem not_called_of_leaving (uuid : String) (error : HandlerError) (first count : Nat)
    (called : Job) (isCanceled isStale : Bool) :
    .called called isCanceled isStale ∉ Sign.leaving uuid error first count := by
  simp [Sign.leaving, Sign.returned]

theorem not_called_of_closing (uuid : String) (result : Except HandlerError Unit)
    (first count : Nat) (called : Job) (isCanceled isStale : Bool) :
    .called called isCanceled isStale ∉ Chain.closing uuid first count result := by
  cases result with
  | ok done => exact List.not_mem_nil
  | error error => exact not_called_of_leaving uuid error first count called isCanceled isStale

theorem called_of_entry {called : Job} {isCanceled isStale : Bool}
    (member : .called called isCanceled isStale ∈ system.entry job context stage) :
    called = job ∧ isCanceled = system.isCancelled context ∧
      isStale = system.isFired job.signal := by
  rw [entry] at member
  split at member
  · cases member
  · rcases List.mem_append.mp member with early | last
    · exact absurd early (not_called_of_entering _ _ _ _ _ _)
    · simpa using last

theorem countP_entry_of_ne (system : System) (job : Job) (context : Context) (stage : Stage)
    (place : Nat) {kind : EventKind} (other : kind ≠ .tokenAcquired) :
    (system.entry job context stage).countP (Sign.tells kind place) = 0 := by
  rw [entry]
  split
  · rfl
  · rw [List.countP_append, Sign.countP_entering_of_ne _ _ _ _ other]
    rfl

/-- A job on its way to the last handler gives nothing back. -/
theorem countP_entry (system : System) (job : Job) (context : Context) (stage : Stage)
    (place : Nat) :
    (system.entry job context stage).countP (Sign.tells .tokenReturned place) = 0 :=
  countP_entry_of_ne system job context stage place (by decide)

/-- A turn in which a job asks at most for tokens, and no limiter takes one back. -/
theorem OwnMove.of_asked {signs : List Sign} {reached : Nat}
    (told : (system.turn index).signs = system.signs ++ signs)
    (calls : ∀ called isCanceled isStale, .called called isCanceled isStale ∈ signs →
      called = job ∧ isCanceled = system.isCancelled context ∧ isStale = system.isFired job.signal)
    (unreturned : ∀ place, signs.countP (Sign.tells .tokenReturned place) = 0)
    (pools : ∀ place, place < system.limiters.length → (system.turn index).pool place =
      system.asked index (stage.passed system.limiters.length) reached place) :
    OwnMove index job context system (.turn index) where
  calls := by
    rw [taleIn_of_turn told]
    exact calls
  settles := by
    intro place inside
    refine ⟨_, asked_asks system index _ reached place, Or.inl ⟨?_, pools place inside⟩⟩
    rw [taleIn_of_turn told, unreturned]

theorem OwnMove.of_gaveUp {error : HandlerError}
    (told : (system.turn index).signs = system.signs ++
      Sign.refused job.uuid error (stage.passed system.limiters.length) ::
        Sign.leaving job.uuid error 0 (stage.passed system.limiters.length))
    (pools : ∀ place, place < system.limiters.length → (system.turn index).pool place =
      system.forsaken index (stage.passed system.limiters.length) place) :
    OwnMove index job context system (.turn index) where
  calls := by
    intro called isCanceled isStale member
    rw [taleIn_of_turn told] at member
    rcases List.mem_cons.mp member with first | rest
    · cases error <;> cases first
    · exact absurd rest (not_called_of_leaving _ _ _ _ _ _ _)
  settles := by
    intro place inside
    have counted : (system.taleIn index (.turn index)).countP (Sign.tells .tokenReturned place) =
        (decide (0 ≤ place ∧ place < 0 + stage.passed system.limiters.length)).toNat := by
      rw [taleIn_of_turn told, List.countP_cons, Sign.countP_leaving, Sign.tells_refused]
      cases error <;> simp [HandlerError.toldAs]
    rw [counted, perform, pools place inside, forsaken]
    by_cases earlier : place < stage.passed system.limiters.length
    · refine ⟨_, .nothing, Or.inr ⟨?_, ?_⟩⟩
      · simp [earlier]
      · rw [if_pos earlier]
    · rw [if_neg earlier]
      by_cases here : place = stage.passed system.limiters.length
      · rw [if_pos here]
        exact ⟨_, .withdraw, Or.inl ⟨by simp [earlier], rfl⟩⟩
      · rw [if_neg here]
        exact ⟨_, .nothing, Or.inl ⟨by simp [earlier], rfl⟩⟩

theorem OwnMove.of_answered {result : Except HandlerError Unit}
    (told : (system.turn index).signs = system.signs ++ (system.entry job context stage ++
      Chain.closing job.uuid 0 system.limiters.length result))
    (pools : ∀ place, place < system.limiters.length → (system.turn index).pool place =
      (system.asked index (stage.passed system.limiters.length) system.limiters.length
        place).settled result) :
    OwnMove index job context system (.turn index) where
  calls := by
    intro called isCanceled isStale member
    rw [taleIn_of_turn told] at member
    rcases List.mem_append.mp member with early | last
    · exact called_of_entry early
    · exact absurd last (not_called_of_closing _ _ _ _ _ _ _)
  settles := by
    intro place inside
    refine ⟨_, asked_asks system index (stage.passed system.limiters.length)
      system.limiters.length place, ?_⟩
    rw [taleIn_of_turn told, List.countP_append, countP_entry, Nat.zero_add, perform,
      pools place inside]
    cases result with
    | ok done => exact Or.inl ⟨rfl, rfl⟩
    | error error =>
        refine Or.inr ⟨?_, rfl⟩
        rw [Chain.closing, Sign.countP_leaving]
        simp [inside]

theorem OwnMove.of_jobMoves
    (step : JobMoves index job context stage system (system.turn index)) :
    OwnMove index job context system (.turn index) := by
  cases step with
  | gaveUp error outside refused tasks signs pools wakes => exact .of_gaveUp signs pools
  | waits reached since outside free clears short tasks signs pools =>
      apply OwnMove.of_asked signs _ _ pools
      · intro called isCanceled isStale member
        exact absurd member (not_called_of_entering _ _ _ _ _ _)
      · intro place
        exact Sign.countP_entering_of_ne _ _ _ _ (by decide)
  | heldUp holds enters tasks signs pools =>
      apply OwnMove.of_asked signs _ _ pools
      · intro called isCanceled isStale
        exact called_of_entry
      · exact countP_entry system job context stage
  | panicked text enters verdict tasks signs pools =>
      apply OwnMove.of_asked signs _ _ pools
      · intro called isCanceled isStale
        exact called_of_entry
      · exact countP_entry system job context stage
  | answered result enters verdict tasks signs pools => exact .of_answered signs pools

theorem job_of_run (found : system.tasks[index]? = some state) {later : TaskState}
    (foundLater : (system.run moves).tasks[index]? = some later)
    (task : later.task = .admission job context stage) :
    ∃ earlier, state.task = .admission job context earlier := by
  induction moves generalizing system state with
  | nil =>
      rw [run_nil, found, Option.some.injEq] at foundLater
      exact ⟨stage, by rw [foundLater, task]⟩
  | cons move rest ih =>
      cases between : (system.perform move).tasks[index]? with
      | none =>
          rw [absent_of_perform between] at found
          cases found
      | some next =>
          rcases ih between foundLater with ⟨stageNext, taskNext⟩
          have same {other : TaskState} (present : system.tasks[index]? = some other) :
              other = state := by
            rw [found, Option.some.injEq] at present
            exact present.symm
          cases Befalls.of_perform between with
          | kept other present sameTask _ _ =>
              rw [same present] at sameTask
              exact ⟨stageNext, by rw [← sameTask, taskNext]⟩
          | began absent _ =>
              rw [found] at absent
              cases absent
          | dropped other present _ ended _ _ =>
              rw [same present] at ended
              rw [ended] at taskNext
              exact ⟨stageNext, taskNext⟩
          | turned other present _ _ turns =>
              subst turns
              exact admission_of_turn found between taskNext

/-- What a job does itself in a run. -/
theorem ownMove_of_run (limited : 0 < start.limiters.length) (idle : start.tasks = #[])
    (arriving : ∀ move ∈ moves, move.startsArriving = true) {later : TaskState}
    (foundLater : (start.run moves).tasks[index]? = some later)
    (task : later.task = .admission job context stage) {early late : List Move} {move : Move}
    (split : moves = early ++ move :: late) (own : move = .turn index ∨ move = .drop index) :
    OwnMove index job context (start.run early) move := by
  have accompanied : Accompanied start early index := by
    apply accompanied_of_run limited idle
    intro other member
    exact arriving other (by rw [split]; exact List.mem_append_left _ member)
  cases found : (start.run early).tasks[index]? with
  | none =>
      apply OwnMove.of_same
      rcases own with rfl | rfl
      · simp [perform, turn, found]
      · simp [perform, dropNow, found]
  | some state =>
      have whole : ((start.run early).run (move :: late)).tasks[index]? = some later := by
        rw [← run_append, ← split, foundLater]
      rcases job_of_run found whole task with ⟨earlier, same⟩
      rcases own with rfl | rfl
      · rcases turn_cases (start.run early) index with unchanged | ⟨other, present, unfinished⟩
        · exact OwnMove.of_same unchanged
        · rw [found, Option.some.injEq] at present
          subst present
          by_cases marked : state.isAborted = true
          · exact OwnMove.of_dropTask same (turn_of_isAborted found unfinished marked)
          · have narrated := accompanied.narrated state job context earlier found same
            rw [unfinished] at narrated
            apply OwnMove.of_jobMoves
            apply JobMoves.of_turn found same unfinished (by simpa using marked)
            rw [(run_reaches start early).length]
            exact narrated.placed
      · rcases dropNow_cases (start.run early) index with unchanged | ⟨other, present, -, dropped⟩
        · exact OwnMove.of_same unchanged
        · rw [found, Option.some.injEq] at present
          subst present
          exact OwnMove.of_dropTask same dropped

end Stories

/-! ### Jobs and tokens -/

section Tokens

variable {system next : System} {index : Nat} {state : TaskState} {place : Nat}

theorem tokens_congr (tasks : next.tasks = system.tasks) (place : Nat) :
    next.tokens place = system.tokens place := by
  simp only [tokens, withNext, System.succeeded, brokenOff, tasks]

/-- The end of a task that handles no job. -/
theorem finish_tokens (found : system.tasks[index]? = some state)
    (noJob : state.task.isAdmission = false) (unfinished : state.outcome = none)
    {outcome : Outcome} (quiet : outcome.endsNoJob = true) (place : Nat) :
    (system.finish index outcome).tokens place = system.tokens place := by
  have counted := tokens_of_modify found (finish_frame system index outcome).2.1 place
  have before : state.tokens place = 0 :=
    TaskState.tokens_of_noJob noJob (by simp [unfinished]) place
  have after : TaskState.tokens place { state with outcome := some outcome } = 0 := by
    apply TaskState.tokens_of_noJob
    · exact noJob
    · simpa using quiet
  omega

theorem setTask_tokens (found : system.tasks[index]? = some state)
    (noJob : state.task.isAdmission = false) (unfinished : state.outcome = none) {task : Task}
    (still : task.isAdmission = false) (place : Nat) :
    (system.setTask index task).tokens place = system.tokens place := by
  have counted := tokens_of_modify found (setTask_frame system index task).2.1 place
  have before : state.tokens place = 0 :=
    TaskState.tokens_of_noJob noJob (by simp [unfinished]) place
  have after : TaskState.tokens place { state with task } = 0 :=
    TaskState.tokens_of_noJob still (by simp [unfinished]) place
  omega

theorem push_tokens {task : Task} (fresh : TaskState.tokens place { task } = 0)
    (tasks : next.tasks = system.tasks.push { task }) :
    next.tokens place = system.tokens place := by
  simp only [TaskState.tokens, Nat.add_eq_zero_iff, Bool.toNat_eq_zero] at fresh
  simp [tokens, withNext, System.succeeded, brokenOff, tasks, fresh]

theorem dropTask_tokens (found : system.tasks[index]? = some state)
    (unfinished : state.outcome = none) (place : Nat) :
    (system.dropTask index state.task).tokens place = system.tokens place := by
  have counted := tokens_of_modify found (dropTask_frame system index state.task).1 place
  cases job : state.task.isAdmission with
  | true =>
      have keeps : state.task.keepsToAdmission = true := by
        cases task : state.task <;> simp_all [Task.isAdmission, Task.keepsToAdmission]
      have same := TaskState.tokens_dropped keeps unfinished place
      omega
  | false =>
      have before : state.tokens place = 0 :=
        TaskState.tokens_of_noJob job (by simp [unfinished]) place
      have after : TaskState.tokens place { state with outcome := some .aborted } = 0 := by
        apply TaskState.tokens_of_noJob
        · exact job
        · simp [Outcome.endsNoJob]
      omega

theorem settleRegistration_tokens (found : system.tasks[index]? = some state)
    (noJob : state.task.isAdmission = false) (unfinished : state.outcome = none)
    (context : Context) (watch : Nat) (deadline : Option Nat) (place : Nat) :
    (system.settleRegistration index context watch deadline).tokens place =
      system.tokens place := by
  simp only [settleRegistration]
  split
  · rfl
  · split
    · rfl
    · rw [finish_tokens (by simpa using found) noJob unfinished rfl]
      exact tokens_congr (by simp) place
    · rw [finish_tokens (by simpa using found) noJob unfinished rfl]
      exact tokens_congr (by simp) place

theorem startRegistration_tokens (found : system.tasks[index]? = some state)
    (noJob : state.task.isAdmission = false) (unfinished : state.outcome = none) (feed : String)
    (context : Context) (place : Nat) :
    (system.startRegistration index feed context).tokens place = system.tokens place := by
  simp only [startRegistration]
  split
  · rename_i after error watching
    have tasks := (watchChild_frame watching).1
    rw [finish_tokens (by simpa [tasks] using found) noJob unfinished rfl]
    exact tokens_congr (by simpa using tasks) place
  · rename_i after name stream watching
    have tasks := (watchChild_frame watching).1
    have present : after.tasks[index]? = some state := by rw [tasks, found]
    let watch : Watch := ⟨name, (system.cancellation.child context).2, stream, false, false⟩
    -- The registration goes on, then its listener is started, and only then is it settled.
    refine (settleRegistration_tokens (withListener_registration present feed context watch _) rfl
      unfinished context _ _ place).trans ?_
    calc
      (after.withListener index feed context watch _).tokens place =
          (after.setTask index (.registration feed context (some (after.watches.size, _)))).tokens
            place := push_tokens rfl (withListener_tasks after index feed context watch _)
      _ = after.tokens place := setTask_tokens present noJob unfinished rfl place
      _ = system.tokens place := tokens_congr tasks place

theorem listen_tokens (found : system.tasks[index]? = some state)
    (noJob : state.task.isAdmission = false) (unfinished : state.outcome = none) (watch : Nat)
    (place : Nat) : (system.listen index watch).tokens place = system.tokens place := by
  have ending {before : System} (tasks : before.tasks = system.tasks) (watched : Watch) :
      (before.endListening index watch watched).tokens place = system.tokens place := by
    rw [endListening, finish_tokens (by simpa [tasks] using found) noJob unfinished rfl]
    exact tokens_congr (by simp [tasks]) place
  cases present : system.watches[watch]? with
  | none => simp [listen, present]
  | some watched =>
      have attended : (system.attended watch watched).tasks = system.tasks := by
        simp [System.attended]
      rw [listen_eq present]
      split
      · exact ending rfl watched
      · split
        · exact tokens_congr (by simp [attended]) place
        · split
          · exact tokens_congr attended place
          · exact ending attended watched

/-- A task that handles no job neither wins nor loses a token for one. -/
theorem turn_tokens (found : system.tasks[index]? = some state)
    (noJob : state.task.isAdmission = false) (unfinished : state.outcome = none)
    (unmarked : state.isAborted = false) (place : Nat) :
    (system.turn index).tokens place = system.tokens place := by
  simp only [turn, found, unfinished, unmarked, Option.isSome_none, Bool.false_eq_true, if_false]
  cases task : state.task with
  | timer signal delay deadline =>
      simp only [runTimer]
      split
      · exact finish_tokens found noJob unfinished rfl place
      · split
        · rw [finish_tokens (by simpa using found) noJob unfinished rfl]
          exact tokens_congr (by simp) place
        · exact setTask_tokens found noJob unfinished rfl place
  | awaitCancellation context =>
      simp only
      split
      · exact finish_tokens found noJob unfinished rfl place
      · rfl
  | awaitStaleness signal =>
      simp only
      split
      · exact finish_tokens found noJob unfinished rfl place
      · rfl
  | acquisition context signal =>
      have ending (pool : Pool) (woken : Option Nat) {outcome : Outcome}
          (quiet : outcome.endsNoJob = true) :
          (((system.setPool 0 pool).noteAll (Notice.wokenOf woken)).finish index outcome).tokens
            place = system.tokens place := by
        rw [finish_tokens (by simpa using found) noJob unfinished quiet]
        exact tokens_congr (by simp) place
      simp only [acquire]
      split
      · exact tokens_congr (by simp) place
      all_goals exact ending _ _ rfl
  | admission job context stage => simp [task, Task.isAdmission] at noJob
  | registration feed context watch =>
      cases watch with
      | none => exact startRegistration_tokens found noJob unfinished feed context place
      | some watch =>
          exact settleRegistration_tokens found noJob unfinished context watch.1 watch.2 place
  | listening watch => exact listen_tokens found noJob unfinished watch place

end Tokens

/-! ### Events and tokens -/

/-- As many tokens were won at a place as were taken back there or are accounted for by jobs. -/
def Balanced (place : Nat) (system : System) : Prop :=
  system.toldAt .tokenAcquired place =
    system.toldAt .tokenReturned place + system.tokens place

section Balances

variable {start system next : System} {moves : List Move} {index place : Nat} {state : TaskState}
  {job : Job} {context : Context} {stage : Stage}

/-- A job that goes on from one limiter to another wins the tokens that it did not have. -/
theorem countP_entering_until (uuid : String) {first reached : Nat} (further : first ≤ reached)
    (place : Nat) :
    (Sign.entering uuid first (reached - first)).countP (Sign.tells .tokenAcquired place) +
      (decide (place < first)).toNat = (decide (place < reached)).toNat := by
  rw [Sign.countP_entering, Nat.add_sub_cancel' further]
  by_cases earlier : place < first
  · have behind : ¬first ≤ place := by omega
    have before : place < reached := by omega
    simp [earlier, behind, before]
  · have ahead : first ≤ place := by omega
    simp [earlier, ahead]

theorem countP_entry_acquired (job : Job) (context : Context) (stage : Stage)
    (inside : place < system.limiters.length)
    (further : stage.passed system.limiters.length ≤ system.limiters.length) :
    (system.entry job context stage).countP (Sign.tells .tokenAcquired place) +
      (stage.isBeyond place).toNat = 1 := by
  rw [stage.isBeyond_eq inside]
  by_cases within : stage.isInside = true
  · cases stage with
    | inside holds => simp [entry, Stage.isInside, Stage.passed, inside]
    | _ => cases within
  · have called : List.countP (Sign.tells .tokenAcquired place)
        [.called job (system.isCancelled context) (system.isFired job.signal)] = 0 := rfl
    have won := countP_entering_until job.uuid further place
    rw [decide_eq_true inside] at won
    rw [entry, if_neg within, List.countP_append, called]
    exact won

/-- A turn keeps the balance if what the job has then is what it had and what it was told. -/
theorem Balanced.of_turn (balanced : system.Balanced place)
    (found : system.tasks[index]? = some state) {change : TaskState → TaskState}
    {signs : List Sign} (tasks : next.tasks = system.tasks.modify index change)
    (told : next.signs = system.signs ++ signs)
    (even : signs.countP (Sign.tells .tokenAcquired place) + state.tokens place =
      signs.countP (Sign.tells .tokenReturned place) + (change state).tokens place) :
    next.Balanced place := by
  have counted := tokens_of_modify found tasks place
  simp only [Balanced, toldAt_eq, told, List.countP_append] at balanced ⊢
  omega

/-- The turn of a job keeps the balance. -/
theorem Balanced.of_jobMoves (balanced : system.Balanced place)
    (inside : place < system.limiters.length) (found : system.tasks[index]? = some state)
    (task : state.task = .admission job context stage) (unfinished : state.outcome = none)
    (step : JobMoves index job context stage system next) : next.Balanced place := by
  have held : state.tokens place = (stage.isBeyond place).toNat :=
    TaskState.tokens_of_unfinished task unfinished place
  have passed := stage.isBeyond_eq inside
  have entered (enters : system.Enters index job context stage) :
      (system.entry job context stage).countP (Sign.tells .tokenAcquired place) +
        state.tokens place = 1 := by
    rw [held]
    exact countP_entry_acquired job context stage inside enters.clears.further
  have unreturned := countP_entry system job context stage place
  cases step with
  | gaveUp error outside refused tasks signs pools wakes =>
      apply balanced.of_turn found tasks signs
      have lost := TaskState.tokens_failed state error place
      have unrelated (kind : EventKind) (other : kind = .tokenAcquired ∨ kind = .tokenReturned) :
          (error.toldAs == kind) = false := by
        rcases other with rfl | rfl <;> cases error <;> rfl
      simp only [List.countP_cons, Sign.tells_refused, Sign.countP_leaving,
        Sign.countP_leaving_of_ne _ _ _ _ _ (show EventKind.tokenAcquired ≠ .tokenReturned by
          decide), unrelated _ (Or.inl rfl), unrelated _ (Or.inr rfl), Bool.and_false,
        Bool.false_eq_true, if_false, Nat.zero_add, Nat.zero_le, true_and]
      rw [held, passed, lost, Nat.add_zero]
  | waits reached since outside free clears short tasks signs pools =>
      apply balanced.of_turn found tasks signs
      have has := TaskState.tokens_of_stage unfinished job context (.waiting reached since) place
      have won := countP_entering_until job.uuid clears.further place
      rw [has, held, passed, won, Sign.countP_entering_of_ne _ _ _ _ (by decide), Nat.zero_add]
      rfl
  | heldUp holds enters tasks signs pools =>
      apply balanced.of_turn found tasks signs
      have has := TaskState.tokens_of_stage unfinished job context (.inside holds) place
      rw [entered enters, unreturned, has]
      rfl
  | panicked text enters verdict tasks signs pools =>
      apply balanced.of_turn found tasks signs
      rw [entered enters, unreturned, TaskState.tokens_panicked state text place]
  | answered result enters verdict tasks signs pools =>
      apply balanced.of_turn found tasks signs
      have won := entered enters
      rw [List.countP_append, List.countP_append]
      cases result with
      | ok done =>
          cases done
          have kept : TaskState.tokens place
              { state with outcome := some (.handled (.ok PUnit.unit)) } = 1 :=
            TaskState.tokens_of_succeeded rfl place
          simp only [Chain.closing, List.countP_nil]
          omega
      | error error =>
          have lost := TaskState.tokens_failed state error place
          have told : (Sign.leaving job.uuid error 0 system.limiters.length).countP
              (Sign.tells .tokenReturned place) = 1 := by
            rw [Sign.countP_leaving]
            simp [inside]
          have untold := Sign.countP_leaving_of_ne job.uuid error 0 system.limiters.length place
            (show EventKind.tokenAcquired ≠ .tokenReturned by decide)
          simp only [Chain.closing]
          omega

/-- Whatever gives no sign of admission and moves no token keeps the balance. -/
theorem Balanced.of_quiet (balanced : system.Balanced place)
    (tokens : next.tokens place = system.tokens place)
    (told : ∀ kind : EventKind, kind = .tokenAcquired ∨ kind = .tokenReturned →
      next.signs.countP (Sign.tells kind place) = system.signs.countP (Sign.tells kind place)) :
    next.Balanced place := by
  simp only [Balanced, toldAt_eq] at balanced ⊢
  rw [told _ (Or.inl rfl), told _ (Or.inr rfl), tokens]
  exact balanced

/-- No change of a resource is told as an event of admission. -/
theorem countP_notified {kind : EventKind} (admission : kind.isAdmission = true) (place : Nat)
    (changes : List ResourceEvent) :
    changes.countP (fun change => Sign.tells kind place change.sign) = 0 := by
  apply List.countP_eq_zero.mpr
  intro change _
  have other : (Reconciler.eventOf 0 change).bare.kind ≠ kind := by
    rintro rfl
    cases change <;> cases admission
  rw [ResourceEvent.sign, Sign.tells_of_ne other]
  exact Bool.false_ne_true

theorem perform_told {move : Move} (genuine : move.isGenuine = true)
    (noJob : ∀ index state, move = .turn index → system.tasks[index]? = some state →
      state.task.isAdmission = false) {kind : EventKind} (admission : kind.isAdmission = true)
    (place : Nat) :
    (system.perform move).signs.countP (Sign.tells kind place) =
      system.signs.countP (Sign.tells kind place) := by
  rw [perform_countP ?_ noJob ?_, countP_notified admission, Nat.add_zero]
  · intro event synced
    apply Sign.tells_of_ne
    rintro rfl
    rw [synced] at admission
    cases admission
  · rintro other event rfl
    apply Sign.tells_of_ne
    rintro rfl
    simp [Move.isGenuine, Event.bare] at genuine admission
    simp [genuine] at admission

theorem abort_tokens (system : System) (index place : Nat) :
    (system.abort index).tokens place = system.tokens place := by
  rcases abort_cases system index with same | ⟨state, found, -, tasks⟩
  · rw [same]
  · have counted := tokens_of_modify found tasks place
    have kept : TaskState.tokens place { state with isAborted := true } = state.tokens place := rfl
    omega

theorem start_tokens {task : Task} (arriving : (Move.start task).startsArriving = true)
    (place : Nat) : (system.spawn task).1.tokens place = system.tokens place := by
  have fresh : TaskState.tokens place { task } = 0 := by
    cases task with
    | admission job context stage =>
        have first : stage = .arriving := by simpa [Move.startsArriving] using arriving
        subst first
        rfl
    | _ => rfl
  exact push_tokens fresh (by simp)

/-- Every move keeps the balance. -/
theorem Balanced.perform (balanced : system.Balanced place)
    (inside : place < system.limiters.length) {move : Move} (genuine : move.isGenuine = true)
    (placed : system.Placed) : (system.perform move).Balanced place := by
  have others (noJob : ∀ index state, move = .turn index → system.tasks[index]? = some state →
      state.task.isAdmission = false)
      (tokens : (system.perform move).tokens place = system.tokens place) :
      (system.perform move).Balanced place := by
    apply balanced.of_quiet tokens
    rintro kind (rfl | rfl)
    · exact perform_told genuine noJob rfl place
    · exact perform_told genuine noJob rfl place
  have unchanged {next : System} (same : next = system) : next.Balanced place := by
    rw [same]
    exact balanced
  have dropping {index : Nat} {state : TaskState} (found : system.tasks[index]? = some state)
      (unfinished : state.outcome = none) : (system.dropTask index state.task).Balanced place := by
    apply balanced.of_quiet (dropTask_tokens found unfinished place)
    intro kind _
    rw [dropTask_signs]
  cases move with
  | turn index =>
      rcases turn_cases system index with same | ⟨state, found, unfinished⟩
      · exact unchanged same
      · by_cases marked : state.isAborted = true
        · rw [System.perform, turn_of_isAborted found unfinished marked]
          exact dropping found unfinished
        · cases job : state.task.isAdmission with
          | true =>
              cases task : state.task with
              | admission job context stage =>
                  exact balanced.of_jobMoves inside found task unfinished
                    (JobMoves.of_turn found task unfinished (by simpa using marked)
                      (placed index state job context stage found task unfinished))
              | _ =>
                  rw [task] at job
                  cases job
          | false =>
              apply others
              · rintro other present same foundOther
                cases same
                rw [found, Option.some.injEq] at foundOther
                rwa [← foundOther]
              · exact turn_tokens found job unfinished (by simpa using marked) place
  | drop index =>
      rcases dropNow_cases system index with same | ⟨state, found, unfinished, dropped⟩
      · exact unchanged same
      · rw [System.perform, dropped]
        exact dropping found unfinished
  | abort index => exact others (by rintro other present ⟨⟩) (abort_tokens system index place)
  | start task =>
      exact others (by rintro other present ⟨⟩)
        (start_tokens (Move.startsArriving_of_isGenuine genuine) place)
  | tryAcquire place => exact others (by rintro other present ⟨⟩) (tokens_congr rfl _)
  | tryRelease place =>
      exact others (by rintro other present ⟨⟩)
        (tokens_congr (by simp [System.perform, tryRelease]) _)
  | reconcile change =>
      exact others (by rintro other present ⟨⟩)
        (tokens_congr (by simp [System.perform, reconcile]) _)
  | elsewhere happening =>
      exact others (by rintro other present ⟨⟩) (tokens_congr (by simp [System.perform]) _)

theorem balanced_of_run (inside : place < start.limiters.length) (idle : start.tasks = #[])
    (silent : start.history = #[]) (genuine : ∀ move ∈ moves, move.isGenuine = true) :
    (start.run moves).Balanced place := by
  induction moves using List.reverseRecOn with
  | nil =>
      simp [Balanced, toldAt, published, silent, tokens, withNext, System.succeeded, brokenOff,
        idle]
  | append_singleton moves move ih =>
      have earlier : ∀ other ∈ moves, other.isGenuine = true := fun other member =>
        genuine other (List.mem_append_left _ member)
      have before : (start.run moves).Balanced place := ih earlier
      have placed : (start.run moves).Placed := by
        apply placed_of_run (Nat.lt_of_le_of_lt (Nat.zero_le _) inside) idle
        intro other member
        exact Move.startsArriving_of_isGenuine (earlier other member)
      rw [run_append]
      apply before.perform _ (genuine move (by simp)) placed
      rwa [(run_reaches start moves).length]

end Balances

/-- In a chain of limiters each job tells exactly its own story, and for every limiter the jobs that
won a token are those that gave it back, those that are with the next handler, those that succeeded,
and those that broke off while they were with the next handler. -/
theorem stories_of_genuine (start : System) (moves : List Move)
    (limited : 0 < start.limiters.length) (idle : start.tasks = #[]) (silent : start.history = #[])
    (genuine : ∀ move ∈ moves, move.isGenuine = true) :
    (∀ (index : Nat) (state : TaskState) (job : Job) (context : Context) (stage : Stage),
      (start.run moves).tasks[index]? = some state →
      state.task = .admission job context stage →
      Story start moves index job context stage state.outcome) ∧
    ∀ place, place < start.limiters.length →
      (start.run moves).toldAt .tokenAcquired place =
        (start.run moves).toldAt .tokenReturned place + (start.run moves).withNext place +
          (start.run moves).succeeded + (start.run moves).brokenOff place := by
  have arriving : ∀ move ∈ moves, move.startsArriving = true := fun move member =>
    Move.startsArriving_of_isGenuine (genuine move member)
  constructor
  · intro index state job context stage found task
    have narrated := (accompanied_of_run limited idle arriving index).narrated state job context
      stage found task
    refine ⟨narrated, narrated.begins, ?_⟩
    intro early move late split own
    exact ownMove_of_run limited idle arriving found task split own
  · intro place inside
    have balanced := balanced_of_run inside idle silent genuine
    simp only [Balanced, tokens] at balanced
    omega

/-- A chain of two limiters, before anything happened. -/
def double (first second : Pool) : System :=
  { limiters := [{ pool := first, next := "max_in_flight" }, { pool := second, next := "end" }] }

/-- Three jobs in a chain of two limiters. The first one fails with the last handler, the second one
is cancelled while it waits for the second limiter, and the third one succeeds after it has waited
there. -/
def threefold : List Move :=
  [.elsewhere (.instruct [("failing", { holds := [.gate "door"], fails := some (.fail "refused") })]),
    .elsewhere .createContext, .elsewhere .createContext, .elsewhere (.createSignal false),
    .start (.admission { uuid := "failing", signal := 0 } ⟨⟨0, 0⟩, []⟩ .arriving),
    .start (.admission { uuid := "late", signal := 0 } ⟨⟨1, 1⟩, []⟩ .arriving),
    .start (.admission { uuid := "next", signal := 0 } ⟨⟨0, 0⟩, []⟩ .arriving),
    .turn 0, .turn 1, .turn 2, .elsewhere (.cancel ⟨⟨1, 1⟩, []⟩ (some "shutting down")), .turn 1,
    .elsewhere (.openGate "door"), .turn 0, .turn 2]

theorem stories_threefold :
    ((∀ (index : Nat) (state : TaskState) (job : Job) (context : Context) (stage : Stage),
        ((double (.full 3) (.full 1)).run threefold).tasks[index]? = some state →
        state.task = .admission job context stage →
        Story (double (.full 3) (.full 1)) threefold index job context stage state.outcome) ∧
      ∀ place, place < (double (.full 3) (.full 1)).limiters.length →
        ((double (.full 3) (.full 1)).run threefold).toldAt .tokenAcquired place =
          ((double (.full 3) (.full 1)).run threefold).toldAt .tokenReturned place +
            ((double (.full 3) (.full 1)).run threefold).withNext place +
            ((double (.full 3) (.full 1)).run threefold).succeeded +
            ((double (.full 3) (.full 1)).run threefold).brokenOff place) ∧
      (double (.full 3) (.full 1)).tale threefold 1 =
        [.told 0 { kind := .tokenAcquired, job := some "late", wait := some ⟨0⟩ },
          .told 1 { kind := .waitCanceled, job := some "late", reason := some "shutting down" },
          .gaveBack,
          .told 0 { kind := .tokenReturned, job := some "late",
                    reason := some "shutting down" }] ∧
      ((double (.full 3) (.full 1)).run threefold).outcome? 1 =
        some (.handled (.error (.canceled "shutting down"))) ∧
      ((double (.full 3) (.full 1)).run threefold).toldAt .tokenAcquired 0 = 3 ∧
      ((double (.full 3) (.full 1)).run threefold).toldAt .tokenReturned 0 = 2 :=
  ⟨stories_of_genuine (double (.full 3) (.full 1)) threefold (by decide) rfl rfl (by decide),
    by decide +kernel, by decide +kernel, by decide +kernel, by decide +kernel⟩

end System

end Admission
