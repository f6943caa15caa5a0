import Admission.Proofs.Barrier
import Admission.Proofs.Tellings

/-!
# The story of a job

Each limiter of a chain handles a job in one of four ways. It refuses the job because the context is
cancelled, or because the job is stale; or it wins a token for the job and calls what comes next,
once. If that succeeds the token stays claimed, and if it fails the token is taken back, the failure
is told, and passed on unchanged. `Handling` says so of all limiters from one place on, each calling
the next, and the last one calling the last handler.

The tale of a job is made of the signs that its own moves give. The tale of a job whose handling has
ended is one of these stories from beginning to end, as the state decides in which the job has its
last turn; the tale of any other job is the beginning of one. What other tasks do in between has no
part in it.
-/

namespace Admission

/-- How a job is handled from some place on, with some limiters left before the last handler, if a
state of the system decides how it ends. -/
inductive Handling (decided : System) (job : Job) (context : Context) :
    Nat → Nat → List Sign → Except HandlerError Unit → Prop where
  | canceled {place left : Nat} {cause : String}
      (cancelled : decided.cancellation.cause context = some cause) :
      Handling decided job context place (left + 1)
        [.told place { kind := .waitCanceled, job := some job.uuid, reason := some cause }]
        (.error (.canceled cause))
  | stale {place left : Nat} (live : decided.cancellation.cause context = none)
      (fired : decided.isFired job.signal = true) :
      Handling decided job context place (left + 1)
        [.told place { kind := .jobStale, job := some job.uuid }] (.error .staleJob)
  | succeeded {place left : Nat} {signs : List Sign}
      (next : Handling decided job context (place + 1) left signs (.ok ())) :
      Handling decided job context place (left + 1)
        (Sign.acquired job.uuid place :: signs) (.ok ())
  | failed {place left : Nat} {signs : List Sign} {error : HandlerError}
      (next : Handling decided job context (place + 1) left signs (.error error)) :
      Handling decided job context place (left + 1)
        (Sign.acquired job.uuid place ::
          (signs ++ [.gaveBack, .told place
            { kind := .tokenReturned, job := some job.uuid, reason := some error.message }]))
        (.error error)
  /-- The last handler is called for the job. -/
  | answered {place : Nat} {result : Except HandlerError Unit} (isCanceled isStale : Bool)
      (verdict : (decided.verdictOn job context).result? = some result) :
      Handling decided job context place 0 [.called job isCanceled isStale] result

namespace Handling

variable {decided : System} {job : Job} {context : Context} {left : Nat} {signs : List Sign}
  {result : Except HandlerError Unit}

/-- What a limiter does around the handling by what comes next. -/
theorem around {place : Nat} (next : Handling decided job context (place + 1) left signs result) :
    Handling decided job context place (left + 1)
      (Sign.acquired job.uuid place :: (signs ++ Chain.closing job.uuid place 1 result)) result := by
  cases result with
  | ok done =>
      cases done
      rw [Chain.closing, List.append_nil]
      exact .succeeded next
  | error error => exact .failed next

/-- What several limiters do, each around the handling by the next one. -/
theorem within {place count : Nat}
    (next : Handling decided job context (place + count) left signs result) :
    Handling decided job context place (left + count)
      (Sign.entering job.uuid place count ++ (signs ++ Chain.closing job.uuid place count result))
      result := by
  induction count generalizing place with
  | zero => cases result <;> simpa [Chain.closing, Sign.leaving, Sign.entering] using next
  | succ count ih =>
      rw [Nat.add_comm count 1, ← Nat.add_assoc] at next
      have outer := (ih next).around
      rw [← Nat.add_assoc, Sign.entering_succ, List.cons_append]
      cases result with
      | ok done => simpa [Chain.closing] using outer
      | error error =>
          have single : Sign.leaving job.uuid error place 1 = Sign.returned job.uuid error place :=
            List.append_nil _
          simpa [Chain.closing, Sign.leaving_succ job.uuid error place count, single] using outer

/-- A job that is refused at a place. -/
theorem of_refusal {error : HandlerError}
    (refused : decided.refusal context job.signal = some error) (place left : Nat) :
    Handling decided job context place (left + 1) [Sign.refused job.uuid error place]
      (.error error) := by
  simp only [System.refusal] at refused
  split at refused
  · rename_i cause cancelled
    cases refused
    exact .canceled cancelled
  · rename_i live
    split at refused
    · rename_i fired
      cases refused
      exact .stale live fired
    · cases refused

end Handling

namespace System

/-- The signs that the moves of one task give. -/
def taleIn (index : Nat) (system : System) : Move → List Sign
  | .turn other =>
      if other = index then (system.turn other).signs.drop system.signs.length else []
  | .drop other =>
      if other = index then (system.dropNow other).signs.drop system.signs.length else []
  | _ => []

/-- The tale of a task. -/
def tale (start : System) (moves : List Move) (index : Nat) : List Sign :=
  start.gather (taleIn index) moves

section Tales

variable {system : System} {index : Nat} {move : Move}

theorem taleIn_eq_nil (silent : (system.perform move).signs = system.signs ∨
    (move ≠ .turn index ∧ move ≠ .drop index)) : system.taleIn index move = [] := by
  rcases silent with same | others
  · cases move with
    | turn other =>
        rw [perform] at same
        simp [taleIn, same]
    | drop other =>
        rw [perform] at same
        simp [taleIn, same]
    | _ => rfl
  · cases move with
    | turn other =>
        apply if_neg
        rintro rfl
        exact others.1 rfl
    | drop other =>
        apply if_neg
        rintro rfl
        exact others.2 rfl
    | _ => rfl

theorem taleIn_of_turn {signs : List Sign}
    (told : (system.turn index).signs = system.signs ++ signs) :
    system.taleIn index (.turn index) = signs := by
  simp [taleIn, told]

theorem taleIn_of_absent (absent : system.tasks[index]? = none) :
    system.taleIn index move = [] := by
  cases move with
  | turn other =>
      by_cases same : other = index
      · subst same
        simp [taleIn, turn, absent]
      · simp [taleIn, same]
  | drop other =>
      by_cases same : other = index
      · subst same
        simp [taleIn, dropNow, absent]
      · simp [taleIn, same]
  | _ => rfl

end Tales

/-- What the tale of a job is, after a run, given how far the job has come and how it ended. -/
inductive Narrated (start : System) (moves : List Move) (index : Nat) (job : Job)
    (context : Context) (tale : List Sign) : Stage → Option Outcome → Prop where
  /-- It has won the tokens of the limiters that it has passed, and nothing else has happened. -/
  | onTheWay {stage : Stage} {outcome : Option Outcome}
      (unended : outcome = none ∨ outcome = some .aborted) (outside : stage.isInside = false)
      (placed : stage.passed start.limiters.length < start.limiters.length)
      (told : tale = Sign.entering job.uuid 0 (stage.passed start.limiters.length)) :
      Narrated start moves index job context tale stage outcome
  | inside {holds : List Hold} {outcome : Option Outcome} (isCanceled isStale : Bool)
      (unended : outcome = none ∨ outcome = some .aborted)
      (told : tale = Sign.entering job.uuid 0 start.limiters.length ++
        [.called job isCanceled isStale]) :
      Narrated start moves index job context tale (.inside holds) outcome
  /-- The last handler was brought down by a fault. -/
  | brokenOff {stage : Stage} {text : String} (isCanceled isStale : Bool)
      (told : tale = Sign.entering job.uuid 0 start.limiters.length ++
        [.called job isCanceled isStale]) :
      Narrated start moves index job context tale stage (some (.panicked text))
  | handled {stage : Stage} {result : Except HandlerError Unit} (early late : List Move)
      (split : moves = early ++ .turn index :: late)
      (pending : (start.run early).outcome? index = none)
      (story : Handling (start.run early) job context 0 start.limiters.length tale result) :
      Narrated start moves index job context tale stage (some (.handled result))

section Narrations

variable {start system : System} {moves : List Move} {index : Nat} {job : Job} {context : Context}
  {tale : List Sign} {stage : Stage} {outcome : Option Outcome}

theorem Narrated.later (narrated : Narrated start moves index job context tale stage outcome)
    (move : Move) : Narrated start (moves ++ [move]) index job context tale stage outcome := by
  cases narrated with
  | onTheWay unended outside placed told => exact .onTheWay unended outside placed told
  | inside isCanceled isStale unended told => exact .inside isCanceled isStale unended told
  | brokenOff isCanceled isStale told => exact .brokenOff isCanceled isStale told
  | handled early late split pending story =>
      refine .handled early (late ++ [move]) ?_ pending story
      rw [split, List.append_assoc]
      rfl

theorem Narrated.aborted (narrated : Narrated start moves index job context tale stage none) :
    Narrated start moves index job context tale stage (some .aborted) := by
  cases narrated with
  | onTheWay _ outside placed told => exact .onTheWay (Or.inr rfl) outside placed told
  | inside isCanceled isStale _ told => exact .inside isCanceled isStale (Or.inr rfl) told

theorem Narrated.placed (narrated : Narrated start moves index job context tale stage none)
    (outside : stage.isInside = false) :
    stage.passed start.limiters.length < start.limiters.length := by
  cases narrated with
  | onTheWay _ _ placed _ => exact placed
  | inside _ _ _ _ => cases outside

/-- The tale of a job that has come to the last handler, or was there before. -/
theorem Narrated.entered (narrated : Narrated start moves index job context tale stage none)
    (length : system.limiters.length = start.limiters.length) :
    ∃ isCanceled isStale, tale ++ system.entry job context stage =
      Sign.entering job.uuid 0 start.limiters.length ++ [.called job isCanceled isStale] := by
  cases narrated with
  | onTheWay _ outside placed told =>
      refine ⟨system.isCancelled context, system.isFired job.signal, ?_⟩
      have joined := Sign.entering_append job.uuid 0 (stage.passed start.limiters.length)
        (start.limiters.length - stage.passed start.limiters.length)
      rw [Nat.zero_add, Nat.add_sub_cancel' (Nat.le_of_lt placed)] at joined
      rw [told, entry, if_neg (by simp [outside]), length, ← List.append_assoc, joined]
  | inside isCanceled isStale _ told =>
      exact ⟨isCanceled, isStale, by rw [told]; exact List.append_nil _⟩

/-- One more turn of the job. -/
theorem Narrated.turned {state later : TaskState}
    (narrated : Narrated start moves index job context tale stage none)
    (found : (start.run moves).tasks[index]? = some state) (unfinished : state.outcome = none)
    (task : state.task = .admission job context stage)
    (foundLater : ((start.run moves).turn index).tasks[index]? = some later)
    (step : JobMoves index job context stage (start.run moves)
      ((start.run moves).turn index)) :
    ∃ stageLater, later.task = .admission job context stageLater ∧
      Narrated start (moves ++ [.turn index]) index job context
        (tale ++ (start.run moves).taleIn index (.turn index)) stageLater later.outcome := by
  have length : (start.run moves).limiters.length = start.limiters.length :=
    (run_reaches start moves).length
  have pending : (start.run moves).outcome? index = none := by
    simp [outcome?, found, unfinished]
  have self (change : TaskState → TaskState)
      (tasks : ((start.run moves).turn index).tasks = (start.run moves).tasks.modify index change) :
      later = change state := by
    rw [tasks, Array.getElem?_modify, if_pos rfl, found] at foundLater
    exact (Option.some.inj foundLater).symm
  cases step with
  | gaveUp error outside refused tasks signs _ _ =>
      rw [self _ tasks, taleIn_of_turn signs]
      refine ⟨stage, task, .handled moves [] rfl pending ?_⟩
      have placed := narrated.placed outside
      cases narrated with
      | onTheWay _ _ _ told =>
          have whole := (Handling.of_refusal refused (0 + stage.passed start.limiters.length)
            (start.limiters.length - stage.passed start.limiters.length - 1)).within
          rw [told, length]
          have counted : start.limiters.length - stage.passed start.limiters.length - 1 + 1 +
              stage.passed start.limiters.length = start.limiters.length := by omega
          rw [counted, Nat.zero_add] at whole
          exact whole
      | inside _ _ _ _ => cases outside
  | waits reached since outside free clears short tasks signs pools =>
      rw [self _ tasks, taleIn_of_turn signs]
      refine ⟨_, rfl, .onTheWay (Or.inl unfinished) rfl (by rwa [length] at short) ?_⟩
      cases narrated with
      | onTheWay _ _ _ told =>
          have joined := Sign.entering_append job.uuid 0 (stage.passed start.limiters.length)
            (reached - stage.passed start.limiters.length)
          have further := clears.further
          rw [length] at further ⊢
          rw [told]
          rw [Nat.zero_add, Nat.add_sub_cancel' further] at joined
          exact joined
      | inside _ _ _ _ => cases outside
  | heldUp holds enters tasks signs pools =>
      rcases narrated.entered length with ⟨isCanceled, isStale, told⟩
      rw [self _ tasks, taleIn_of_turn signs]
      exact ⟨_, rfl, .inside isCanceled isStale (Or.inl unfinished) told⟩
  | panicked text enters verdict tasks signs pools =>
      rcases narrated.entered length with ⟨isCanceled, isStale, told⟩
      rw [self _ tasks, taleIn_of_turn signs]
      exact ⟨stage, task, .brokenOff isCanceled isStale told⟩
  | answered result enters verdict tasks signs pools =>
      rcases narrated.entered length with ⟨isCanceled, isStale, told⟩
      rw [self _ tasks, taleIn_of_turn signs, ← List.append_assoc, told, length]
      refine ⟨stage, task, .handled moves [] rfl pending ?_⟩
      have answering : Handling (start.run moves) job context (0 + start.limiters.length) 0
          [.called job isCanceled isStale] result := .answered isCanceled isStale verdict
      have whole := answering.within
      rw [Nat.zero_add] at whole
      rwa [List.append_assoc]

/-- What is known of one task after a run: nothing has been told of a task that is still to come, and
a job has its story. -/
structure Accompanied (start : System) (moves : List Move) (index : Nat) : Prop where
  unborn : (start.run moves).tasks[index]? = none → start.tale moves index = []
  narrated : ∀ state job context stage, (start.run moves).tasks[index]? = some state →
    state.task = .admission job context stage →
    Narrated start moves index job context (start.tale moves index) stage state.outcome

theorem Accompanied.concat (limited : 0 < start.limiters.length) {move : Move}
    (arriving : move.startsArriving = true) (accompanied : Accompanied start moves index) :
    Accompanied start (moves ++ [move]) index where
  unborn := by
    intro absent
    rw [run_append] at absent
    have before : (start.run moves).tasks[index]? = none := absent_of_perform absent
    rw [tale, gather_concat, taleIn_of_absent before, List.append_nil]
    exact accompanied.unborn before
  narrated := by
    intro later job context stage found task
    rw [run_append] at found
    rw [tale, gather_concat]
    have quiet {state : TaskState} (before : (start.run moves).tasks[index]? = some state)
        (sameTask : later.task = state.task) (silent : (start.run moves).taleIn index move = []) :
        Narrated start (moves ++ [move]) index job context
          (start.gather (taleIn index) moves ++ (start.run moves).taleIn index move) stage
          state.outcome := by
      rw [silent, List.append_nil]
      exact (accompanied.narrated state job context stage before (sameTask ▸ task)).later move
    cases Befalls.of_perform found with
    | kept state before sameTask outcome elsewhere =>
        rw [outcome]
        apply quiet before sameTask
        apply taleIn_eq_nil
        rcases elsewhere with same | others
        · exact Or.inl (by rw [same])
        · exact Or.inr others
    | began absent started =>
        rcases started with ⟨rfl, fresh⟩ | listening
        · rw [taleIn_of_absent absent, List.append_nil]
          rw [task] at fresh arriving
          have first : stage = .arriving := by simpa [Move.startsArriving] using arriving
          subst first
          rw [fresh]
          exact .onTheWay (Or.inl rfl) rfl limited (accompanied.unborn absent)
        · rw [task] at listening
          cases listening
    | dropped state before unfinished ended step cause =>
        have silent : (start.run moves).taleIn index move = [] := by
          apply taleIn_eq_nil
          exact Or.inl (by rw [step, dropTask_signs])
        have narrated := quiet before (by rw [ended]) silent
        rw [unfinished] at narrated
        rw [ended]
        exact narrated.aborted
    | turned state before unfinished unmarked turns =>
        subst turns
        rcases admission_of_turn before found task with ⟨earlier, same⟩
        have narrated := accompanied.narrated state job context earlier before same
        rw [unfinished] at narrated
        have step := JobMoves.of_turn before same unfinished unmarked (by
          rw [(run_reaches start moves).length]
          exact narrated.placed)
        rcases narrated.turned before unfinished same found step with ⟨_, taskLater, told⟩
        rw [task] at taskLater
        cases taskLater
        exact told

/-- Every job has its story, whatever the others do. -/
theorem accompanied_of_run (limited : 0 < start.limiters.length) (idle : start.tasks = #[])
    (arriving : ∀ move ∈ moves, move.startsArriving = true) (index : Nat) :
    Accompanied start moves index := by
  induction moves using List.reverseRecOn with
  | nil =>
      refine ⟨fun _ => rfl, ?_⟩
      intro state job context stage found
      simp [idle] at found
  | append_singleton moves move ih =>
      have before := ih fun other member => arriving other (List.mem_append_left _ member)
      exact before.concat limited (arriving move (by simp))

/-- Every job that is not with the last handler waits for a limiter of the chain. -/
def Placed (system : System) : Prop :=
  ∀ (index : Nat) (state : TaskState) (job : Job) (context : Context) (stage : Stage),
    system.tasks[index]? = some state → state.task = .admission job context stage →
    state.outcome = none → stage.isInside = false →
    stage.passed system.limiters.length < system.limiters.length

theorem placed_of_run (limited : 0 < start.limiters.length) (idle : start.tasks = #[])
    (arriving : ∀ move ∈ moves, move.startsArriving = true) : (start.run moves).Placed := by
  intro index state job context stage found task unfinished
  have narrated := (accompanied_of_run limited idle arriving index).narrated state job context
    stage found task
  rw [unfinished] at narrated
  rw [(run_reaches start moves).length]
  exact narrated.placed

end Narrations

end System

end Admission
