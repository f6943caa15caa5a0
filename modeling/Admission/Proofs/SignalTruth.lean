import Admission.Proofs.PoolQueue
import Admission.Proofs.TimerRuns
import Mathlib.Algebra.BigOperators.Group.Finset.Piecewise

/-!
# Signals are truthful

In every run a signal is stale only for a reason: somebody fired it, or it was made with a delay
and the delay has passed since its timer started. It stays stale, and nobody who waits for it is
told so earlier. When no task can make progress the converse holds as well: a signal with a clone
is stale if there is a reason, nobody waits for a stale signal, and there is one timer for each
signal that could still become stale by itself.
-/

namespace Admission

/-- The timers that could still fire. -/
def TaskState.isRunningTimer (state : TaskState) : Bool :=
  state.outcome.isNone && state.task.isTimer

/-- Whether a signal could still become stale by itself, and somebody would see it. -/
def StaleSignal.isTicking (signal : StaleSignal) : Bool :=
  signal.timed && !signal.fired && !signal.isForsaken

/-- The signal that a task fires after a delay. -/
def Task.rings? : Task → Option Nat
  | .timer signal _ _ => some signal
  | .awaitCancellation _ | .awaitStaleness _ | .acquisition _ _ | .admission _ _ _
  | .registration _ _ _ | .listening _ => none

/-- Whether a signal of a system could still become stale by itself. -/
def System.isTicking (system : System) (signal : Nat) : Bool :=
  system.isTimed signal && !system.isFired signal && decide (0 < system.clonesOf signal)

/-- An ended task goes on meaning what it meant. -/
theorem System.Honest.of_advances {system : System} {task later : Task} {outcome : Outcome}
    (honest : system.Honest task outcome) (advances : task.Advances later) :
    system.Honest later outcome := by
  cases advances <;> exact honest

/-- The places of the items that pass a test. -/
def places {Item : Type} (test : Item → Bool) (items : List Item) : Finset Nat :=
  (Finset.range items.length).filter fun place => items[place]?.any test = true

theorem mem_places {Item : Type} {test : Item → Bool} {items : List Item} {place : Nat} :
    place ∈ places test items ↔ ∃ item, items[place]? = some item ∧ test item = true := by
  rw [places, Finset.mem_filter, Finset.mem_range, Option.any_eq_true]
  constructor
  · exact And.right
  · rintro ⟨item, found, passes⟩
    exact ⟨(List.getElem?_eq_some_iff.mp found).1, item, found, passes⟩

theorem card_places {Item : Type} (test : Item → Bool) (items : List Item) :
    (places test items).card = items.countP test := by
  induction items with
  | nil => rfl
  | cons first rest ih =>
      rw [places, Finset.card_filter] at ih ⊢
      rw [List.length_cons, Finset.sum_range_succ', List.countP_cons, ← ih]
      rfl

namespace Keeper

/-! ### Whoever waits for a signal -/

/-- What the outcome of a task that waited for a signal says about the run. A job may also fail
because the last handler finds it stale. -/
def Heard (start : Keeper) (acts : List SignalAct) : Task → Outcome → Prop
  | .awaitStaleness signal, outcome =>
      outcome = .aborted ∨
        (outcome = .staleness true ∧ (start.run acts).system.isFired signal = true)
  | .acquisition _ signal, outcome =>
      outcome = .stale → (start.run acts).system.isFired signal = true
  | .admission job _ _, outcome =>
      outcome = .handled (.error .staleJob) →
        (start.run acts).system.isFired job.signal = true ∨
          ∃ before, before <+: acts ∧
            ((start.run before).system.ruleFor job.uuid).fails = some .staleJob
  | _, _ => True

section Hearing

variable {keeper next : Keeper} {act : SignalAct} {index : Nat} {state : TaskState}
  {outcome : Outcome}

/-- A task that has ended had ended before, or ends in the call and says the truth. -/
theorem Effect.outcome_cases (effect : Effect keeper act next)
    (found : next.system.tasks[index]? = some state) (ended : state.outcome = some outcome) :
    (∃ before, keeper.system.tasks[index]? = some before ∧ before.outcome = some outcome ∧
      before.task = state.task) ∨ keeper.system.Honest state.task outcome := by
  cases effect.origin found with
  | stayed before present outcome task =>
      exact Or.inl ⟨before, present, outcome.trans ended, task⟩
  | started going _ | made _ _ _ going _ =>
      rw [ended] at going
      cases going
  | listens listens =>
      refine Or.inr ?_
      cases task : state.task <;> first | trivial | (rw [task] at listens; cases listens)
  | worked before present other heeds advances =>
      refine Or.inr ?_
      cases heeds with
      | goesOn latest _ foundLatest going _ =>
          rw [found] at foundLatest
          cases foundLatest
          rw [ended] at going
          cases going
      | ends latest final _ _ foundLatest finished honest =>
          rw [found] at foundLatest
          cases foundLatest
          rw [ended] at finished
          cases finished
          exact honest.of_advances advances
  | rung before signal delay deadline later present own still =>
      rw [still]
      exact Or.inr trivial

end Hearing

/-! ### Runs -/

section Runs

variable {start : Keeper} {acts : List SignalAct}

/-- Whoever was told something was told the truth when it ended. -/
theorem honest_of_lawful (unheld : start.held = []) (idle : start.system.tasks = #[])
    (unsignalled : start.system.signals = #[]) (lawful : start.isLawful acts = true) :
    ∀ (index : Nat) (state : TaskState) (outcome : Outcome),
      (start.run acts).system.tasks[index]? = some state → state.outcome = some outcome →
        ∃ before, before <+: acts ∧ (start.run before).system.Honest state.task outcome := by
  induction acts using List.reverseRecOn with
  | nil =>
      intro index state outcome found _
      simp [run, idle] at found
  | append_singleton acts act ih =>
      rw [isLawful_concat, Bool.and_eq_true] at lawful
      have earlier := List.prefix_append acts [act]
      have effect :=
        (signalsKept_of_lawful unheld idle unsignalled lawful.1).effect lawful.2
      intro index state outcome found ended
      rcases effect.outcome_cases found ended with ⟨original, present, same, task⟩ | honest
      · rcases ih lawful.1 index original outcome present same with ⟨before, path, honest⟩
        rw [task] at honest
        exact ⟨before, path.trans earlier, honest⟩
      · exact ⟨acts, earlier, honest⟩

/-- A stale signal stays stale. -/
theorem isFired_of_prefix (unheld : start.held = []) (idle : start.system.tasks = #[])
    (unsignalled : start.system.signals = #[]) (lawful : start.isLawful acts = true)
    {before : List SignalAct} (earlier : before <+: acts) {signal : Nat}
    (fired : (start.run before).system.isFired signal = true) :
    (start.run acts).system.isFired signal = true := by
  induction acts using List.reverseRecOn with
  | nil => rwa [← List.prefix_nil.mp earlier]
  | append_singleton acts act ih =>
      rw [isLawful_concat, Bool.and_eq_true] at lawful
      rcases List.prefix_concat_iff.mp earlier with whole | within
      · rwa [← whole]
      · have effect :=
          (signalsKept_of_lawful unheld idle unsignalled lawful.1).effect lawful.2
        exact effect.ages.isFired (ih lawful.1 within)

theorem heard_of_lawful (unheld : start.held = []) (idle : start.system.tasks = #[])
    (unsignalled : start.system.signals = #[]) (lawful : start.isLawful acts = true)
    {index : Nat} {state : TaskState} {outcome : Outcome}
    (found : (start.run acts).system.tasks[index]? = some state)
    (ended : state.outcome = some outcome) : Heard start acts state.task outcome := by
  rcases honest_of_lawful unheld idle unsignalled lawful index state outcome found ended with
    ⟨before, earlier, honest⟩
  have still {signal : Nat} (fired : (start.run before).system.isFired signal = true) :
      (start.run acts).system.isFired signal = true :=
    isFired_of_prefix unheld idle unsignalled lawful earlier fired
  cases task : state.task with
  | awaitStaleness signal =>
      rw [task] at honest
      exact honest.imp_right fun told => ⟨told.1, still told.2⟩
  | acquisition context signal =>
      rw [task] at honest
      exact fun stale => still (honest stale)
  | admission job context stage =>
      rw [task] at honest
      exact fun stale => (honest stale).imp still fun fails => ⟨before, earlier, fails⟩
  | timer _ _ _ | awaitCancellation _ | registration _ _ _ | listening _ => trivial

/-! ### Systems at rest -/

theorem eq_of_modify_eq {tasks : Array TaskState} {index : Nat} {state : TaskState}
    {change : TaskState → TaskState} (found : tasks[index]? = some state)
    (same : tasks = tasks.modify index change) : change state = state := by
  have changed := found
  rw [same, Array.getElem?_modify, if_pos rfl, found] at changed
  exact Option.some.inj changed

/-- A timer that is at rest and has not ended waits for a time to come. -/
theorem Timed.waits {delay signal index : Nat} {state : TaskState}
    (timed : Timed start acts delay signal index)
    (settled : (start.run acts).system.Settled)
    (found : (start.run acts).system.tasks[index]? = some state)
    (unfinished : state.outcome = none) :
    (start.run acts).system.isFired signal = false ∧ 0 < (start.run acts).system.clonesOf signal ∧
      ∃ tick, Begun start acts index tick ∧ (start.run acts).system.now < tick + delay := by
  rcases timed with ⟨timed, same, foundToo, spared, standing⟩
  rw [found] at foundToo
  cases foundToo
  rcases standing.task with ⟨deadline, own⟩
  have rings := System.turn_rings found unfinished spared own (System.lt_of_isTimed timed)
  rw [settled index] at rings
  cases rings with
  | finished _ _ tasks | rings _ _ _ _ tasks =>
      have ended := congrArg TaskState.outcome (eq_of_modify_eq found tasks)
      rw [unfinished] at ended
      cases ended
  | waits unfired live early keeps tasks =>
      refine ⟨unfired, live, ?_⟩
      rcases standing.deadline_cases unfinished own with ⟨rfl, -⟩ | ⟨tick, rfl, begun⟩
      · have started := congrArg TaskState.task (eq_of_modify_eq found tasks)
        rw [own] at started
        cases started
      · exact ⟨tick, begun, early⟩

theorem SignalsKept.isFired_iff {signal : Nat} (kept : SignalsKept start acts)
    (settled : (start.run acts).system.Settled)
    (live : 0 < (start.run acts).system.clonesOf signal) :
    (start.run acts).system.isFired signal = true ↔ ByHand acts signal ∨ Due start acts signal := by
  refine ⟨kept.sound, ?_⟩
  rintro (byHand | ⟨delay, index, tick, made, begun, passed⟩)
  · exact kept.byHand byHand
  · have timed := kept.timers made
    rcases timed.stands with ⟨state, found, -, standing⟩
    cases unfinished : state.outcome with
    | none =>
        rcases timed.waits settled found unfinished with ⟨-, -, tick', begunToo, early⟩
        have same := begun.unique begunToo
        omega
    | some outcome =>
        cases standing with
        | unstarted going _ _ | running _ going _ _ =>
            rw [unfinished] at going
            cases going
        | finished _ _ _ needless =>
            refine needless.resolve_right ?_
            omega

/-- Nobody is left waiting for a stale signal. -/
theorem unfired_of_awaited {system : System} (settled : system.Settled) {index signal : Nat}
    {state : TaskState} (found : system.tasks[index]? = some state)
    (unfinished : state.outcome = none) (awaited : state.task.awaited? = some signal) :
    system.isFired signal = false := by
  have other : state.task.isTimer = false := by
    cases task : state.task <;> first | rfl | (rw [task] at awaited; cases awaited)
  have heeds := System.turn_heeds found unfinished other
  rw [settled index] at heeds
  cases heeds with
  | goesOn later keeps foundLater going unfired =>
      rw [found] at foundLater
      cases foundLater
      exact unfired signal awaited
  | ends later outcome now signals foundLater ended honest =>
      rw [found] at foundLater
      cases foundLater
      rw [unfinished] at ended
      cases ended

/-! ### Timers and the signals that tick -/

theorem SignalsKept.ticking_of_running (kept : SignalsKept start acts)
    (settled : (start.run acts).system.Settled) {index : Nat} {state : TaskState}
    (found : (start.run acts).system.tasks[index]? = some state)
    (running : state.isRunningTimer = true) :
    ∃ signal delay, state.task.rings? = some signal ∧ Made start acts delay signal index ∧
      (start.run acts).system.isTicking signal = true := by
  simp only [TaskState.isRunningTimer, Bool.and_eq_true, Option.isNone_iff_eq_none] at running
  cases own : state.task with
  | timer signal delay deadline =>
      have made := kept.made ⟨state, deadline, found, own⟩
      have timed := kept.timers made
      rcases timed.waits settled found running.1 with ⟨unfired, live, -⟩
      refine ⟨signal, delay, rfl, made, ?_⟩
      simp [System.isTicking, timed.timed, unfired, live]
  | awaitCancellation _ | awaitStaleness _ | acquisition _ _ | admission _ _ _
  | registration _ _ _ | listening _ =>
      rw [own] at running
      cases running.2

theorem SignalsKept.running_of_ticking (kept : SignalsKept start acts) {signal : Nat}
    (ticking : (start.run acts).system.isTicking signal = true) :
    ∃ (index : Nat) (state : TaskState), (start.run acts).system.tasks[index]? = some state ∧
      state.isRunningTimer = true ∧ state.task.rings? = some signal := by
  simp only [System.isTicking, Bool.and_eq_true, Bool.not_eq_true', decide_eq_true_eq] at ticking
  rcases ticking with ⟨⟨timed, unfired⟩, live⟩
  rcases kept.timed timed with ⟨delay, index, made⟩
  rcases (kept.timers made).stands with ⟨state, found, -, standing⟩
  rcases standing.task with ⟨deadline, own⟩
  refine ⟨index, state, found, ?_, by rw [own]; rfl⟩
  cases standing with
  | unstarted unfinished _ _ | running _ unfinished _ _ =>
      simp [TaskState.isRunningTimer, unfinished, own, Task.isTimer]
  | finished _ _ _ needless =>
      rw [unfired] at needless
      rcases needless with stale | forsaken
      · cases stale
      · omega

theorem isTicking_eq {system : System} {signal : Nat} {state : StaleSignal}
    (found : system.signals[signal]? = some state) :
    state.isTicking = system.isTicking signal := by
  simp [StaleSignal.isTicking, System.isTicking, System.isTimed, System.isFired, System.clonesOf,
    found, StaleSignal.isForsaken, Nat.pos_iff_ne_zero, Bool.beq_eq_decide_eq]

/-- The timers that could still fire are those of the signals that could still become stale. -/
theorem SignalsKept.countP_eq (kept : SignalsKept start acts)
    (settled : (start.run acts).system.Settled) :
    (start.run acts).system.tasks.countP TaskState.isRunningTimer =
      (start.run acts).system.signals.countP StaleSignal.isTicking := by
  have running {index : Nat} {state : TaskState}
      (found : (start.run acts).system.tasks.toList[index]? = some state)
      (runs : state.isRunningTimer = true) :
      ∃ signal delay, ((start.run acts).system.tasks[index]?.bind (·.task.rings?)).getD 0 = signal ∧
        Made start acts delay signal index ∧ (start.run acts).system.isTicking signal = true := by
    rw [Array.getElem?_toList] at found
    rcases kept.ticking_of_running settled found runs with ⟨signal, delay, rings, made, ticks⟩
    exact ⟨signal, delay, by simp [found, rings], made, ticks⟩
  rw [← Array.countP_toList, ← Array.countP_toList, ← card_places, ← card_places]
  refine Finset.card_nbij
    (fun index => ((start.run acts).system.tasks[index]?.bind (·.task.rings?)).getD 0) ?_ ?_ ?_
  · intro index member
    rcases mem_places.mp member with ⟨state, found, runs⟩
    rcases running found runs with ⟨signal, delay, rings, made, ticks⟩
    have present := Array.getElem?_eq_getElem (System.lt_of_isTimed (kept.timers made).timed)
    rw [← isTicking_eq present] at ticks
    refine mem_places.mpr ⟨_, ?_, ticks⟩
    rw [Array.getElem?_toList, ← present, ← rings]
  · intro index member other memberToo same
    rcases mem_places.mp member with ⟨state, found, runs⟩
    rcases mem_places.mp memberToo with ⟨state', foundToo, runsToo⟩
    rcases running found runs with ⟨signal, delay, rings, made, -⟩
    rcases running foundToo runsToo with ⟨signal', delay', rings', made', -⟩
    have signals : signal = signal' := rings.symm.trans (same.trans rings')
    subst signals
    exact (kept.unique made made').2
  · intro signal member
    rcases mem_places.mp member with ⟨alarm, found, ticks⟩
    rw [Array.getElem?_toList] at found
    rw [isTicking_eq found] at ticks
    rcases kept.running_of_ticking ticks with ⟨index, state, foundState, runs, rings⟩
    refine ⟨index, mem_places.mpr ⟨state, ?_, runs⟩, ?_⟩
    · rw [Array.getElem?_toList, foundState]
    · simp [foundState, rings]

/-- What holds of the signals in every state of a run. -/
structure TruthfulSignals (start : Keeper) (acts : List SignalAct) : Prop where
  counted : ∀ signal, (start.run acts).system.clonesOf signal =
    (start.run acts).held.count signal +
      (start.run acts).system.tasks.countP (TaskState.holdsClone signal)
  timed : ∀ signal, (start.run acts).system.isTimed signal = true ↔
    ∃ delay index, Made start acts delay signal index
  sound : ∀ signal, (start.run acts).system.isFired signal = true →
    ByHand acts signal ∨ Due start acts signal
  lasting : ∀ before signal, before <+: acts →
    (start.run before).system.isFired signal = true → (start.run acts).system.isFired signal = true
  heard : ∀ (index : Nat) (state : TaskState) (outcome : Outcome),
    (start.run acts).system.tasks[index]? = some state → state.outcome = some outcome →
      Heard start acts state.task outcome

/-- What holds of the signals besides when no task can make progress. -/
structure SettledSignals (start : Keeper) (acts : List SignalAct) : Prop where
  stale : ∀ signal, 0 < (start.run acts).system.clonesOf signal →
    ((start.run acts).system.isFired signal = true ↔ ByHand acts signal ∨ Due start acts signal)
  resumed : ∀ (index : Nat) (state : TaskState) (signal : Nat),
    (start.run acts).system.tasks[index]? = some state → state.outcome = none →
      state.task.awaited? = some signal → (start.run acts).system.isFired signal = false
  timers : (start.run acts).system.tasks.countP TaskState.isRunningTimer =
    (start.run acts).system.signals.countP StaleSignal.isTicking

/-- Stale signals and their timers do what they promise, in whatever order clones are taken, handed
over and given up, signals are fired, tasks have their turns and time passes. -/
theorem signals_truthful (start : Keeper) (acts : List SignalAct) (unheld : start.held = [])
    (idle : start.system.tasks = #[]) (unsignalled : start.system.signals = #[])
    (lawful : start.isLawful acts = true) :
    TruthfulSignals start acts ∧
      ((start.run acts).system.Settled → SettledSignals start acts) := by
  have kept := signalsKept_of_lawful unheld idle unsignalled lawful
  constructor
  · refine ⟨kept.counted, ?_, fun _ => kept.sound, ?_, ?_⟩
    · intro signal
      refine ⟨kept.timed, ?_⟩
      rintro ⟨delay, index, made⟩
      exact (kept.timers made).timed
    · intro before signal earlier
      exact isFired_of_prefix unheld idle unsignalled lawful earlier
    · intro index state outcome
      exact heard_of_lawful unheld idle unsignalled lawful
  · intro settled
    exact ⟨fun _ => kept.isFired_iff settled, fun _ _ _ => unfired_of_awaited settled,
      kept.countP_eq settled⟩

/-- A job and another task wait for a signal that becomes stale after five ticks. A signal with a
longer delay goes on ticking, and the last clone of a third one is given up before its delay has
passed. -/
def alarmed : List SignalAct :=
  [.timed 5, .timed 100, .timed 3, .move (.elsewhere .createContext), .move (.tryAcquire 0),
    .move (.elsewhere (.holdSignal 0)), .move (.elsewhere (.holdSignal 0)),
    .move (.start (.awaitStaleness 0)),
    .move (.start (.admission { uuid := "job", signal := 0 } ⟨⟨0, 0⟩, []⟩ .arriving)),
    .move (.elsewhere (.dropSignal 2)), .move (.turn 0), .move (.turn 1), .move (.turn 2),
    .move (.turn 3), .move (.turn 4), .move (.elsewhere (.setClock 5)), .move (.turn 0),
    .move (.turn 3), .move (.turn 4)]

theorem signals_truthful_alarmed :
    TruthfulSignals ⟨.single (.full 1), []⟩ alarmed ∧
      SettledSignals ⟨.single (.full 1), []⟩ alarmed ∧
      (run ⟨.single (.full 1), []⟩ alarmed).system.isFired 0 = true ∧
      (run ⟨.single (.full 1), []⟩ alarmed).system.clonesOf 0 = 1 ∧
      (run ⟨.single (.full 1), []⟩ alarmed).system.tasks.countP TaskState.isRunningTimer = 1 := by
  have truthful := signals_truthful ⟨.single (.full 1), []⟩ alarmed rfl rfl rfl (by decide)
  have ticking : (run ⟨.single (.full 1), []⟩ alarmed).system.tasks[1]? =
      some { task := .timer 1 100 (some 100) } := rfl
  have settled : (run ⟨.single (.full 1), []⟩ alarmed).system.Settled := by
    intro index
    match index with
    | 1 => exact System.turn_of_early ticking rfl rfl rfl rfl (by decide) (by decide)
    | 0 | 2 | 3 | 4 => rfl
    | index + 5 => rfl
  exact ⟨truthful.1, truthful.2 settled, by decide, by decide, by decide⟩

end Runs

end Keeper

end Admission
