import Admission.Proofs.Clones

/-!
# Timers

A signal that is made with a delay gets a timer. The timer starts at its first turn, and fires the
signal at the first turn after the delay has passed since then. It ends when the signal has fired or
its last clone is gone, and until then it waits.

`SignalsKept` says how far every timer has come, and why a signal is stale. One call keeps it, and
so does a run.
-/

namespace Admission

namespace System

section Readings

variable {system next : System}

theorem isFired_of_eq (same : next.signals = system.signals) (signal : Nat) :
    next.isFired signal = system.isFired signal := by
  rw [isFired, isFired, same]

theorem isFired_of_released {held : Option Nat}
    (released : next.signals = StaleSignal.released system.signals held) (signal : Nat) :
    next.isFired signal = system.isFired signal := by
  cases held with
  | none => exact isFired_of_eq released signal
  | some dropped => rw [isFired, isFired, StaleSignal.view_of_modify _ released fun _ => rfl]

theorem isFired_of_push {made : StaleSignal} (pushed : next.signals = system.signals.push made)
    (unfired : made.fired = false) (signal : Nat) :
    next.isFired signal = system.isFired signal := by
  rw [isFired, isFired, pushed, Array.getElem?_push]
  split
  · rename_i same
    rw [same]
    simp [unfired]
  · rfl

theorem isFired_of_fire {fired signal : Nat}
    (signals : next.signals = system.signals.modify fired StaleSignal.fire)
    (stale : next.isFired signal = true) : fired = signal ∨ system.isFired signal = true := by
  by_cases same : fired = signal
  · exact Or.inl same
  · rw [isFired, signals, Array.getElem?_modify, if_neg same] at stale
    exact Or.inr stale

theorem isFired_fire {signal : Nat} (live : 0 < system.clonesOf signal)
    (signals : next.signals = system.signals.modify signal StaleSignal.fire) :
    next.isFired signal = true := by
  rcases clonesOf_of_lt live with ⟨state, found, -⟩
  rw [isFired, signals, Array.getElem?_modify, if_pos rfl, found]
  rfl

end Readings

end System

theorem Task.isTimer_of_eq {task : Task} {signal delay : Nat} {deadline : Option Nat}
    (own : task = .timer signal delay deadline) : task.isTimer = true := by
  rw [own]
  rfl

namespace Keeper

/-! ### Timers in one call -/

/-- The task of an index is the timer that fires a signal after a delay. -/
def HasTimer (keeper : Keeper) (index signal delay : Nat) : Prop :=
  ∃ state deadline, keeper.system.tasks[index]? = some state ∧
    state.task = .timer signal delay deadline

section Effects

variable {keeper next : Keeper} {act : SignalAct} {index signal delay : Nat}
  {deadline : Option Nat} {state : TaskState}

/-- A timer that has no turn, or has ended, stays as it is. -/
theorem Effect.timer_cases (effect : Effect keeper act next)
    (found : keeper.system.tasks[index]? = some state)
    (own : state.task = .timer signal delay deadline) :
    (next.system.tasks[index]? = some state ∧
      (act = .move (.turn index) → state.outcome ≠ none)) ∨
    (act = .move (.turn index) ∧ state.outcome = none ∧
      System.Rings index signal delay deadline keeper.system next.system) := by
  have inside := (Array.getElem?_eq_some_iff.mp found).1
  have notLast : index ≠ keeper.system.tasks.size := Nat.ne_of_lt inside
  have apart {other : Nat} {neighbour : TaskState}
      (present : keeper.system.tasks[other]? = some neighbour)
      (untimed : neighbour.task.isTimer = false) : other ≠ index := by
    intro same
    subst same
    rw [found] at present
    cases present
    rw [Task.isTimer_of_eq own] at untimed
    cases untimed
  cases effect with
  | silent quiet now signals tasks held =>
      refine Or.inl ⟨by rw [tasks, found], ?_⟩
      intro turned
      cases turned
      cases quiet
  | idles present ended same held =>
      refine Or.inl ⟨by rw [same, found], ?_⟩
      intro turned unfinished
      cases turned
      rw [found] at present
      cases present
      rw [unfinished] at ended
      cases ended
  | works turned present unfinished other heeds advance held =>
      rename_i worker neighbour
      have away := apart present other
      refine Or.inl ⟨?_, ?_⟩
      · rw [advance.others index (Ne.symm away) inside, found]
      · intro same
        cases same
        rcases turned with turned | turned
        · cases turned
          exact absurd rfl away
        · cases turned
  | rings present unfinished owns rings held =>
      rename_i timer rung wait until' other
      by_cases same : timer = index
      · subst same
        rw [found] at present
        cases present
        rw [own] at owns
        cases owns
        exact Or.inr ⟨rfl, unfinished, rings⟩
      · refine Or.inl ⟨?_, ?_⟩
        · rcases rings.modifies with ⟨change, tasks, -⟩
          rw [tasks, Array.getElem?_modify, if_neg same, found]
        · intro turned
          cases turned
          exact absurd rfl same
  | aborts present other keeps tasks held =>
      refine Or.inl ⟨?_, by simp⟩
      rw [tasks, Array.getElem?_modify, if_neg (apart present other), found]
  | starts other given keeps tasks held =>
      refine Or.inl ⟨?_, by simp⟩
      rw [tasks, Array.getElem?_push, if_neg notLast, found]
  | timed now signals tasks held =>
      refine Or.inl ⟨?_, by simp⟩
      rw [tasks, Array.getElem?_push, if_neg notLast, found]
  | created now signals tasks held => exact Or.inl ⟨by rw [tasks, found], by simp⟩
  | cloned live now signals tasks held => exact Or.inl ⟨by rw [tasks, found], by simp⟩
  | dropped member now signals tasks held => exact Or.inl ⟨by rw [tasks, found], by simp⟩
  | fired live now signals tasks held => exact Or.inl ⟨by rw [tasks, found], by simp⟩

/-- A task whose mark is changed does what it did, and ends as it ended. -/
theorem task_of_modify {changed : Nat} {change : TaskState → TaskState}
    (tasks : next.system.tasks = keeper.system.tasks.modify changed change)
    (same : ∀ before, (change before).outcome = before.outcome ∧
      (change before).task = before.task)
    (found : next.system.tasks[index]? = some state) :
    ∃ before, keeper.system.tasks[index]? = some before ∧ before.outcome = state.outcome ∧
      before.task = state.task := by
  rw [tasks, Array.getElem?_modify] at found
  split at found
  · rcases Option.map_eq_some_iff.mp found with ⟨before, present, rfl⟩
    exact ⟨before, present, (same before).1.symm, (same before).2.symm⟩
  · exact ⟨state, found, rfl, rfl⟩

/-- Where a task comes from that is there after a call. -/
inductive TaskOrigin (keeper next : Keeper) (act : SignalAct) (index : Nat) (state : TaskState) :
    Prop where
  /-- It was there, and only its mark may have changed. -/
  | stayed (before : TaskState) (found : keeper.system.tasks[index]? = some before)
      (outcome : before.outcome = state.outcome) (task : before.task = state.task)
  /-- Somebody has started it. -/
  | started (going : state.outcome = none) (other : state.task.isTimer = false)
  /-- It is the timer of a signal that is made. -/
  | made (delay : Nat) (timed : act = .timed delay) (last : keeper.system.tasks.size = index)
      (going : state.outcome = none)
      (own : state.task = .timer keeper.system.signals.size delay none)
  /-- It is the listener of a watch that begins. -/
  | listens (listens : state.task.isListening = true)
  /-- It had a turn, or was dropped. -/
  | worked (before : TaskState) (found : keeper.system.tasks[index]? = some before)
      (other : before.task.isTimer = false)
      (heeds : System.Heeds index before.task keeper.system next.system)
      (advances : before.task.Advances state.task)
  /-- It is a timer, and had a turn. -/
  | rung (before : TaskState) (signal delay : Nat) (deadline later : Option Nat)
      (found : keeper.system.tasks[index]? = some before)
      (own : before.task = .timer signal delay deadline)
      (still : state.task = .timer signal delay later)

theorem TaskOrigin.of_eq (tasks : next.system.tasks = keeper.system.tasks)
    (found : next.system.tasks[index]? = some state) : TaskOrigin keeper next act index state := by
  rw [tasks] at found
  exact .stayed state found rfl rfl

theorem Effect.origin (effect : Effect keeper act next)
    (found : next.system.tasks[index]? = some state) :
    TaskOrigin keeper next act index state := by
  cases effect with
  | works turned present unfinished other heeds advance held =>
      rcases advance.origin found with before | listens | ⟨rfl, worker, before, advances⟩
      · exact .stayed state before rfl rfl
      · exact .listens listens
      · rw [before] at present
        cases present
        exact .worked _ before other heeds advances
  | rings present unfinished own rings held =>
      rcases rings.modifies with ⟨change, tasks, still⟩
      rw [tasks, Array.getElem?_modify] at found
      split at found
      · rename_i same
        subst same
        rw [present] at found
        cases found
        rcases still _ own with ⟨later, task⟩
        exact .rung _ _ _ _ later present own task
      · exact .stayed state found rfl rfl
  | aborts present other keeps tasks held =>
      rcases task_of_modify tasks (fun _ => ⟨rfl, rfl⟩) found with
        ⟨before, present, outcome, task⟩
      exact .stayed before present outcome task
  | starts other given keeps tasks held =>
      rw [tasks, Array.getElem?_push] at found
      split at found
      · cases found
        exact .started rfl other
      · exact .stayed state found rfl rfl
  | timed now signals tasks held =>
      rw [tasks, Array.getElem?_push] at found
      split at found
      · rename_i last
        cases found
        exact .made _ rfl last.symm rfl rfl
      · exact .stayed state found rfl rfl
  | idles present finished same held => exact .of_eq (congrArg System.tasks same) found
  | silent quiet now signals tasks held => exact .of_eq tasks found
  | created now signals tasks held => exact .of_eq tasks found
  | cloned live now signals tasks held => exact .of_eq tasks found
  | dropped member now signals tasks held => exact .of_eq tasks found
  | fired live now signals tasks held => exact .of_eq tasks found

/-- A timer was there before, or is made with its signal. -/
theorem Effect.timer_origin (effect : Effect keeper act next)
    (found : next.system.tasks[index]? = some state)
    (own : state.task = .timer signal delay deadline) :
    keeper.HasTimer index signal delay ∨
      (act = .timed delay ∧ keeper.system.signals.size = signal ∧
        keeper.system.tasks.size = index) := by
  cases effect.origin found with
  | stayed before present outcome task =>
      exact Or.inl ⟨before, deadline, present, task.trans own⟩
  | started going other =>
      rw [Task.isTimer_of_eq own] at other
      cases other
  | made delay timed last going made =>
      rw [own] at made
      cases made
      exact Or.inr ⟨timed, rfl, last⟩
  | listens listens =>
      rw [own] at listens
      cases listens
  | worked before present other heeds advances =>
      rw [← advances.isTimer_eq, Task.isTimer_of_eq own] at other
      cases other
  | rung before signal delay earlier later present owns still =>
      rw [own] at still
      cases still
      exact Or.inl ⟨before, earlier, present, owns⟩

/-- A signal that is stale was stale before, or was fired by hand or by its timer. -/
theorem Effect.isFired_cases (effect : Effect keeper act next)
    (stale : next.system.isFired signal = true) :
    keeper.system.isFired signal = true ∨ keeper.FiredBy act signal := by
  cases effect.signals with
  | released held released =>
      rw [System.isFired_of_released released] at stale
      exact Or.inl stale
  | made timed delayed pushed =>
      rw [System.isFired_of_push pushed rfl] at stale
      exact Or.inl stale
  | cloned cloned live modified =>
      rw [System.isFired, StaleSignal.view_of_modify _ modified fun _ => rfl] at stale
      exact Or.inl stale
  | fired fired live reason modified =>
      rcases System.isFired_of_fire modified stale with same | before
      · subst same
        exact Or.inr reason
      · exact Or.inl before

/-- A signal with a timer had it before, or is made with it. -/
theorem Effect.isTimed_cases (effect : Effect keeper act next)
    (timed : next.system.isTimed signal = true) :
    keeper.system.isTimed signal = true ∨
      (keeper.system.signals.size = signal ∧ ∃ delay, act = .timed delay) := by
  cases effect.signals with
  | released held released =>
      cases held with
      | none =>
          rw [System.isTimed, released] at timed
          exact Or.inl timed
      | some dropped =>
          rw [System.isTimed, StaleSignal.view_of_modify _ released fun _ => rfl] at timed
          exact Or.inl timed
  | made made delayed pushed =>
      rw [System.isTimed, pushed, Array.getElem?_push] at timed
      split at timed
      · rename_i same
        exact Or.inr ⟨same.symm, delayed (by simpa using timed)⟩
      · exact Or.inl timed
  | cloned cloned live modified | fired cloned live reason modified =>
      rw [System.isTimed, StaleSignal.view_of_modify _ modified fun _ => rfl] at timed
      exact Or.inl timed

/-- A signal that is fired by hand is stale. -/
theorem Effect.isFired_of_fire (effect : Effect keeper (.move (.elsewhere (.fire signal))) next) :
    next.system.isFired signal = true := by
  cases effect with
  | silent quiet _ _ _ _ => cases quiet
  | works turned _ _ _ _ _ _ =>
      rcases turned with turned | turned <;> cases turned
  | fired live _ signals _ _ => exact System.isFired_fire live signals

end Effects

/-! ### What happened in a run -/

/-- A signal was made with a delay, and a task became its timer. -/
def Made (start : Keeper) (acts : List SignalAct) (delay signal index : Nat) : Prop :=
  ∃ before, before ++ [.timed delay] <+: acts ∧
    (start.run before).system.signals.size = signal ∧
    (start.run before).system.tasks.size = index

def ByHand (acts : List SignalAct) (signal : Nat) : Prop :=
  .move (.elsewhere (.fire signal)) ∈ acts

/-- A task had its first turn at a tick. -/
def Begun (start : Keeper) (acts : List SignalAct) (index tick : Nat) : Prop :=
  ∃ before, before ++ [.move (.turn index)] <+: acts ∧
    SignalAct.move (.turn index) ∉ before ∧ (start.run before).system.now = tick

/-- A signal was made with a delay, and the delay has passed since its timer started. -/
def Due (start : Keeper) (acts : List SignalAct) (signal : Nat) : Prop :=
  ∃ delay index tick, Made start acts delay signal index ∧ Begun start acts index tick ∧
    tick + delay ≤ (start.run acts).system.now

section Runs

variable {start : Keeper} {acts before : List SignalAct} {act : SignalAct}
  {delay signal index tick : Nat}

theorem run_concat (start : Keeper) (acts : List SignalAct) (act : SignalAct) :
    start.run (acts ++ [act]) = (start.run acts).perform act := by
  simp [run]

theorem isLawful_concat (start : Keeper) (acts : List SignalAct) (act : SignalAct) :
    start.isLawful (acts ++ [act]) = (start.isLawful acts && (start.run acts).allows act) := by
  induction acts generalizing start with
  | nil => simp [isLawful, run]
  | cons first rest ih => simp [isLawful, ih, run, Bool.and_assoc]

theorem Made.mono (made : Made start before delay signal index) (earlier : before <+: acts) :
    Made start acts delay signal index := by
  rcases made with ⟨first, path, sizes⟩
  exact ⟨first, path.trans earlier, sizes⟩

theorem Begun.mono (begun : Begun start before index tick) (earlier : before <+: acts) :
    Begun start acts index tick := by
  rcases begun with ⟨first, path, rest⟩
  exact ⟨first, path.trans earlier, rest⟩

theorem made_concat (made : Made start (acts ++ [act]) delay signal index) :
    Made start acts delay signal index ∨
      (act = .timed delay ∧ (start.run acts).system.signals.size = signal ∧
        (start.run acts).system.tasks.size = index) := by
  rcases made with ⟨first, path, sizes⟩
  rcases List.prefix_concat_iff.mp path with whole | earlier
  · rcases List.append_inj' whole rfl with ⟨rfl, same⟩
    exact Or.inr ⟨(List.cons.inj same).1.symm, sizes⟩
  · exact Or.inl ⟨first, earlier, sizes⟩

/-- A task has only one first turn. -/
theorem Begun.unique {other : Nat} (begun : Begun start acts index tick)
    (again : Begun start acts index other) : tick = other := by
  rcases begun with ⟨first, path, unturned, now⟩
  rcases again with ⟨second, pathToo, unturnedToo, nowToo⟩
  have inside {shorter longer : List SignalAct} (path : shorter ++ [.move (.turn index)] <+: acts)
      (pathToo : longer ++ [.move (.turn index)] <+: acts)
      (unturned : SignalAct.move (.turn index) ∉ longer) : longer.length ≤ shorter.length := by
    apply Nat.not_lt.mp
    intro less
    have within : shorter ++ [.move (.turn index)] <+: longer := by
      apply List.prefix_of_prefix_length_le path ((List.prefix_append _ _).trans pathToo)
      rw [List.length_append, List.length_singleton]
      omega
    exact unturned (within.subset (by simp))
  have same : first = second := by
    have length : first.length = second.length :=
      Nat.le_antisymm (inside pathToo path unturned) (inside path pathToo unturnedToo)
    have prefixes := List.prefix_of_prefix_length_le ((List.prefix_append _ _).trans path)
      ((List.prefix_append _ _).trans pathToo) (Nat.le_of_eq length)
    exact prefixes.eq_of_length length
  rw [← now, ← nowToo, same]

theorem begun_of_turn (unturned : SignalAct.move (.turn index) ∉ acts) :
    Begun start (acts ++ [.move (.turn index)]) index (start.run acts).system.now :=
  ⟨acts, List.prefix_refl _, unturned, rfl⟩

end Runs

/-! ### How far every timer has come -/

/-- How far the timer of a signal has come. -/
inductive Standing (start : Keeper) (acts : List SignalAct) (delay signal index : Nat)
    (state : TaskState) : Prop where
  | unstarted (unfinished : state.outcome = none) (own : state.task = .timer signal delay none)
      (unturned : SignalAct.move (.turn index) ∉ acts)
  | running (tick : Nat) (unfinished : state.outcome = none)
      (own : state.task = .timer signal delay (some (tick + delay)))
      (begun : Begun start acts index tick)
  | finished (deadline : Option Nat) (ended : state.outcome ≠ none)
      (own : state.task = .timer signal delay deadline)
      (needless : (start.run acts).system.isFired signal = true ∨
        (start.run acts).system.clonesOf signal = 0)

/-- A signal with a timer, which nobody has dropped. -/
structure Timed (start : Keeper) (acts : List SignalAct) (delay signal index : Nat) : Prop where
  timed : (start.run acts).system.isTimed signal = true
  stands : ∃ state, (start.run acts).system.tasks[index]? = some state ∧
    state.isAborted = false ∧ Standing start acts delay signal index state

/-- How far all timers have come, and why signals are stale. -/
structure SignalsKept (start : Keeper) (acts : List SignalAct) : Prop where
  counted : (start.run acts).Counted
  turned : ∀ {index : Nat}, SignalAct.move (.turn index) ∈ acts →
    index < (start.run acts).system.tasks.size
  timers : ∀ {delay signal index : Nat}, Made start acts delay signal index →
    Timed start acts delay signal index
  made : ∀ {delay signal index : Nat}, (start.run acts).HasTimer index signal delay →
    Made start acts delay signal index
  timed : ∀ {signal : Nat}, (start.run acts).system.isTimed signal = true →
    ∃ delay index, Made start acts delay signal index
  unique : ∀ {delay signal index delay' index' : Nat}, Made start acts delay signal index →
    Made start acts delay' signal index' → delay = delay' ∧ index = index'
  sound : ∀ {signal : Nat}, (start.run acts).system.isFired signal = true →
    ByHand acts signal ∨ Due start acts signal
  byHand : ∀ {signal : Nat}, ByHand acts signal → (start.run acts).system.isFired signal = true

section Steps

variable {start : Keeper} {acts : List SignalAct} {act : SignalAct} {delay signal index : Nat}

theorem Due.concat (due : Due start acts signal)
    (effect : Effect (start.run acts) act (start.run (acts ++ [act]))) :
    Due start (acts ++ [act]) signal := by
  rcases due with ⟨delay, index, tick, made, begun, passed⟩
  have earlier := List.prefix_append acts [act]
  exact ⟨delay, index, tick, made.mono earlier, begun.mono earlier,
    Nat.le_trans passed effect.now_le⟩

/-- A timer that has not ended either had no turn, or knows when its delay has passed. -/
theorem Standing.deadline_cases {state : TaskState} {deadline : Option Nat}
    (standing : Standing start acts delay signal index state) (unfinished : state.outcome = none)
    (own : state.task = .timer signal delay deadline) :
    (deadline = none ∧ SignalAct.move (.turn index) ∉ acts) ∨
      ∃ tick, deadline = some (tick + delay) ∧ Begun start acts index tick := by
  cases standing with
  | unstarted _ owned unturned =>
      rw [owned] at own
      cases own
      exact Or.inl ⟨rfl, unturned⟩
  | running tick _ owned begun =>
      rw [owned] at own
      cases own
      exact Or.inr ⟨tick, rfl, begun⟩
  | finished _ ended _ _ => exact absurd unfinished ended

theorem Standing.task {state : TaskState}
    (standing : Standing start acts delay signal index state) :
    ∃ deadline, state.task = .timer signal delay deadline := by
  cases standing with
  | unstarted _ own _ => exact ⟨none, own⟩
  | running tick _ own _ => exact ⟨some (tick + delay), own⟩
  | finished deadline _ own _ => exact ⟨deadline, own⟩

/-- A signal that is stale or has no clone stays so. -/
theorem needless_of_effect
    (effect : Effect (start.run acts) act (start.run (acts ++ [act])))
    (inside : signal < (start.run acts).system.signals.size)
    (needless : (start.run acts).system.isFired signal = true ∨
      (start.run acts).system.clonesOf signal = 0) :
    (start.run (acts ++ [act])).system.isFired signal = true ∨
      (start.run (acts ++ [act])).system.clonesOf signal = 0 :=
  needless.imp effect.ages.isFired (effect.ages.clonesOf inside)

theorem Standing.concat {state : TaskState}
    (standing : Standing start acts delay signal index state)
    (effect : Effect (start.run acts) act (start.run (acts ++ [act])))
    (inside : signal < (start.run acts).system.signals.size)
    (idle : act = .move (.turn index) → state.outcome ≠ none) :
    Standing start (acts ++ [act]) delay signal index state := by
  cases standing with
  | unstarted unfinished own unturned =>
      refine .unstarted unfinished own ?_
      intro turned
      rcases List.mem_append.mp turned with earlier | now
      · exact unturned earlier
      · exact idle (List.mem_singleton.mp now).symm unfinished
  | running tick unfinished own begun =>
      exact .running tick unfinished own (begun.mono (List.prefix_append acts [act]))
  | finished deadline ended own needless =>
      exact .finished deadline ended own (needless_of_effect effect inside needless)

theorem Timed.concat (timed : Timed start acts delay signal index)
    (effect : Effect (start.run acts) act (start.run (acts ++ [act]))) :
    Timed start (acts ++ [act]) delay signal index := by
  rcases timed with ⟨timed, state, found, spared, standing⟩
  have inside := System.lt_of_isTimed timed
  rcases standing.task with ⟨deadline, own⟩
  refine ⟨effect.ages.isTimed timed, ?_⟩
  rcases effect.timer_cases found own with ⟨same, idle⟩ | ⟨turned, unfinished, rings⟩
  · exact ⟨state, same, spared, standing.concat effect inside idle⟩
  · have reached {change : TaskState → TaskState}
        (tasks : (start.run (acts ++ [act])).system.tasks =
          (start.run acts).system.tasks.modify index change) :
        (start.run (acts ++ [act])).system.tasks[index]? = some (change state) := by
      rw [tasks, Array.getElem?_modify, if_pos rfl, found]
      rfl
    cases rings with
    | finished needless keeps tasks =>
        exact ⟨_, reached tasks, spared,
          .finished deadline (by simp) own (needless_of_effect effect inside needless)⟩
    | rings live due now signals tasks =>
        exact ⟨_, reached tasks, spared,
          .finished deadline (by simp) own (Or.inl (System.isFired_fire live signals))⟩
    | waits unfired live early keeps tasks =>
        refine ⟨_, reached tasks, spared, ?_⟩
        rcases standing.deadline_cases unfinished own with ⟨rfl, unturned⟩ | ⟨tick, rfl, begun⟩
        · subst turned
          exact .running (start.run acts).system.now unfinished rfl (begun_of_turn unturned)
        · exact .running tick unfinished rfl (begun.mono (List.prefix_append acts [act]))

/-- The timer of a new signal has had no turn. -/
theorem Timed.of_timed
    (effect : Effect (start.run acts) (.timed delay) (start.run (acts ++ [.timed delay])))
    (turned : ∀ {index : Nat}, SignalAct.move (.turn index) ∈ acts →
      index < (start.run acts).system.tasks.size) :
    Timed start (acts ++ [.timed delay]) delay (start.run acts).system.signals.size
      (start.run acts).system.tasks.size := by
  cases effect with
  | timed now signals tasks held =>
      refine ⟨by simp [System.isTimed, signals], _, by rw [tasks, Array.getElem?_push_size], rfl,
        .unstarted rfl rfl ?_⟩
      intro earlier
      simp only [List.mem_append, List.mem_singleton, reduceCtorEq, or_false] at earlier
      exact absurd (turned earlier) (Nat.lt_irrefl _)

/-- A signal that a call makes stale was fired by hand or is due. -/
theorem SignalsKept.reason (kept : SignalsKept start acts)
    (effect : Effect (start.run acts) act (start.run (acts ++ [act])))
    (fired : (start.run acts).FiredBy act signal) :
    ByHand (acts ++ [act]) signal ∨ Due start (acts ++ [act]) signal := by
  rcases fired with rfl | ⟨index, delay, deadline, state, rfl, fires⟩
  · exact Or.inl (by simp [ByHand])
  · refine Or.inr ?_
    have made := kept.made ⟨state, deadline, fires.found, fires.own⟩
    have earlier := List.prefix_append acts [SignalAct.move (.turn index)]
    have later := effect.now_le
    have due := fires.due
    rcases kept.timers made with ⟨-, same, found, -, standing⟩
    rw [fires.found] at found
    cases found
    rcases standing.deadline_cases fires.unfinished fires.own with
      ⟨rfl, unturned⟩ | ⟨tick, rfl, begun⟩
    · refine ⟨delay, index, (start.run acts).system.now, made.mono earlier,
        begun_of_turn unturned, ?_⟩
      rw [Option.getD_none] at due
      omega
    · refine ⟨delay, index, tick, made.mono earlier, begun.mono earlier, ?_⟩
      rw [Option.getD_some] at due
      omega

/-- A call of the run is one of the cases. -/
theorem SignalsKept.effect (kept : SignalsKept start acts)
    (allowed : (start.run acts).allows act = true) :
    Effect (start.run acts) act (start.run (acts ++ [act])) := by
  rw [run_concat]
  refine effect_of_allows allowed ?_
  intro index state signal delay deadline found own
  rcases kept.timers (kept.made ⟨state, deadline, found, own⟩) with
    ⟨timed, same, foundToo, spared, -⟩
  rw [found] at foundToo
  cases foundToo
  exact ⟨spared, System.lt_of_isTimed timed⟩

/-- One more call. -/
theorem SignalsKept.concat (kept : SignalsKept start acts)
    (allowed : (start.run acts).allows act = true) : SignalsKept start (acts ++ [act]) := by
  have effect := kept.effect allowed
  have earlier := List.prefix_append acts [act]
  refine ⟨effect.counted kept.counted, ?_, ?_, ?_, ?_, ?_, ?_, ?_⟩
  · intro index turned
    rcases List.mem_append.mp turned with before | now
    · exact Nat.lt_of_lt_of_le (kept.turned before) effect.tasks_le
    · cases List.mem_singleton.mp now
      refine Nat.lt_of_lt_of_le ?_ effect.tasks_le
      simpa [allows] using allowed
  · intro delay signal index made
    rcases made_concat made with before | ⟨rfl, rfl, rfl⟩
    · exact (kept.timers before).concat effect
    · exact .of_timed effect kept.turned
  · rintro delay signal index ⟨state, deadline, found, own⟩
    rcases effect.timer_origin found own with before | ⟨rfl, rfl, rfl⟩
    · exact (kept.made before).mono earlier
    · exact ⟨acts, List.prefix_refl _, rfl, rfl⟩
  · intro signal timed
    rcases effect.isTimed_cases timed with before | ⟨rfl, delay, rfl⟩
    · rcases kept.timed before with ⟨delay, index, made⟩
      exact ⟨delay, index, made.mono earlier⟩
    · exact ⟨delay, _, acts, List.prefix_refl _, rfl, rfl⟩
  · intro delay signal index delay' index' made again
    have older {delay index : Nat} (made : Made start acts delay signal index) :
        signal < (start.run acts).system.signals.size :=
      System.lt_of_isTimed (kept.timers made).timed
    rcases made_concat made with before | ⟨rfl, new, place⟩
    · rcases made_concat again with beforeToo | ⟨-, newToo, -⟩
      · exact kept.unique before beforeToo
      · exact absurd newToo (Nat.ne_of_gt (older before))
    · rcases made_concat again with beforeToo | ⟨same, -, placeToo⟩
      · exact absurd new (Nat.ne_of_gt (older beforeToo))
      · cases same
        exact ⟨rfl, place.symm.trans placeToo⟩
  · intro signal stale
    rcases effect.isFired_cases stale with before | fired
    · refine (kept.sound before).imp ?_ fun due => due.concat effect
      exact fun byHand => List.mem_append_left _ byHand
    · exact kept.reason effect fired
  · intro signal byHand
    rcases List.mem_append.mp byHand with before | now
    · exact effect.ages.isFired (kept.byHand before)
    · cases List.mem_singleton.mp now
      exact effect.isFired_of_fire

theorem signalsKept_of_lawful (unheld : start.held = []) (idle : start.system.tasks = #[])
    (unsignalled : start.system.signals = #[]) (lawful : start.isLawful acts = true) :
    SignalsKept start acts := by
  induction acts using List.reverseRecOn with
  | nil =>
      have unmade {delay signal index : Nat} : ¬Made start [] delay signal index := by
        rintro ⟨before, path, -⟩
        simpa using path.length_le
      have none {signal : Nat} : (start.run []).system.signals[signal]? = none := by
        simp [run, unsignalled]
      refine ⟨?_, by simp, fun made => absurd made unmade, ?_, ?_,
        fun made => absurd made unmade, ?_, by simp [ByHand]⟩
      · intro signal
        simp [System.clonesOf, run, unheld, idle, unsignalled]
      · rintro delay signal index ⟨state, deadline, found, -⟩
        simp [run, idle] at found
      · intro signal timed
        simp [System.isTimed, none] at timed
      · intro signal fired
        simp [System.isFired, none] at fired
  | append_singleton acts act ih =>
      rw [isLawful_concat, Bool.and_eq_true] at lawful
      exact (ih lawful.1).concat lawful.2

end Steps

end Keeper

end Admission
