import Admission.Proofs.SignalActs

/-!
# Clones are counted

In a run with stale signals every clone of a signal is held outside or by one task that has not
ended. A signal is never taken back: it keeps its timer, it stays stale, and once its last clone is
gone there are no others.
-/

namespace Admission

/-! ### Signals get older -/

/-- What may become of a signal. -/
structure StaleSignal.Ages (before after : StaleSignal) : Prop where
  timed : after.timed = before.timed
  fired : before.fired = true → after.fired = true
  forsaken : before.clones = 0 → after.clones = 0

/-- No signal is taken away, and each gets older. -/
def SignalsAge (before after : Array StaleSignal) : Prop :=
  ∀ (signal : Nat) (state : StaleSignal), before[signal]? = some state →
    ∃ later, after[signal]? = some later ∧ state.Ages later

namespace SignalsAge

variable {before after : Array StaleSignal}

theorem of_eq (same : after = before) : SignalsAge before after := by
  intro signal state found
  rw [same]
  exact ⟨state, found, rfl, id, id⟩

theorem of_push {made : StaleSignal} (pushed : after = before.push made) :
    SignalsAge before after := by
  intro signal state found
  have inside := (Array.getElem?_eq_some_iff.mp found).1
  refine ⟨state, ?_, rfl, id, id⟩
  rw [pushed, Array.getElem?_push, if_neg (Nat.ne_of_lt inside), found]

theorem of_modify {changed : Nat} {change : StaleSignal → StaleSignal}
    (modified : after = before.modify changed change)
    (ages : ∀ state, before[changed]? = some state → state.Ages (change state)) :
    SignalsAge before after := by
  intro signal state found
  rw [modified, Array.getElem?_modify, found]
  split
  · rename_i same
    subst same
    exact ⟨change state, rfl, ages state found⟩
  · exact ⟨state, rfl, rfl, id, id⟩

theorem of_fire {signal : Nat} (fired : after = before.modify signal StaleSignal.fire) :
    SignalsAge before after :=
  .of_modify fired fun _ _ => ⟨rfl, fun _ => rfl, id⟩

theorem of_released {held : Option Nat} (released : after = StaleSignal.released before held) :
    SignalsAge before after := by
  cases held with
  | none => exact .of_eq released
  | some signal =>
      refine .of_modify released fun state _ => ⟨rfl, id, ?_⟩
      intro forsaken
      rw [StaleSignal.drop, forsaken]

end SignalsAge

/-- What a change of a signal leaves as it is, is as before for all signals. -/
theorem StaleSignal.view_of_modify {View : Type} (view : StaleSignal → View)
    {signals after : Array StaleSignal} {changed : Nat} {change : StaleSignal → StaleSignal}
    (modified : after = signals.modify changed change)
    (same : ∀ state, view (change state) = view state) (signal : Nat) :
    after[signal]?.map view = signals[signal]?.map view := by
  rw [modified, Array.getElem?_modify]
  split
  · rw [Option.map_map]
    exact congrArg (fun view => signals[signal]?.map view) (funext same)
  · rfl

namespace System

/-! ### How many clones there are -/

section Counts

variable {system next : System}

theorem clonesOf_of_lt {signal : Nat} (live : 0 < system.clonesOf signal) :
    ∃ state, system.signals[signal]? = some state ∧ state.clones = system.clonesOf signal := by
  cases found : system.signals[signal]? with
  | none => simp [clonesOf, found] at live
  | some state => exact ⟨state, rfl, by simp [clonesOf, found]⟩

theorem clonesOf_of_outside {signal : Nat} (outside : system.signals.size ≤ signal) :
    system.clonesOf signal = 0 := by
  simp [clonesOf, Array.getElem?_eq_none outside]

theorem clonesOf_of_eq (same : next.signals = system.signals) (signal : Nat) :
    next.clonesOf signal = system.clonesOf signal := by
  rw [clonesOf, clonesOf, same]

theorem clonesOf_of_push {made : StaleSignal} (single : made.clones = 1)
    (pushed : next.signals = system.signals.push made) (signal : Nat) :
    next.clonesOf signal =
      system.clonesOf signal + if system.signals.size = signal then 1 else 0 := by
  by_cases same : system.signals.size = signal
  · rw [if_pos same, clonesOf_of_outside (Nat.le_of_eq same), clonesOf, pushed]
    simp [← same, single]
  · rw [if_neg same, clonesOf, clonesOf, pushed, Array.getElem?_push, if_neg (Ne.symm same)]
    rfl

theorem clonesOf_of_fire {fired : Nat}
    (signals : next.signals = system.signals.modify fired StaleSignal.fire) (signal : Nat) :
    next.clonesOf signal = system.clonesOf signal := by
  rw [clonesOf, clonesOf, StaleSignal.view_of_modify _ signals fun _ => rfl]

theorem clonesOf_of_clone {cloned : Nat} (live : 0 < system.clonesOf cloned)
    (signals : next.signals = system.signals.modify cloned StaleSignal.clone) (signal : Nat) :
    next.clonesOf signal = system.clonesOf signal + if cloned = signal then 1 else 0 := by
  rcases clonesOf_of_lt live with ⟨state, found, counted⟩
  rw [clonesOf, signals, Array.getElem?_modify]
  split
  · rename_i same
    subst same
    rw [found, ← counted]
    rfl
  · rfl

theorem clonesOf_of_released {held : Option Nat}
    (signals : next.signals = StaleSignal.released system.signals held) (signal : Nat) :
    next.clonesOf signal = system.clonesOf signal - if held = some signal then 1 else 0 := by
  cases held with
  | none => exact clonesOf_of_eq signals signal
  | some dropped =>
      rw [clonesOf, clonesOf, signals, StaleSignal.released, Array.getElem?_modify]
      by_cases same : dropped = signal
      · subst same
        rw [if_pos rfl, if_pos rfl]
        cases system.signals[dropped]? <;> rfl
      · rw [if_neg same, if_neg fun eq => same (Option.some.inj eq)]
        rfl

end Counts

end System

/-! ### Readings of signals that get older -/

section Ages

variable {system next : System} {signal : Nat}

theorem System.lt_of_isFired (fired : system.isFired signal = true) :
    signal < system.signals.size := by
  apply Nat.not_le.mp
  intro outside
  simp [isFired, Array.getElem?_eq_none outside] at fired

theorem System.lt_of_isTimed (timed : system.isTimed signal = true) :
    signal < system.signals.size := by
  apply Nat.not_le.mp
  intro outside
  simp [isTimed, Array.getElem?_eq_none outside] at timed

theorem SignalsAge.isFired (ages : SignalsAge system.signals next.signals)
    (fired : system.isFired signal = true) : next.isFired signal = true := by
  have found := Array.getElem?_eq_getElem (System.lt_of_isFired fired)
  rcases ages signal _ found with ⟨later, foundLater, older⟩
  rw [System.isFired, found] at fired
  rw [System.isFired, foundLater]
  exact older.fired fired

theorem SignalsAge.isTimed (ages : SignalsAge system.signals next.signals)
    (timed : system.isTimed signal = true) : next.isTimed signal = true := by
  have found := Array.getElem?_eq_getElem (System.lt_of_isTimed timed)
  rcases ages signal _ found with ⟨later, foundLater, older⟩
  rw [System.isTimed, found] at timed
  rw [System.isTimed, foundLater]
  exact older.timed.trans timed

/-- Nobody clones a signal without a clone. -/
theorem SignalsAge.clonesOf (ages : SignalsAge system.signals next.signals)
    (inside : signal < system.signals.size) (forsaken : system.clonesOf signal = 0) :
    next.clonesOf signal = 0 := by
  have found := Array.getElem?_eq_getElem inside
  rcases ages signal _ found with ⟨later, foundLater, older⟩
  rw [System.clonesOf, found] at forsaken
  rw [System.clonesOf, foundLater]
  exact older.forsaken forsaken

end Ages

theorem Task.signal?_of_isListening {task : Task} (listens : task.isListening = true) :
    task.signal? = none := by
  cases task <;> first | rfl | cases listens

/-! ### Every call -/

namespace Keeper

/-- Every clone of a signal is held outside or by one task that has not ended. -/
def Counted (keeper : Keeper) : Prop :=
  ∀ signal, keeper.system.clonesOf signal =
    keeper.held.count signal + keeper.system.tasks.countP (TaskState.holdsClone signal)

section Effects

variable {keeper next : Keeper} {act : SignalAct}

theorem Effect.now_le (effect : Effect keeper act next) :
    keeper.system.now ≤ next.system.now := by
  cases effect with
  | silent _ now _ _ _ => exact now
  | idles _ _ same _ => exact Nat.le_of_eq (congrArg System.now same).symm
  | works _ _ _ _ heeds _ _ =>
      cases heeds with
      | goesOn _ keeps _ _ _ => exact Nat.le_of_eq keeps.now.symm
      | ends _ _ now _ _ _ _ => exact Nat.le_of_eq now.symm
  | rings _ _ _ rings _ =>
      cases rings with
      | finished _ keeps _ | waits _ _ _ keeps _ => exact Nat.le_of_eq keeps.now.symm
      | rings _ _ now _ _ => exact Nat.le_of_eq now.symm
  | aborts _ _ keeps _ _ | starts _ _ keeps _ _ => exact Nat.le_of_eq keeps.now.symm
  | timed now _ _ _ | created now _ _ _ | cloned _ now _ _ _ | dropped _ now _ _ _
  | fired _ now _ _ _ => exact Nat.le_of_eq now.symm

theorem Effect.tasks_le (effect : Effect keeper act next) :
    keeper.system.tasks.size ≤ next.system.tasks.size := by
  cases effect with
  | works _ _ _ _ _ advance _ => exact advance.size_le
  | rings _ _ _ rings _ =>
      rcases rings.modifies with ⟨change, tasks, -⟩
      simp [tasks]
  | idles _ _ same _ => simp [same]
  | silent _ _ _ tasks _ | aborts _ _ _ tasks _ | starts _ _ _ tasks _ | timed _ _ tasks _
  | created _ _ tasks _ | cloned _ _ _ tasks _ | dropped _ _ _ tasks _ | fired _ _ _ tasks _ =>
      simp [tasks]

/-- A timer fires a signal: it has a turn, has not ended, and its delay has passed. -/
structure TimerFires (keeper : Keeper) (index signal delay : Nat) (deadline : Option Nat)
    (state : TaskState) : Prop where
  found : keeper.system.tasks[index]? = some state
  unfinished : state.outcome = none
  own : state.task = .timer signal delay deadline
  due : deadline.getD (keeper.system.now + delay) ≤ keeper.system.now

/-- A call fires a signal by hand, or gives its timer a turn. -/
def FiredBy (keeper : Keeper) (act : SignalAct) (signal : Nat) : Prop :=
  act = .move (.elsewhere (.fire signal)) ∨
    ∃ index delay deadline state, act = .move (.turn index) ∧
      keeper.TimerFires index signal delay deadline state

/-- What a call does to the signals. -/
inductive SignalChange (keeper : Keeper) (act : SignalAct) (after : Array StaleSignal) : Prop where
  /-- A clone is given up, or all stays as it was. -/
  | released (held : Option Nat)
      (released : after = StaleSignal.released keeper.system.signals held)
  | made (timed : Bool) (delayed : timed = true → ∃ delay, act = .timed delay)
      (pushed : after = keeper.system.signals.push { timed })
  | cloned (signal : Nat) (live : 0 < keeper.system.clonesOf signal)
      (modified : after = keeper.system.signals.modify signal StaleSignal.clone)
  | fired (signal : Nat) (live : 0 < keeper.system.clonesOf signal)
      (reason : keeper.FiredBy act signal)
      (modified : after = keeper.system.signals.modify signal StaleSignal.fire)

theorem SignalChange.of_eq {after : Array StaleSignal} (same : after = keeper.system.signals) :
    SignalChange keeper act after :=
  .released none same

theorem Effect.signals (effect : Effect keeper act next) :
    SignalChange keeper act next.system.signals := by
  cases effect with
  | silent _ _ signals _ _ => exact .of_eq signals
  | idles _ _ same _ => exact .of_eq (congrArg System.signals same)
  | works _ _ _ _ heeds _ _ =>
      cases heeds with
      | goesOn _ keeps _ _ _ => exact .of_eq keeps.signals
      | ends _ _ _ signals _ _ _ => exact .released _ signals
  | rings found unfinished own rings _ =>
      cases rings with
      | finished _ keeps _ | waits _ _ _ keeps _ => exact .of_eq keeps.signals
      | rings live due _ signals _ =>
          exact .fired _ live (Or.inr ⟨_, _, _, _, rfl, found, unfinished, own, due⟩) signals
  | aborts _ _ keeps _ _ | starts _ _ keeps _ _ => exact .of_eq keeps.signals
  | timed _ signals _ _ => exact .made true (fun _ => ⟨_, rfl⟩) signals
  | created _ signals _ _ => exact .made false (by simp) signals
  | cloned live _ signals _ _ => exact .cloned _ live signals
  | dropped _ _ signals _ _ => exact .released (some _) signals
  | fired live _ signals _ _ => exact .fired _ live (Or.inl rfl) signals

theorem Effect.ages (effect : Effect keeper act next) :
    SignalsAge keeper.system.signals next.system.signals := by
  cases effect.signals with
  | released held released => exact .of_released released
  | made timed delayed pushed => exact .of_push pushed
  | cloned signal live modified =>
      refine .of_modify modified fun state found => ⟨rfl, id, ?_⟩
      intro forsaken
      rw [System.clonesOf, found, Option.map_some, Option.getD_some, forsaken] at live
      cases live
  | fired signal live reason modified => exact .of_fire modified

/-! ### Clones -/

theorem countP_of_modify {index : Nat} {state : TaskState} {change : TaskState → TaskState}
    (found : keeper.system.tasks[index]? = some state)
    (tasks : next.system.tasks = keeper.system.tasks.modify index change) {signal : Nat}
    (same : (change state).holdsClone signal = state.holdsClone signal) :
    next.system.tasks.countP (TaskState.holdsClone signal) =
      keeper.system.tasks.countP (TaskState.holdsClone signal) := by
  have counted := System.countP_modify (TaskState.holdsClone signal) found change
  rw [tasks]
  rw [same] at counted
  omega

theorem holdsClone_of_unheld {signal : Nat} {state : TaskState}
    (unheld : state.task.signal? = none) : state.holdsClone signal = false := by
  simp [TaskState.holdsClone, unheld]

theorem Counted.of_works {index : Nat} {state : TaskState} (counted : keeper.Counted)
    (found : keeper.system.tasks[index]? = some state) (unfinished : state.outcome = none)
    (heeds : System.Heeds index state.task keeper.system next.system)
    (advance : TasksAdvance index keeper.system.tasks next.system.tasks)
    (held : next.held = keeper.held) : next.Counted := by
  intro signal
  rcases advance.advances state found with ⟨later, foundLater, advances, -⟩
  have listeners (other : TaskState) (listens : other.task.isListening = true) :
      other.holdsClone signal = false :=
    holdsClone_of_unheld (Task.signal?_of_isListening listens)
  have changed := advance.countP_eq listeners found foundLater
  have before := counted signal
  rw [held]
  cases heeds with
  | goesOn latest keeps foundLatest going unfired =>
      rw [foundLater] at foundLatest
      cases foundLatest
      have same : later.holdsClone signal = state.holdsClone signal := by
        rw [TaskState.holdsClone, TaskState.holdsClone, going, unfinished, advances.signal?_eq]
      rw [System.clonesOf_of_eq keeps.signals]
      rw [same] at changed
      omega
  | ends latest outcome now signals foundLatest ended honest =>
      rw [foundLater] at foundLatest
      cases foundLatest
      have gone : later.holdsClone signal = false := by simp [TaskState.holdsClone, ended]
      have held : (state.holdsClone signal).toNat =
          if state.task.signal? = some signal then 1 else 0 := by
        by_cases holds : state.task.signal? = some signal <;>
          simp [TaskState.holdsClone, unfinished, holds]
      rw [System.clonesOf_of_released signals]
      rw [gone, held] at changed
      simp only [Bool.toNat_false, Nat.add_zero] at changed
      omega

theorem Counted.of_rings {index signal delay : Nat} {deadline : Option Nat} {state : TaskState}
    (counted : keeper.Counted) (found : keeper.system.tasks[index]? = some state)
    (own : state.task = .timer signal delay deadline)
    (rings : System.Rings index signal delay deadline keeper.system next.system)
    (held : next.held = keeper.held) : next.Counted := by
  have unheld (other : Nat) : state.holdsClone other = false :=
    holdsClone_of_unheld (by rw [own]; rfl)
  intro other
  rw [held]
  cases rings with
  | finished needless keeps tasks =>
      rw [System.clonesOf_of_eq keeps.signals, countP_of_modify found tasks ?_, counted other]
      rw [unheld]
      rfl
  | rings live due now signals tasks =>
      rw [System.clonesOf_of_fire signals, countP_of_modify found tasks ?_, counted other]
      rw [unheld]
      rfl
  | waits unfired live early keeps tasks =>
      rw [System.clonesOf_of_eq keeps.signals, countP_of_modify found tasks ?_, counted other]
      rw [unheld]
      exact holdsClone_of_unheld rfl

theorem Counted.of_starts {task : Task} (counted : keeper.Counted)
    (given : ∀ signal, task.signal? = some signal → signal ∈ keeper.held)
    (keeps : keeper.system.KeepsSignals next.system)
    (tasks : next.system.tasks = keeper.system.tasks.push { task })
    (held : next.held = keeper.handed (.start task)) : next.Counted := by
  intro other
  have before := counted other
  rw [System.clonesOf_of_eq keeps.signals, tasks, Array.countP_push, held]
  simp only [handed, TaskState.holdsClone, Option.isNone_none, Bool.true_and]
  cases holds : task.signal? with
  | none => simpa using before
  | some signal =>
      have member := List.count_pos_iff.mpr (given signal holds)
      simp only [List.count_erase, Option.some_beq_some, beq_iff_eq]
      split
      · rename_i same
        subst same
        omega
      · omega

theorem Effect.counted (effect : Effect keeper act next) (counted : keeper.Counted) :
    next.Counted := by
  cases effect with
  | silent quiet now signals tasks held =>
      intro signal
      rw [System.clonesOf_of_eq signals, tasks, held, counted signal]
  | idles found ended same held =>
      intro signal
      rw [same, held, counted signal]
  | works own found unfinished other heeds advance held =>
      exact counted.of_works found unfinished heeds advance held
  | rings found unfinished own rings held => exact counted.of_rings found own rings held
  | aborts found other keeps tasks held =>
      intro signal
      rw [System.clonesOf_of_eq keeps.signals, held, countP_of_modify found tasks rfl,
        counted signal]
  | starts other given keeps tasks held => exact counted.of_starts given keeps tasks held
  | timed now signals tasks held =>
      rename_i delay
      intro signal
      have unheld : TaskState.holdsClone signal
          { task := .timer keeper.system.signals.size delay none } = false :=
        holdsClone_of_unheld rfl
      rw [System.clonesOf_of_push rfl signals, tasks, Array.countP_push, unheld, held,
        List.count_cons, counted signal]
      simp only [beq_iff_eq, Bool.false_eq_true, if_false]
      omega
  | created now signals tasks held =>
      intro signal
      rw [System.clonesOf_of_push rfl signals, tasks, held, List.count_cons, counted signal]
      simp only [beq_iff_eq]
      omega
  | cloned live now signals tasks held =>
      intro signal
      rw [System.clonesOf_of_clone live signals, tasks, held, List.count_cons, counted signal]
      simp only [beq_iff_eq]
      omega
  | dropped member now signals tasks held =>
      rename_i dropped
      intro signal
      have released : next.system.signals =
          StaleSignal.released keeper.system.signals (some dropped) := signals
      have before := counted signal
      have member := List.count_pos_iff.mpr member
      rw [System.clonesOf_of_released released, tasks, held, List.count_erase]
      simp only [Option.some.injEq, beq_iff_eq]
      split
      · rename_i same
        subst same
        omega
      · omega
  | fired live now signals tasks held =>
      intro signal
      rw [System.clonesOf_of_fire signals, tasks, held, counted signal]

end Effects

end Keeper

end Admission
