import Admission.Proofs.Alarms
import Mathlib.Data.List.Induction

/-!
# Runs with stale signals

In such a run somebody outside makes signals, with timers or without, clones them, fires them and
gives clones up, hands clones over to tasks that are started, and lets time pass, while the tasks
have their turns in any order. Only clones that are held are given up or handed over, and nobody can
drop a timer.

For each call this file says what it does to the clock, the signals and the tasks. All that is
proved of such runs is proved along these cases.
-/

namespace Admission

/-- A call on signals, or any other move of a run. -/
inductive SignalAct where
  /-- A signal is made that fires after a delay. -/
  | timed (delay : Nat)
  | move (move : Move)

/-- Whether a move is neither a turn nor the firing of a signal. -/
def Move.isQuiet : Move → Bool
  | .turn _ | .elsewhere (.fire _) => false
  | _ => true

namespace System

/-- How many clones there are of a signal. -/
def clonesOf (system : System) (signal : Nat) : Nat :=
  (system.signals[signal]?.map (·.clones)).getD 0

/-- Whether a signal was made with a timer. -/
def isTimed (system : System) (signal : Nat) : Bool :=
  (system.signals[signal]?.map (·.timed)).getD false

end System

/-- A system, and the clones of its signals that are held outside its tasks. -/
structure Keeper where
  system : System
  held : List Nat

namespace Keeper

/-- The clones that are held outside after a move. -/
def handed (keeper : Keeper) : Move → List Nat
  | .elsewhere (.createSignal _) => keeper.system.signals.size :: keeper.held
  | .elsewhere (.holdSignal signal) => signal :: keeper.held
  | .elsewhere (.dropSignal signal) => keeper.held.erase signal
  | .start task =>
      match task.signal? with
      | some signal => keeper.held.erase signal
      | none => keeper.held
  | _ => keeper.held

def perform (keeper : Keeper) : SignalAct → Keeper
  | .timed delay =>
      { system := (keeper.system.newTimedSignal delay).1
        held := keeper.system.signals.size :: keeper.held }
  | .move move => { system := keeper.system.perform move, held := keeper.handed move }

def run (keeper : Keeper) (acts : List SignalAct) : Keeper :=
  acts.foldl perform keeper

/-- Whether there is a task with an index, and it is no timer. -/
def isDroppable (keeper : Keeper) (index : Nat) : Bool :=
  (keeper.system.tasks[index]?.map fun state => !state.task.isTimer).getD true

/-- Whether the call can be made: time does not go back, whoever clones or fires a signal has a
clone of it, whoever gives a clone up or hands it to a task holds it outside, and a timer is
neither started nor dropped by anybody. -/
def allows (keeper : Keeper) : SignalAct → Bool
  | .timed _ => true
  | .move (.turn index) => decide (index < keeper.system.tasks.size)
  | .move (.drop index) | .move (.abort index) => keeper.isDroppable index
  | .move (.start task) => !task.isTimer && task.signal?.all fun signal => signal ∈ keeper.held
  | .move (.elsewhere (.createSignal timed)) => !timed
  | .move (.elsewhere (.holdSignal signal)) | .move (.elsewhere (.fire signal)) =>
      decide (0 < keeper.system.clonesOf signal)
  | .move (.elsewhere (.dropSignal signal)) => decide (signal ∈ keeper.held)
  | .move (.elsewhere (.setClock tick)) => decide (keeper.system.now ≤ tick)
  | .move _ => true

/-- Whether every call of a run can be made when it is. -/
def isLawful : Keeper → List SignalAct → Bool
  | _, [] => true
  | keeper, act :: rest => keeper.allows act && isLawful (keeper.perform act) rest

end Keeper

/-- A clone of a signal is held by a task that has not ended. -/
def TaskState.holdsClone (signal : Nat) (state : TaskState) : Bool :=
  state.outcome.isNone && state.task.signal? == some signal

/-! ### Turns of a timer -/

namespace System

/-- What a timer does in a turn. -/
inductive Rings (index signal delay : Nat) (deadline : Option Nat) (system next : System) :
    Prop where
  /-- It ends because the signal has fired or nobody is left who could ask. -/
  | finished (needless : system.isFired signal = true ∨ system.clonesOf signal = 0)
      (keeps : system.KeepsSignals next)
      (tasks : next.tasks = system.tasks.modify index fun state =>
        { state with outcome := some .ended })
  /-- It fires the signal and ends. -/
  | rings (live : 0 < system.clonesOf signal)
      (due : deadline.getD (system.now + delay) ≤ system.now) (now : next.now = system.now)
      (signals : next.signals = system.signals.modify signal StaleSignal.fire)
      (tasks : next.tasks = system.tasks.modify index fun state =>
        { state with outcome := some .ended })
  | waits (unfired : system.isFired signal = false) (live : 0 < system.clonesOf signal)
      (early : system.now < deadline.getD (system.now + delay))
      (keeps : system.KeepsSignals next)
      (tasks : next.tasks = system.tasks.modify index fun state =>
        { state with task := .timer signal delay (some (deadline.getD (system.now + delay))) })

/-- A timer that has a turn stays the timer that it is. -/
theorem Rings.modifies {index signal delay : Nat} {deadline : Option Nat} {system next : System}
    (rings : Rings index signal delay deadline system next) :
    ∃ change, next.tasks = system.tasks.modify index change ∧
      ∀ state : TaskState, state.task = .timer signal delay deadline →
        ∃ later, (change state).task = .timer signal delay later := by
  cases rings with
  | finished _ _ tasks | rings _ _ _ _ tasks => exact ⟨_, tasks, fun _ own => ⟨deadline, own⟩⟩
  | waits _ _ _ _ tasks => exact ⟨_, tasks, fun _ _ => ⟨_, rfl⟩⟩

section Timers

variable {system : System} {index signal : Nat}

theorem fire_alarms (unfired : system.isFired signal = false) :
    (system.fire signal).now = system.now ∧
      (system.fire signal).signals = system.signals.modify signal StaleSignal.fire := by
  have noted := note_keeps { system with signals := system.signals.modify signal StaleSignal.fire }
    (.told (.fired signal))
  simp only [fire, unfired, Bool.false_eq_true, if_false]
  exact ⟨noted.now, noted.signals⟩

theorem isForsaken_iff (inside : signal < system.signals.size) :
    (system.signals[signal]?.map (·.isForsaken)).getD true = true ↔
      system.clonesOf signal = 0 := by
  simp [clonesOf, Array.getElem?_eq_getElem inside, StaleSignal.isForsaken]

theorem turn_rings {state : TaskState} {delay : Nat} {deadline : Option Nat}
    (found : system.tasks[index]? = some state) (unfinished : state.outcome = none)
    (spared : state.isAborted = false) (own : state.task = .timer signal delay deadline)
    (inside : signal < system.signals.size) :
    Rings index signal delay deadline system (system.turn index) := by
  have unheld : state.task.signal? = none := by rw [own]; rfl
  have forsaken := isForsaken_iff inside
  simp only [turn, found, unfinished, spared, own, Option.isSome_none, Bool.false_eq_true, if_false,
    runTimer]
  split
  · rename_i needless
    rcases finish_alarms found .ended with ⟨now, signals⟩
    rw [unheld] at signals
    refine .finished ?_ ⟨now, signals⟩ (finish_frame system index .ended).2.1
    rw [← forsaken]
    simpa [or_comm] using needless
  · rename_i needed
    simp only [Bool.or_eq_true, not_or, forsaken, Bool.not_eq_true] at needed
    have live : 0 < system.clonesOf signal := Nat.pos_of_ne_zero needed.2
    split
    · rename_i due
      rcases fire_alarms needed.1 with ⟨firedNow, firedSignals⟩
      have tasks : (system.fire signal).tasks = system.tasks := (fire_frame system signal).2.1
      have present : (system.fire signal).tasks[index]? = some state := by rw [tasks, found]
      rcases finish_alarms present .ended with ⟨now, signals⟩
      rw [unheld] at signals
      refine .rings live due (now.trans firedNow) (signals.trans firedSignals) ?_
      rw [(finish_frame _ index .ended).2.1, tasks]
    · rename_i early
      exact .waits needed.1 live (Nat.lt_of_not_le early) ⟨rfl, rfl⟩ rfl

/-- A timer whose delay has not passed is at rest. -/
theorem turn_of_early {state : TaskState} {delay tick : Nat}
    (found : system.tasks[index]? = some state) (unfinished : state.outcome = none)
    (spared : state.isAborted = false) (own : state.task = .timer signal delay (some tick))
    (unfired : system.isFired signal = false) (live : 0 < system.clonesOf signal)
    (early : system.now < tick) : system.turn index = system := by
  have inside : signal < system.signals.size := by
    apply Nat.not_le.mp
    intro outside
    simp [clonesOf, Array.getElem?_eq_none outside] at live
  have needed : (system.signals[signal]?.map (·.isForsaken)).getD true = false := by
    rw [← Bool.not_eq_true, isForsaken_iff inside]
    omega
  have same : (system.tasks.modify index fun state =>
      { state with task := .timer signal delay (some tick) }) = system.tasks := by
    apply Array.ext_getElem?
    intro other
    rw [Array.getElem?_modify]
    split
    · rename_i eq
      subst eq
      rw [found, Option.map_some, ← own]
    · rfl
  simp only [turn, found, unfinished, spared, own, Option.isSome_none, Bool.false_eq_true, if_false,
    runTimer, needed, unfired, Bool.or_self, Option.getD_some, Nat.not_le_of_lt early, setTask,
    same]

/-- Firing a signal that has fired changes nothing. -/
theorem modify_fire_of_isFired (fired : system.isFired signal = true) :
    system.signals.modify signal StaleSignal.fire = system.signals := by
  refine Array.ext_getElem? fun other => ?_
  rw [Array.getElem?_modify]
  split
  · rename_i same
    subst same
    cases found : system.signals[signal]? with
    | none => rfl
    | some state =>
        have already : state.fired = true := by simpa [isFired, found] using fired
        rw [Option.map_some, StaleSignal.fire, ← already]
  · rfl

end Timers

end System

namespace Keeper

/-! ### The cases of a call -/

/-- What a call does to the clock, the signals, the tasks and the clones that are held outside. -/
inductive Effect (keeper : Keeper) : SignalAct → Keeper → Prop where
  /-- Nothing, or time passes. -/
  | silent {move : Move} {next : Keeper} (quiet : move.isQuiet = true)
      (now : keeper.system.now ≤ next.system.now)
      (signals : next.system.signals = keeper.system.signals)
      (tasks : next.system.tasks = keeper.system.tasks) (held : next.held = keeper.held) :
      Effect keeper (.move move) next
  /-- A task that has ended has a turn. -/
  | idles {next : Keeper} {index : Nat} {state : TaskState}
      (found : keeper.system.tasks[index]? = some state) (ended : state.outcome.isSome = true)
      (same : next.system = keeper.system) (held : next.held = keeper.held) :
      Effect keeper (.move (.turn index)) next
  /-- A task that is no timer has a turn or is dropped. -/
  | works {move : Move} {next : Keeper} {index : Nat} {state : TaskState}
      (own : move = .turn index ∨ move = .drop index)
      (found : keeper.system.tasks[index]? = some state) (unfinished : state.outcome = none)
      (other : state.task.isTimer = false)
      (heeds : System.Heeds index state.task keeper.system next.system)
      (advance : TasksAdvance index keeper.system.tasks next.system.tasks)
      (held : next.held = keeper.held) : Effect keeper (.move move) next
  /-- A timer has a turn. -/
  | rings {next : Keeper} {index signal delay : Nat} {deadline : Option Nat} {state : TaskState}
      (found : keeper.system.tasks[index]? = some state) (unfinished : state.outcome = none)
      (own : state.task = .timer signal delay deadline)
      (rings : System.Rings index signal delay deadline keeper.system next.system)
      (held : next.held = keeper.held) : Effect keeper (.move (.turn index)) next
  /-- A task that is no timer is marked to be dropped. -/
  | aborts {next : Keeper} {index : Nat} {state : TaskState}
      (found : keeper.system.tasks[index]? = some state) (other : state.task.isTimer = false)
      (keeps : keeper.system.KeepsSignals next.system)
      (tasks : next.system.tasks = keeper.system.tasks.modify index fun state =>
        { state with isAborted := true })
      (held : next.held = keeper.held) : Effect keeper (.move (.abort index)) next
  | starts {next : Keeper} {task : Task} (other : task.isTimer = false)
      (given : ∀ signal, task.signal? = some signal → signal ∈ keeper.held)
      (keeps : keeper.system.KeepsSignals next.system)
      (tasks : next.system.tasks = keeper.system.tasks.push { task })
      (held : next.held = keeper.handed (.start task)) : Effect keeper (.move (.start task)) next
  | timed {next : Keeper} {delay : Nat} (now : next.system.now = keeper.system.now)
      (signals : next.system.signals = keeper.system.signals.push { timed := true })
      (tasks : next.system.tasks =
        keeper.system.tasks.push { task := .timer keeper.system.signals.size delay none })
      (held : next.held = keeper.system.signals.size :: keeper.held) :
      Effect keeper (.timed delay) next
  | created {next : Keeper} {timed : Bool} (now : next.system.now = keeper.system.now)
      (signals : next.system.signals = keeper.system.signals.push {})
      (tasks : next.system.tasks = keeper.system.tasks)
      (held : next.held = keeper.system.signals.size :: keeper.held) :
      Effect keeper (.move (.elsewhere (.createSignal timed))) next
  | cloned {next : Keeper} {signal : Nat} (live : 0 < keeper.system.clonesOf signal)
      (now : next.system.now = keeper.system.now)
      (signals : next.system.signals = keeper.system.signals.modify signal StaleSignal.clone)
      (tasks : next.system.tasks = keeper.system.tasks)
      (held : next.held = signal :: keeper.held) :
      Effect keeper (.move (.elsewhere (.holdSignal signal))) next
  | dropped {next : Keeper} {signal : Nat} (member : signal ∈ keeper.held)
      (now : next.system.now = keeper.system.now)
      (signals : next.system.signals = keeper.system.signals.modify signal StaleSignal.drop)
      (tasks : next.system.tasks = keeper.system.tasks)
      (held : next.held = keeper.held.erase signal) :
      Effect keeper (.move (.elsewhere (.dropSignal signal))) next
  | fired {next : Keeper} {signal : Nat} (live : 0 < keeper.system.clonesOf signal)
      (now : next.system.now = keeper.system.now)
      (signals : next.system.signals = keeper.system.signals.modify signal StaleSignal.fire)
      (tasks : next.system.tasks = keeper.system.tasks) (held : next.held = keeper.held) :
      Effect keeper (.move (.elsewhere (.fire signal))) next

section Effects

variable {keeper : Keeper}

/-- A move after which the clock, the signals and the tasks are the same. -/
theorem Effect.of_keeps {move : Move} (quiet : move.isQuiet = true)
    (keeps : keeper.system.KeepsSignals (keeper.system.perform move))
    (tasks : (keeper.system.perform move).tasks = keeper.system.tasks)
    (held : keeper.handed move = keeper.held) :
    Effect keeper (.move move) (keeper.perform (.move move)) :=
  .silent quiet (Nat.le_of_eq keeps.now.symm) keeps.signals tasks held

theorem Effect.of_same {move : Move} (quiet : move.isQuiet = true)
    (same : keeper.system.perform move = keeper.system)
    (held : keeper.handed move = keeper.held) :
    Effect keeper (.move move) (keeper.perform (.move move)) :=
  .of_keeps quiet ⟨congrArg System.now same, congrArg System.signals same⟩
    (congrArg System.tasks same) held

theorem Effect.of_happening {happening : Happening}
    (quiet : (Move.elsewhere happening).isQuiet = true)
    (keeps : keeper.system.KeepsSignals (keeper.system.undergo happening))
    (held : keeper.handed (.elsewhere happening) = keeper.held) :
    Effect keeper (.move (.elsewhere happening)) (keeper.perform (.move (.elsewhere happening))) :=
  .of_keeps quiet keeps (System.undergo_frame keeper.system happening).2.1 held

theorem Effect.of_elsewhere {happening : Happening}
    (allowed : keeper.allows (.move (.elsewhere happening)) = true) :
    Effect keeper (.move (.elsewhere happening))
      (keeper.perform (.move (.elsewhere happening))) := by
  have tasks := (System.undergo_frame keeper.system happening).2.1
  cases happening with
  | createSignal timed =>
      have untimed : timed = false := by simpa [allows] using allowed
      refine .created rfl ?_ tasks rfl
      rw [untimed]
      rfl
  | holdSignal signal => exact .cloned (by simpa [allows] using allowed) rfl rfl tasks rfl
  | dropSignal signal =>
      rcases System.dropSignal_alarms keeper.system signal with ⟨now, signals⟩
      exact .dropped (by simpa [allows] using allowed) now signals tasks rfl
  | fire signal =>
      have live : 0 < keeper.system.clonesOf signal := by simpa [allows] using allowed
      cases before : keeper.system.isFired signal with
      | false =>
          rcases System.fire_alarms before with ⟨now, signals⟩
          exact .fired live now signals tasks rfl
      | true =>
          have same : keeper.system.fire signal = keeper.system := by simp [System.fire, before]
          refine .fired live (congrArg System.now same) ?_ tasks rfl
          rw [System.modify_fire_of_isFired before]
          exact congrArg System.signals same
  | setClock tick =>
      have later : keeper.system.now ≤ tick := by simpa [allows] using allowed
      exact .silent rfl later rfl tasks rfl
  | cancel context cause =>
      exact .of_happening rfl (System.cancel_keeps keeper.system context cause) rfl
  | cancelToken context =>
      exact .of_happening rfl (System.cancelToken_keeps keeper.system context) rfl
  | openGate gate => exact .of_happening rfl (System.openGate_keeps keeper.system gate) rfl
  | applyResource feed resource =>
      exact .of_happening rfl (System.applyResource_keeps keeper.system feed resource) rfl
  | deleteResource feed uid =>
      exact .of_happening rfl (System.deleteResource_keeps keeper.system feed uid) rfl
  | injectChange feed change =>
      exact .of_happening rfl (System.injectChange_keeps keeper.system feed change) rfl
  | watchFeed feed context =>
      exact .of_happening rfl (System.watchFeed_keeps keeper.system feed context) rfl
  | sendItem feed item =>
      exact .of_happening rfl (System.sendItem_keeps keeper.system feed item) rfl
  | closeFeed feed => exact .of_happening rfl (System.closeFeed_keeps keeper.system feed) rfl
  | publish place event =>
      exact .of_happening rfl (System.note_keeps keeper.system (.published place event)) rfl
  | createContext | deriveContext _ | wrapToken _ | wrapChildToken _ | holdContext _
  | dropContext _ | instruct _ | readStream _ | dropReader _ =>
      exact .of_happening rfl ⟨rfl, rfl⟩ rfl

theorem Effect.of_turn {index : Nat} (inside : index < keeper.system.tasks.size)
    (timers : ∀ (index : Nat) (state : TaskState) (signal delay : Nat) (deadline : Option Nat),
      keeper.system.tasks[index]? = some state → state.task = .timer signal delay deadline →
        state.isAborted = false ∧ signal < keeper.system.signals.size) :
    Effect keeper (.move (.turn index)) (keeper.perform (.move (.turn index))) := by
  have found := Array.getElem?_eq_getElem inside
  cases unfinished : keeper.system.tasks[index].outcome with
  | some outcome =>
      have same : keeper.system.turn index = keeper.system := by
        simp [System.turn, found, unfinished]
      exact .idles found (Option.isSome_iff_exists.mpr ⟨outcome, unfinished⟩) same rfl
  | none =>
      cases timer : keeper.system.tasks[index].task.isTimer with
      | false =>
          exact .works (Or.inl rfl) found unfinished timer
            (System.turn_heeds found unfinished timer) (System.turn_advances _ _) rfl
      | true =>
          cases own : keeper.system.tasks[index].task with
          | timer signal delay deadline =>
              rcases timers index _ signal delay deadline found own with ⟨spared, within⟩
              exact .rings found unfinished own
                (System.turn_rings found unfinished spared own within) rfl
          | awaitCancellation _ | awaitStaleness _ | acquisition _ _ | admission _ _ _
          | registration _ _ _ | listening _ =>
              rw [own] at timer
              cases timer

/-- Every call that can be made is one of the cases, as long as no timer is marked to be dropped. -/
theorem effect_of_allows {act : SignalAct} (allowed : keeper.allows act = true)
    (timers : ∀ (index : Nat) (state : TaskState) (signal delay : Nat) (deadline : Option Nat),
      keeper.system.tasks[index]? = some state → state.task = .timer signal delay deadline →
        state.isAborted = false ∧ signal < keeper.system.signals.size) :
    Effect keeper act (keeper.perform act) := by
  cases act with
  | timed delay =>
      have spawned := System.spawn_keeps
        { keeper.system with signals := keeper.system.signals.push { timed := true } }
        (.timer keeper.system.signals.size delay none)
      refine .timed spawned.now spawned.signals ?_ rfl
      exact (System.spawn_frame _ _).2.1
  | move move =>
      cases move with
      | turn index => exact .of_turn (by simpa [allows] using allowed) timers
      | drop index =>
          rcases System.dropNow_cases keeper.system index with same | ⟨state, found, unfinished, -⟩
          · exact .of_same rfl same rfl
          · have other : state.task.isTimer = false := by
              simpa [allows, isDroppable, found] using allowed
            exact .works (Or.inr rfl) found unfinished other (System.dropNow_heeds found unfinished)
              (System.dropNow_proceeds _ _).advances rfl
      | abort index =>
          rcases System.abort_cases keeper.system index with same | ⟨state, found, -, tasks⟩
          · exact .of_same rfl same rfl
          · have other : state.task.isTimer = false := by
              simpa [allows, isDroppable, found] using allowed
            exact .aborts found other (System.abort_keeps keeper.system index) tasks rfl
      | start task =>
          simp only [allows, Bool.and_eq_true, Bool.not_eq_true'] at allowed
          refine .starts allowed.1 ?_ (System.spawn_keeps keeper.system task) ?_ rfl
          · intro signal holds
            simpa [holds] using allowed.2
          · exact (System.spawn_frame _ _).2.1
      | tryAcquire place => exact .of_keeps rfl ⟨rfl, rfl⟩ rfl rfl
      | tryRelease place =>
          have noted := System.noteAll_keeps
            (keeper.system.setPool place (keeper.system.pool place).tryRelease.2.1)
            (Notice.wokenOf (keeper.system.pool place).tryRelease.2.2)
          refine .of_keeps rfl ⟨noted.now, noted.signals⟩ ?_ rfl
          simp [System.perform, System.tryRelease]
      | reconcile change =>
          have noted := System.noteAll_keeps
            (keeper.system.setPool 0 (Reconciler.apply 0 (keeper.system.pool 0) change).1)
            (Reconciler.apply 0 (keeper.system.pool 0) change).2
          refine .of_keeps rfl ⟨noted.now, noted.signals⟩ ?_ rfl
          simp [System.perform, System.reconcile]
      | elsewhere happening => exact .of_elsewhere allowed

end Effects

end Keeper

end Admission
