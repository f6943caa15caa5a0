import Admission.Proofs.Frame

/-!
# Runs of a system

A run is any sequence of moves in any order: a task has a turn, is dropped or is started, somebody
outside calls a pool, or something happens that concerns neither pools nor tasks. A scheduler
picks one of these runs; what holds after every run holds whatever the scheduler does.

A task can be dropped in two ways. It can be marked, and is then dropped at its next turn, or it
can be dropped on the spot, as a caller does that gives up a call that it waits for itself.
-/

namespace Admission

/-- Something that happens outside the pools and the tasks. -/
inductive Happening where
  /-- A context is made that depends on no other. -/
  | createContext
  | deriveContext (parent : Context)
  | wrapToken (other : Context)
  /-- A context is made around a token under that of another. -/
  | wrapChildToken (other : Context)
  /-- A further handle on a context is taken. -/
  | holdContext (context : Context)
  /-- A handle on a context is given up. -/
  | dropContext (context : Context)
  | cancel (context : Context) (cause : Option String)
  | cancelToken (context : Context)
  /-- A stale signal is made, with or without a timer. -/
  | createSignal (timed : Bool)
  /-- A further clone of a signal is taken. -/
  | holdSignal (signal : Nat)
  /-- A clone of a signal is given up. -/
  | dropSignal (signal : Nat)
  | fire (signal : Nat)
  | setClock (tick : Nat)
  | openGate (gate : String)
  /-- The last handler is given other rules. -/
  | instruct (rules : List (String × Rule))
  /-- A resource is put into a feed in memory. -/
  | applyResource (feed : String) (resource : JobResource)
  /-- A resource is taken out of a feed in memory. -/
  | deleteResource (feed uid : String)
  /-- The watchers of a feed in memory are told a change that it did not make. -/
  | injectChange (feed : String) (change : ResourceEvent)
  /-- A feed is watched by somebody outside. -/
  | watchFeed (feed : String) (context : Context)
  | readStream (stream : Nat)
  | dropReader (stream : Nat)
  /-- An item is sent to the watchers of a scripted feed. -/
  | sendItem (feed : String) (item : FeedItem)
  /-- The watches of a scripted feed are ended. -/
  | closeFeed (feed : String)
  /-- An event is published on the bus of a limiter. -/
  | publish (place : Nat) (event : Event)

/-- One step of a run. -/
inductive Move where
  | turn (index : Nat)
  /-- A task is dropped on the spot. -/
  | drop (index : Nat)
  /-- A task is marked to be dropped at its next turn. -/
  | abort (index : Nat)
  | start (task : Task)
  /-- Somebody outside claims a token at once, if one is available. -/
  | tryAcquire (place : Nat)
  /-- Somebody outside gives back a token, if one is claimed. -/
  | tryRelease (place : Nat)
  /-- A change is applied to the first limiter directly. -/
  | reconcile (change : ResourceEvent)
  /-- Something else happens. -/
  | elsewhere (happening : Happening)

namespace System

/-- A system with one limiter, before anything happened. -/
def single (pool : Pool) : System :=
  { limiters := [{ pool, next := "end" }] }

/-- The system after something happened outside the pools and the tasks. -/
def undergo (system : System) : Happening → System
  | .createContext => { system with cancellation := system.cancellation.create.1 }
  | .deriveContext parent => { system with cancellation := (system.cancellation.child parent).1 }
  | .wrapToken other => { system with cancellation := (system.cancellation.wrap other).1 }
  | .wrapChildToken other =>
      { system with cancellation := (system.cancellation.wrapChild other).1 }
  | .holdContext context => system.holdContext context
  | .dropContext context => system.dropContext context
  | .cancel context cause => system.cancel context cause
  | .cancelToken context => system.cancelToken context
  | .createSignal timed => { system with signals := system.signals.push { timed } }
  | .holdSignal signal => system.holdSignal signal
  | .dropSignal signal => system.dropSignal signal
  | .fire signal => system.fire signal
  | .setClock tick => { system with now := tick }
  | .openGate gate => system.openGate gate
  | .instruct rules => { system with rules }
  | .applyResource feed resource => system.applyResource feed resource
  | .deleteResource feed uid => (system.deleteResource feed uid).1
  | .injectChange feed change => system.injectChange feed change
  | .watchFeed feed context => (system.watchFeed feed context).1
  | .readStream stream =>
      { system with streams := system.streams.modify stream fun stream => stream.takeAll.1 }
  | .dropReader stream =>
      { system with streams := system.streams.modify stream Stream.endReading }
  | .sendItem feed item => (system.sendItem feed item).1
  | .closeFeed feed => system.closeFeed feed
  | .publish place event => system.note (.published place event)

/-- A task that has not ended is dropped on the spot. -/
def dropNow (system : System) (index : Nat) : System :=
  match system.tasks[index]? with
  | none => system
  | some state => if state.outcome.isSome then system else system.dropTask index state.task

def perform (system : System) : Move → System
  | .turn index => system.turn index
  | .drop index => system.dropNow index
  | .abort index => system.abort index
  | .start task => (system.spawn task).1
  | .tryAcquire place => (system.tryAcquire place).1
  | .tryRelease place => (system.tryRelease place).1
  | .reconcile change => system.reconcile change
  | .elsewhere happening => system.undergo happening

def run (system : System) (moves : List Move) : System :=
  moves.foldl perform system

/-- How many moves of a run are made in a state in which they pass a test. -/
def tally (test : System → Move → Bool) : System → List Move → Nat
  | _, [] => 0
  | system, move :: rest =>
      (test system move).toNat + tally test (system.perform move) rest

/-- Whether a move is a direct call that claims a token of the pool at a place. -/
def takes (place : Nat) (system : System) : Move → Bool
  | .tryAcquire called => called == place && (system.tryAcquire called).2
  | _ => false

/-- Whether a move is a direct call that gives back a token of the pool at a place. -/
def givesBack (place : Nat) (system : System) : Move → Bool
  | .tryRelease called => called == place && (system.tryRelease called).2
  | _ => false

/-- What the moves of a run bring about, one after the other. -/
def collect {Item : Type} (brought : System → System → List Item) : System → List Move → List Item
  | _, [] => []
  | system, move :: rest =>
      brought system (system.perform move) ++ collect brought (system.perform move) rest

@[simp]
theorem run_nil (system : System) : system.run [] = system := rfl

@[simp]
theorem run_cons (system : System) (move : Move) (rest : List Move) :
    system.run (move :: rest) = (system.perform move).run rest := rfl

theorem run_append (system : System) (early late : List Move) :
    system.run (early ++ late) = (system.run early).run late :=
  List.foldl_append

/-- What a permitted move preserves holds after a run of permitted moves. -/
theorem run_invariant {holds : System → Prop} {permitted : Move → Prop}
    (preserved : ∀ system move, permitted move → holds system → holds (system.perform move))
    {system : System} {moves : List Move} (allPermitted : ∀ move ∈ moves, permitted move)
    (initially : holds system) : holds (system.run moves) := by
  induction moves generalizing system with
  | nil => exact initially
  | cons move rest ih =>
      have now := preserved system move (allPermitted move (by simp)) initially
      exact ih (fun later later_mem => allPermitted later (by simp [later_mem])) now

/-! ### What happens elsewhere -/

@[simp]
theorem undergo_frame (system : System) (happening : Happening) :
    (system.undergo happening).limiters = system.limiters ∧
      (system.undergo happening).tasks = system.tasks ∧
      (system.undergo happening).watches = system.watches ∧
      (system.undergo happening).takenBack = system.takenBack := by
  cases happening <;> simp [undergo]

/-! ### Moves that concern one task -/

/-- Only a task that has not ended has a turn. -/
theorem turn_cases (system : System) (index : Nat) :
    system.turn index = system ∨
      ∃ state, system.tasks[index]? = some state ∧ state.outcome = none := by
  cases found : system.tasks[index]? with
  | none => exact Or.inl (by simp [turn, found])
  | some state =>
      cases unfinished : state.outcome with
      | none => exact Or.inr ⟨state, rfl, unfinished⟩
      | some outcome => exact Or.inl (by simp [turn, found, unfinished])

theorem turn_of_isAborted {system : System} {index : Nat} {state : TaskState}
    (found : system.tasks[index]? = some state) (unfinished : state.outcome = none)
    (marked : state.isAborted = true) : system.turn index = system.dropTask index state.task := by
  simp [turn, found, unfinished, marked]

/-- Only a task that has not ended is dropped. -/
theorem dropNow_cases (system : System) (index : Nat) :
    system.dropNow index = system ∨
      ∃ state, system.tasks[index]? = some state ∧ state.outcome = none ∧
        system.dropNow index = system.dropTask index state.task := by
  cases found : system.tasks[index]? with
  | none => exact Or.inl (by simp [dropNow, found])
  | some state =>
      cases unfinished : state.outcome with
      | none => exact Or.inr ⟨state, rfl, unfinished, by simp [dropNow, found, unfinished]⟩
      | some outcome => exact Or.inl (by simp [dropNow, found, unfinished])

/-- Only a task that has not ended is marked to be dropped. -/
theorem abort_cases (system : System) (index : Nat) :
    system.abort index = system ∨
      ∃ state, system.tasks[index]? = some state ∧ state.outcome = none ∧
        (system.abort index).tasks =
          system.tasks.modify index fun state => { state with isAborted := true } := by
  cases found : system.tasks[index]? with
  | none => exact Or.inl (by simp [abort, found])
  | some state =>
      cases unfinished : state.outcome with
      | none => exact Or.inr ⟨state, rfl, unfinished, by simp [abort, found, unfinished]⟩
      | some outcome => exact Or.inl (by simp [abort, found, unfinished])

@[simp]
theorem abort_frame (system : System) (index : Nat) :
    (system.abort index).limiters = system.limiters ∧
      (system.abort index).watches = system.watches ∧
      (system.abort index).feeds = system.feeds ∧
      (system.abort index).streams = system.streams ∧
      (system.abort index).cancellation = system.cancellation ∧
      (system.abort index).takenBack = system.takenBack := by
  simp only [abort]
  split
  · exact ⟨rfl, rfl, rfl, rfl, rfl, rfl⟩
  · split
    · exact ⟨rfl, rfl, rfl, rfl, rfl, rfl⟩
    · simp

/-! ### Pools -/

theorem pool_congr {system other : System} (same : other.limiters = system.limiters)
    (place : Nat) : other.pool place = system.pool place := by
  simp [pool, same]

theorem pool_of_getElem? {system : System} {place : Nat} {limiter : Limiter}
    (found : system.limiters[place]? = some limiter) : system.pool place = limiter.pool := by
  simp [pool, found]

@[simp]
theorem note_pool (system : System) (notice : Notice) (place : Nat) :
    (system.note notice).pool place = system.pool place :=
  pool_congr (by simp) place

@[simp]
theorem noteAll_pool (system : System) (notices : List Notice) (place : Nat) :
    (system.noteAll notices).pool place = system.pool place :=
  pool_congr (by simp) place

@[simp]
theorem finish_pool (system : System) (index : Nat) (outcome : Outcome) (place : Nat) :
    (system.finish index outcome).pool place = system.pool place :=
  pool_congr (by simp) place

@[simp]
theorem setTask_pool (system : System) (index : Nat) (task : Task) (place : Nat) :
    (system.setTask index task).pool place = system.pool place :=
  pool_congr (by simp) place

@[simp]
theorem spawn_pool (system : System) (task : Task) (place : Nat) :
    (system.spawn task).1.pool place = system.pool place :=
  pool_congr (by simp) place

@[simp]
theorem fire_pool (system : System) (signal place : Nat) :
    (system.fire signal).pool place = system.pool place :=
  pool_congr (by simp) place

@[simp]
theorem abort_pool (system : System) (index place : Nat) :
    (system.abort index).pool place = system.pool place :=
  pool_congr (by simp) place

@[simp]
theorem undergo_pool (system : System) (happening : Happening) (place : Nat) :
    (system.undergo happening).pool place = system.pool place :=
  pool_congr (by simp) place

theorem setPool_limiters (pool : Pool) (place : Nat) (limiters : List Limiter) :
    Chain.setPool pool place limiters =
      limiters.modify place (fun limiter => { limiter with pool }) := by
  induction limiters generalizing place with
  | nil => cases place <;> rfl
  | cons limiter rest ih =>
      cases place with
      | zero => rfl
      | succ place => simp [Chain.setPool, ih]

@[simp]
theorem setPool_frame (system : System) (place : Nat) (pool : Pool) :
    (system.setPool place pool).tasks = system.tasks ∧
      (system.setPool place pool).watches = system.watches ∧
      (system.setPool place pool).feeds = system.feeds ∧
      (system.setPool place pool).streams = system.streams ∧
      (system.setPool place pool).cancellation = system.cancellation ∧
      (system.setPool place pool).signals = system.signals ∧
      (system.setPool place pool).takenBack = system.takenBack :=
  ⟨rfl, rfl, rfl, rfl, rfl, rfl, rfl⟩

/-- The pool at a place after the pool of some place was replaced. -/
theorem pool_setPool {system : System} {place : Nat} (inside : place < system.limiters.length)
    (pool : Pool) (other : Nat) :
    (system.setPool place pool).pool other = if other = place then pool else system.pool other := by
  by_cases same : other = place
  · subst other
    simp [System.pool, setPool, setPool_limiters, inside]
  · have apart : place ≠ other := fun eq => same eq.symm
    simp [System.pool, setPool, setPool_limiters, same, apart]

theorem pool_setPool_of_ne {system : System} {place other : Nat} (apart : other ≠ place)
    (pool : Pool) : (system.setPool place pool).pool other = system.pool other := by
  simp [System.pool, setPool, setPool_limiters, Ne.symm apart]

/-! ### Tasks -/

/-- What a change of one task does to anything that is read off the tasks one by one. -/
theorem bind_modify {View : Type} (view : TaskState → Option View) {tasks : Array TaskState}
    {index : Nat} {state : TaskState} (found : tasks[index]? = some state)
    (change : TaskState → TaskState) (other : Nat) :
    (tasks.modify index change)[other]?.bind view =
      if other = index then view (change state) else tasks[other]?.bind view := by
  by_cases same : other = index
  · subst other
    simp [Array.getElem?_modify, found]
  · have apart : index ≠ other := fun eq => same eq.symm
    simp [Array.getElem?_modify, same, apart]

theorem countP_cons_toNat {Item : Type} (test : Item → Bool) (item : Item) (rest : List Item) :
    (item :: rest).countP test = rest.countP test + (test item).toNat := by
  rw [List.countP_cons]
  cases test item <;> rfl

theorem toNat_le_countP (test : TaskState → Bool) {tasks : Array TaskState} {index : Nat}
    {state : TaskState} (found : tasks[index]? = some state) :
    (test state).toNat ≤ tasks.countP test := by
  cases passes : test state with
  | false => exact Nat.zero_le _
  | true => exact Array.countP_pos_iff.mpr ⟨state, Array.mem_of_getElem? found, passes⟩

theorem countP_modify (test : TaskState → Bool) {tasks : Array TaskState} {index : Nat}
    {state : TaskState} (found : tasks[index]? = some state) (change : TaskState → TaskState) :
    (tasks.modify index change).countP test + (test state).toNat =
      tasks.countP test + (test (change state)).toNat := by
  have inside := (Array.getElem?_eq_some_iff.mp found).1
  have counted := toNat_le_countP test found
  rw [← (Array.getElem?_eq_some_iff.mp found).2] at counted ⊢
  have changed : tasks.modify index change = tasks.set index (change tasks[index]) := by
    apply Array.ext
    · simp
    · intro position _ _
      simp only [Array.getElem_modify, Array.getElem_set]
      split
      · rename_i same
        subst same
        rfl
      · rfl
  rw [changed, Array.countP_set]
  cases before : test tasks[index] <;> cases test (change tasks[index]) <;>
    simp only [before, Bool.toNat_true, Bool.toNat_false, Bool.false_eq_true, if_true,
      if_false] at counted ⊢ <;>
    omega

end System

end Admission
