import Admission.Proofs.Barrier

/-!
# How a registration begins

In the first turn of a registration its feed is watched in a context of its own. A feed that
refuses ends the registration. Otherwise the registration has a watch from then on, and a deadline
that the limiter in front sets; no later move changes either. Whoever finds a registration with a
watch can therefore say in which turn it began, at what time and with which feed.
-/

namespace Admission

/-- The name that a feed goes by. -/
def Feed.label : Feed → String
  | .memory _ => MemoryFeed.name
  | .scripted feed => feed.name

/-- What a new watch of a feed is sent. -/
def Feed.opening : Feed → List FeedItem
  | .memory feed => feed.replay
  | .scripted feed => feed.items

namespace Cancellation

/-- A handle that is taken changes neither what is cancelled nor why. -/
theorem clone_same (state : Cancellation) (context : Context) :
    (state.clone context).cancelled = state.cancelled ∧
      (state.clone context).causes = state.causes :=
  List.foldlRecOn (motive := fun later : Cancellation =>
      later.cancelled = state.cancelled ∧ later.causes = state.causes)
    context.links _ ⟨rfl, rfl⟩ fun _ same _ _ => same

end Cancellation

/-! ### Time limits -/

namespace Chain

/-- How long the feeds of the limiters may take to sync. -/
def limits (limiters : List Limiter) : List (Option Duration) :=
  limiters.map (·.syncTimeout)

theorem limits_modify {limiters : List Limiter} (place : Nat) (change : Limiter → Limiter)
    (kept : ∀ limiter : Limiter, (change limiter).syncTimeout = limiter.syncTimeout) :
    limits (limiters.modify place change) = limits limiters := by
  induction limiters generalizing place with
  | nil => cases place <;> rfl
  | cons limiter rest ih =>
      cases place with
      | zero => exact congrArg (· :: limits rest) (kept limiter)
      | succ place => exact congrArg (limiter.syncTimeout :: ·) (ih place)

theorem afterwards_limits (limiter : Limiter) (place : Nat) (uuid : String) (rest : List Limiter)
    (passage : Passage) (notices : List Notice) :
    limits (limiter.afterwards place uuid rest passage notices).1 =
      limiter.syncTimeout :: limits rest := by
  cases passage <;> rfl

theorem advance_limits (place passed : Nat) (visit : Visit) (limiters : List Limiter) :
    limits (advance place passed visit limiters).1 = limits limiters := by
  induction limiters generalizing place passed visit with
  | nil => cases passed <;> rfl
  | cons limiter rest ih =>
      cases passed with
      | succ passed =>
          rw [advance_succ, afterwards_limits, ih]
          rfl
      | zero =>
          by_cases granted : (limiter.attend visit).1 = .acquired
          · rw [advance_acquired place visit limiter rest granted, afterwards_limits, ih]
            rfl
          · rw [(advance_refused place visit limiter rest granted).1]
            rfl

theorem conclude_limits (place : Nat) (uuid : String) (result : Except HandlerError Unit)
    (limiters : List Limiter) :
    limits (conclude place uuid result limiters).1 = limits limiters := by
  cases result with
  | ok _ => rw [conclude_ok]
  | error error =>
      rw [conclude_error, limits, List.map_map]
      rfl

end Chain

namespace System

/-- How long a feed may take to sync. -/
def syncLimit (system : System) : Option Duration :=
  system.limiters.head?.bind (·.syncTimeout)

section Limits

variable {system used next : System}

/-- The time limits stay the same. -/
def SameLimits (system next : System) : Prop :=
  Chain.limits next.limiters = Chain.limits system.limiters

theorem SameLimits.of_eq (limiters : next.limiters = system.limiters) : system.SameLimits next :=
  congrArg Chain.limits limiters

theorem SameLimits.trans (first : system.SameLimits used) (second : used.SameLimits next) :
    system.SameLimits next :=
  Eq.trans second first

theorem SameLimits.syncLimit_eq (same : system.SameLimits next) :
    next.syncLimit = system.syncLimit := by
  have head (limiters : List Limiter) :
      limiters.head?.bind (·.syncTimeout) = (Chain.limits limiters).head?.join := by
    cases limiters <;> rfl
  rw [syncLimit, syncLimit, head, head, show Chain.limits next.limiters = _ from same]

theorem setPool_sameLimits (system : System) (place : Nat) (pool : Pool) :
    system.SameLimits (system.setPool place pool) := by
  simp only [SameLimits, setPool, setPool_limiters]
  exact Chain.limits_modify place _ fun _ => rfl

theorem dropTask_sameLimits (system : System) (index : Nat) (task : Task) :
    system.SameLimits (system.dropTask index task) := by
  cases task with
  | acquisition context signal =>
      simp only [dropTask, SameLimits, finish_frame, noteAll_frame]
      exact setPool_sameLimits system 0 _
  | admission job context stage =>
      cases stage with
      | waiting place since =>
          simp only [dropTask, SameLimits, finish_frame, noteAll_frame, Chain.withdraw_limiters]
          exact Chain.limits_modify place _ fun _ => rfl
      | _ => exact .of_eq (by simp [dropTask])
  | _ => exact .of_eq (by simp [dropTask])

theorem acquire_sameLimits (system : System) (index : Nat) (context : Context) (signal : Nat) :
    system.SameLimits (system.acquire index context signal) := by
  simp only [acquire]
  split <;> simp only [SameLimits, finish_frame, noteAll_frame] <;>
    exact setPool_sameLimits system 0 _

theorem concludeJob_sameLimits (system : System) (index : Nat) (job : Job)
    (result : Except HandlerError Unit) :
    system.SameLimits (system.concludeJob index job result) := by
  simp only [concludeJob, SameLimits, finish_frame, noteAll_frame]
  exact Chain.conclude_limits 0 job.uuid result system.limiters

theorem handleInside_sameLimits (system : System) (index : Nat) (job : Job) (context : Context)
    (holds : List Hold) : system.SameLimits (system.handleInside index job context holds) := by
  simp only [handleInside]
  split
  · split
    · exact .of_eq (by simp)
    · exact concludeJob_sameLimits system index job _
    · split
      · exact .trans (.of_eq (by simp)) (concludeJob_sameLimits _ index job _)
      · exact concludeJob_sameLimits system index job _
  · exact .of_eq (by simp)

theorem admitJob_sameLimits (system : System) (index : Nat) (job : Job) (context : Context)
    (place since : Nat) : system.SameLimits (system.admitJob index job context place since) := by
  simp only [admitJob]
  generalize reached : Chain.advance 0 place _ system.limiters = advanced
  have kept : Chain.limits advanced.1 = Chain.limits system.limiters := by
    rw [← reached]
    exact Chain.advance_limits 0 place _ system.limiters
  split
  · simpa only [SameLimits, setTask_frame, noteAll_frame] using kept
  · simpa only [SameLimits, finish_frame, noteAll_frame] using kept
  · refine .trans ?_ (handleInside_sameLimits _ _ _ _ _)
    simpa only [SameLimits, note_frame, noteAll_frame] using kept

theorem settleRegistration_limiters (system : System) (index : Nat) (context : Context)
    (place : Nat) (deadline : Option Nat) :
    (system.settleRegistration index context place deadline).limiters = system.limiters := by
  simp only [settleRegistration]
  split
  · rfl
  · split <;> simp

theorem startRegistration_limiters (system : System) (index : Nat) (feed : String)
    (context : Context) :
    (system.startRegistration index feed context).limiters = system.limiters := by
  have watched := (watchFeed_frame
    ({ system with cancellation := (system.cancellation.child context).1 } : System) feed
    (system.cancellation.child context).2).1
  simp only [startRegistration]
  split
  · rename_i after error watching
    rw [watching] at watched
    simpa using watched
  · rename_i after name stream watching
    rw [watching] at watched
    rw [settleRegistration_limiters]
    simpa using watched

theorem listen_sameLimits (system : System) (index place : Nat) :
    system.SameLimits (system.listen index place) := by
  cases present : system.watches[place]? with
  | none => exact .of_eq (by simp [listen, present])
  | some watched =>
      have attended : system.SameLimits (system.attended place watched) := by
        simp only [attended, SameLimits, noteAll_frame]
        exact setPool_sameLimits system 0 _
      have ends (next : System) : next.SameLimits (next.endListening index place watched) :=
        .of_eq (by simp [endListening])
      rw [listen_eq present]
      split
      · exact ends system
      · split
        · exact attended.trans (.of_eq (by simp))
        · split
          · exact attended
          · exact attended.trans (ends _)

theorem turn_sameLimits (system : System) (index : Nat) :
    system.SameLimits (system.turn index) := by
  simp only [turn]
  split
  · exact .of_eq rfl
  · rename_i state found
    split
    · exact .of_eq rfl
    · split
      · exact dropTask_sameLimits system index state.task
      · split
        · simp only [runTimer]
          split
          · exact .of_eq (by simp)
          · split <;> exact .of_eq (by simp)
        · split <;> exact .of_eq (by simp)
        · split <;> exact .of_eq (by simp)
        · exact acquire_sameLimits system index _ _
        · exact admitJob_sameLimits system index _ _ _ _
        · exact admitJob_sameLimits system index _ _ _ _
        · exact handleInside_sameLimits system index _ _ _
        · exact .of_eq (startRegistration_limiters system index _ _)
        · exact .of_eq (settleRegistration_limiters system index _ _ _)
        · exact listen_sameLimits system index _

/-- No move changes how long a feed may take. -/
theorem perform_sameLimits (system : System) (move : Move) :
    system.SameLimits (system.perform move) := by
  cases move with
  | turn index => exact turn_sameLimits system index
  | drop index =>
      rcases dropNow_cases system index with same | ⟨state, -, -, dropped⟩
      · exact .of_eq (congrArg limiters same)
      · rw [perform, dropped]
        exact dropTask_sameLimits system index state.task
  | abort index => exact .of_eq (by simp [perform])
  | start task => exact .of_eq (by simp [perform])
  | tryAcquire place => exact setPool_sameLimits system place _
  | tryRelease place =>
      simp only [perform, tryRelease, SameLimits, noteAll_frame]
      exact setPool_sameLimits system place _
  | reconcile change =>
      simp only [perform, reconcile, SameLimits, noteAll_frame]
      exact setPool_sameLimits system 0 _
  | elsewhere happening => exact .of_eq (by simp [perform])

theorem run_sameLimits (system : System) (moves : List Move) :
    system.SameLimits (system.run moves) := by
  induction moves generalizing system with
  | nil => exact .of_eq rfl
  | cons move rest ih => exact (perform_sameLimits system move).trans (ih _)

end Limits

/-! ### The first turn -/

/-- The deadline of a registration that begins its watch now. -/
def deadlineFrom (system : System) : Option Nat :=
  system.syncLimit.map fun limit => system.now + limit.ticks

/-- A registration has a turn in which it begins to watch a feed. -/
structure Begins (system : System) (index : Nat) (feed : String) (context : Context)
    (source : Feed) (place : Nat) (deadline : Option Nat) : Prop where
  found : system.tasks[index]? = some { task := .registration feed context none }
  known : system.feeds.lookup feed = some source
  fresh : place = system.watches.size
  limited : deadline = system.deadlineFrom
  watch : (system.turn index).watches[place]? =
    some ⟨source.label, (system.cancellation.child context).2, system.streams.size, false, false⟩
  sent : (system.turn index).unread system.streams.size = source.opening

section Beginnings

variable {system next : System} {index : Nat} {state : TaskState} {feed : String}
  {context : Context} {place : Nat} {watched : Watch} {deadline : Option Nat}

/-- Whether a deadline is over. -/
def isOver (system : System) (deadline : Option Nat) : Bool :=
  (deadline.map fun deadline => decide (deadline ≤ system.now)).getD false

theorem settleRegistration_eq (present : system.watches[place]? = some watched) (index : Nat)
    (context : Context) (deadline : Option Nat) :
    system.settleRegistration index context place deadline =
      match Registration.verdict watched (system.cancellation.cause context) system.syncLimit
          (system.isOver deadline) with
      | none => system
      | some (.ok _) =>
          (system.note (Registration.syncedNotice watched.feed (system.pool 0).available)).finish
            index (.registered (.ok ()))
      | some (.error error) =>
          ((system.cancel watched.context none).note
            (Registration.failedNotice watched.feed error)).finish
            index (.registered (.error error)) := by
  simp only [settleRegistration, present]
  rfl

theorem settleRegistration_frame (system : System) (index : Nat) (context : Context)
    (place : Nat) (deadline : Option Nat) :
    (system.settleRegistration index context place deadline).watches = system.watches ∧
      (system.settleRegistration index context place deadline).streams = system.streams := by
  simp only [settleRegistration]
  split
  · exact ⟨rfl, rfl⟩
  · split <;> simp

/-- A registration that settles may end, and remains what it is. -/
theorem settleRegistration_found (found : system.tasks[index]? = some state) (context : Context)
    (place : Nat) (deadline : Option Nat) :
    ∃ outcome, (system.settleRegistration index context place deadline).tasks[index]? =
      some { state with outcome } := by
  simp only [settleRegistration]
  split
  · exact ⟨state.outcome, found⟩
  · split
    · exact ⟨state.outcome, found⟩
    all_goals
      simp only [finish_frame, note_frame, cancel_frame, Array.getElem?_modify, if_true, found]
      exact ⟨_, rfl⟩

theorem watchFeed_same (system : System) (name : String) (context : Context) :
    (system.watchFeed name context).1.cancellation.cancelled = system.cancellation.cancelled ∧
      (system.watchFeed name context).1.cancellation.causes = system.cancellation.causes := by
  simp only [watchFeed]
  split
  · exact ⟨rfl, rfl⟩
  · exact system.cancellation.clone_same context
  · split <;> exact ⟨rfl, rfl⟩

/-- A feed that refuses to be watched does nothing else. -/
theorem watchFeed_of_refused {name : String} {error : SyncError}
    (watching : system.watchFeed name context = (next, .error error)) : next = system := by
  simp only [watchFeed] at watching
  split at watching
  · cases watching
    rfl
  · cases watching
  · split at watching <;> cases watching
    rfl

/-- A feed that can be watched tells its name and opens a new stream. -/
theorem watchFeed_of_ok {name own : String} {stream : Nat}
    (watching : system.watchFeed name context = (next, .ok (own, stream))) :
    ∃ source, system.feeds.lookup name = some source ∧ own = source.label ∧
      stream = system.streams.size ∧ next.now = system.now ∧
      next.unread stream = source.opening := by
  simp only [watchFeed] at watching
  split at watching
  · cases watching
  · rename_i feed present
    cases watching
    exact ⟨_, present, rfl, rfl, rfl, by simp [System.unread, Feed.opening]⟩
  · rename_i feed present
    split at watching
    · cases watching
    · cases watching
      exact ⟨_, present, rfl, rfl, rfl, by simp [System.unread, Feed.opening]⟩

/-- A registration has its watch, and has not looked yet how it stands. -/
structure Begun (system : System) (index : Nat) (feed : String) (context : Context)
    (source : Feed) (begun : System) : Prop where
  known : system.feeds.lookup feed = some source
  found : begun.tasks[index]? = some
    { task := .registration feed context (some (system.watches.size, system.deadlineFrom)) }
  present : begun.watches[system.watches.size]? = some
    ⟨source.label, (system.cancellation.child context).2, system.streams.size, false, false⟩
  sent : begun.unread system.streams.size = source.opening
  now : begun.now = system.now
  limit : begun.syncLimit = system.syncLimit
  cancelled : begun.cancellation.cancelled = (system.cancellation.child context).1.cancelled
  causes : begun.cancellation.causes = (system.cancellation.child context).1.causes
  settles : system.startRegistration index feed context =
    begun.settleRegistration index context system.watches.size system.deadlineFrom

/-- Once the feed is watched, the registration settles in the same turn. -/
theorem begun_of_ok
    (found : system.tasks[index]? = some { task := .registration feed context none })
    {own : String} {stream : Nat}
    (watching : { system with cancellation := (system.cancellation.child context).1 }.watchFeed feed
      (system.cancellation.child context).2 = (next, .ok (own, stream))) :
    ∃ source begun, system.Begun index feed context source begun := by
  have frame := watchFeed_frame
    ({ system with cancellation := (system.cancellation.child context).1 } : System) feed
    (system.cancellation.child context).2
  have same := watchFeed_same
    ({ system with cancellation := (system.cancellation.child context).1 } : System) feed
    (system.cancellation.child context).2
  rw [watching] at frame same
  rcases watchFeed_of_ok watching with ⟨source, known, rfl, rfl, now, sent⟩
  have watches : next.watches = system.watches := frame.2.2.1
  have tasks : next.tasks = system.tasks := frame.2.1
  have limit : next.syncLimit = system.syncLimit := by rw [syncLimit, frame.1, syncLimit]
  have deadline : next.deadlineFrom = system.deadlineFrom := by
    rw [deadlineFrom, limit, now, deadlineFrom]
  let watch : Watch :=
    ⟨source.label, (system.cancellation.child context).2, system.streams.size, false, false⟩
  let begun : System := next.withListener index feed context watch system.deadlineFrom
  have own := withListener_frame next index feed context watch system.deadlineFrom
  have cloned := next.cancellation.clone_same watch.context
  refine ⟨source, begun, known, ?_, ?_, ?_, now, limit, ?_, ?_, ?_⟩
  · rw [← watches]
    exact withListener_registration (by rw [tasks, found]) feed context watch system.deadlineFrom
  · rw [own.1, watches, Array.getElem?_push_size]
  · rw [System.unread, own.2.1]
    exact sent
  · rw [own.2.2, cloned.1, same.1]
  · rw [own.2.2, cloned.2, same.2]
  · simp only [startRegistration, watching, watches, begun, withListener, ← deadline]
    rfl

/-- The turn in which a registration begins its watch. -/
theorem Begun.begins {source : Feed} {begun : System}
    (begins : system.Begun index feed context source begun)
    (found : system.tasks[index]? = some { task := .registration feed context none }) :
    system.Begins index feed context source system.watches.size system.deadlineFrom := by
  have turned : system.turn index = system.startRegistration index feed context := by
    simp [turn, found]
  have frame := begun.settleRegistration_frame index context system.watches.size
    system.deadlineFrom
  rw [← begins.settles, ← turned] at frame
  refine ⟨found, begins.known, rfl, rfl, ?_, ?_⟩
  · rw [frame.1, begins.present]
  · rw [System.unread, frame.2]
    exact begins.sent

/-- A registration has its watch from before, or begins it in this turn. -/
theorem registration_of_turn {earlier : TaskState} (before : system.tasks[index]? = some earlier)
    (unfinished : earlier.outcome = none) (unmarked : earlier.isAborted = false)
    (found : (system.turn index).tasks[index]? = some state)
    (task : state.task = .registration feed context (some (place, deadline))) :
    earlier.task = .registration feed context (some (place, deadline)) ∨
      ∃ source, system.Begins index feed context source place deadline := by
  rcases (turn_advances system index).advances earlier before with ⟨later, present, advances, -⟩
  rw [found, Option.some.injEq] at present
  rw [← present, task] at advances
  rcases earlier with ⟨original, isAborted, outcome⟩
  cases unfinished
  cases unmarked
  -- Who registers has done so from the start, and only the first turn can begin the watch.
  cases advances with
  | same => exact Or.inl rfl
  | registration _ _ watch _ =>
      cases watch with
      | some watch =>
          have turned : system.turn index =
              system.settleRegistration index context watch.1 watch.2 := by simp [turn, before]
          rcases settleRegistration_found before context watch.1 watch.2 with ⟨outcome, settled⟩
          rw [← turned, found, Option.some.injEq] at settled
          rw [settled] at task
          exact Or.inl task
      | none =>
          have turned : system.turn index = system.startRegistration index feed context := by
            simp [turn, before]
          cases watching : { system with
              cancellation := (system.cancellation.child context).1 }.watchFeed feed
                (system.cancellation.child context).2 with
          | mk next result =>
          cases result with
          | error error =>
              have tasks := (watchChild_frame watching).1
              rw [turned] at found
              simp only [startRegistration, watching, finish_frame, dropContext_frame, tasks,
                Array.getElem?_modify, if_true, before, Option.map_some, Option.some.injEq] at found
              rw [← found] at task
              cases task
          | ok opened =>
              rcases begun_of_ok before watching with ⟨source, begun, begins⟩
              rcases settleRegistration_found begins.found context system.watches.size
                system.deadlineFrom with ⟨outcome, settled⟩
              rw [← begins.settles, ← turned, found, Option.some.injEq] at settled
              rw [settled] at task
              cases task
              exact Or.inr ⟨source, begins.begins before⟩

/-! ### Runs -/

/-- A task that finds itself registering a feed, with a watch, has begun the watch in this move or
had it before. -/
theorem registration_of_perform {move : Move} (permitted : system.Permits move)
    (found : (system.perform move).tasks[index]? = some state)
    (task : state.task = .registration feed context (some (place, deadline))) :
    (∃ earlier, system.tasks[index]? = some earlier ∧
        earlier.task = .registration feed context (some (place, deadline))) ∨
      (move = .turn index ∧ ∃ source, system.Begins index feed context source place deadline) := by
  have modified {next : System} {changed : Nat} (change : TaskState → TaskState)
      (kept : ∀ state, (change state).task = state.task)
      (tasks : next.tasks = system.tasks.modify changed change)
      (found : next.tasks[index]? = some state) :
      ∃ earlier, system.tasks[index]? = some earlier ∧
        earlier.task = .registration feed context (some (place, deadline)) := by
    rw [tasks, Array.getElem?_modify] at found
    split at found
    · rcases Option.map_eq_some_iff.mp found with ⟨earlier, before, same⟩
      exact ⟨earlier, before, by rw [← task, ← same, kept]⟩
    · exact ⟨state, found, task⟩
  have dropped {other : Nat} {earlier : TaskState}
      (drops : system.perform move = system.dropTask other earlier.task) :
      ∃ earlier, system.tasks[index]? = some earlier ∧
        earlier.task = .registration feed context (some (place, deadline)) :=
    modified (fun state => { state with outcome := some .aborted }) (fun _ => rfl)
      (dropTask_frame system other earlier.task).1 (drops ▸ found)
  have unchanged (tasks : (system.perform move).tasks = system.tasks) :
      ∃ earlier, system.tasks[index]? = some earlier ∧
        earlier.task = .registration feed context (some (place, deadline)) :=
    ⟨state, by rw [← tasks, found], task⟩
  cases move with
  | turn other =>
      rcases turn_cases system other with same | ⟨earlier, before, unfinished⟩
      · exact Or.inl (unchanged (congrArg System.tasks same))
      · by_cases marked : earlier.isAborted = true
        · exact Or.inl (dropped (turn_of_isAborted before unfinished marked))
        · have advance := turn_advances system other
          by_cases own : other = index
          · subst own
            exact (registration_of_turn before unfinished (by simpa using marked) found task).imp
              (fun same => ⟨earlier, before, same⟩) fun begins => ⟨rfl, begins⟩
          · cases original : system.tasks[index]? with
            | none =>
                have listens := (advance.started index state original found).1
                rw [task] at listens
                cases listens
            | some earlier =>
                have inside := (Array.getElem?_eq_some_iff.mp original).1
                have kept := advance.others index (Ne.symm own) inside
                rw [original, show (system.turn other).tasks[index]? = _ from found,
                  Option.some.injEq] at kept
                exact Or.inl ⟨earlier, rfl, kept ▸ task⟩
  | drop other =>
      rcases dropNow_cases system other with same | ⟨earlier, -, -, drops⟩
      · exact Or.inl (unchanged (congrArg System.tasks same))
      · exact Or.inl (dropped drops)
  | abort other =>
      rcases abort_cases system other with same | ⟨earlier, -, -, tasks⟩
      · exact Or.inl (unchanged (congrArg System.tasks same))
      · exact Or.inl (modified (fun state => { state with isAborted := true }) (fun _ => rfl) tasks
          found)
  | start started =>
      simp only [perform, spawn_frame, Array.getElem?_push] at found
      split at found
      · cases found
        rw [show started = _ from task] at permitted
        cases permitted.1
      · exact Or.inl ⟨state, found, task⟩
  | elsewhere happening => exact Or.inl (unchanged (by simp [perform]))
  | tryAcquire other => exact Or.inl (unchanged (by simp [perform, tryAcquire]))
  | tryRelease other => exact Or.inl (unchanged (by simp [perform, tryRelease]))
  | reconcile change => exact Or.inl (unchanged (by simp [perform, reconcile]))

/-- A registration with a watch has begun it in one turn, with a feed that was known then. -/
theorem begins_of_run {start : System} {moves : List Move} (unstarted : start.tasks = #[])
    (orderly : start.Orderly moves) (found : (start.run moves).tasks[index]? = some state)
    (task : state.task = .registration feed context (some (place, deadline))) :
    ∃ early late source, moves = early ++ .turn index :: late ∧
      (start.run early).Begins index feed context source place deadline := by
  induction moves using List.reverseRecOn generalizing state with
  | nil => simp [unstarted] at found
  | append_singleton moves move ih =>
      rw [orderly_append] at orderly
      rw [run_append] at found
      rcases registration_of_perform orderly.2.1 found task with
        ⟨earlier, before, same⟩ | ⟨rfl, source, begins⟩
      · rcases ih orderly.1 before same with ⟨early, late, source, split, begins⟩
        exact ⟨early, late ++ [move], source, by simp [split], begins⟩
      · exact ⟨moves, [], source, rfl, begins⟩

end Beginnings

end System

end Admission
