import Admission.Proofs.CourseTurns

/-!
# The truth about tokens

A limiter that is registered at the cluster's feed claims a token when a job wins one and gives it
back when the feed tells that the job's resource is over. In between lie the handler, the feed and
the items that nobody has read. `TokenTruth` says that no token is lost on the way: those that are
claimed belong to the jobs that are with the last handler and not launched, to the unfinished
resources in the feed, and to the ends of jobs that the listener has yet to hear of.

Before the registration has its first turn nobody uses the pool, and `Unwatched` holds. From then on
a watch follows the feed.
-/

namespace Admission

namespace Course

/-- Nobody has used the pool, and a registration may be waiting for its first turn. -/
structure Unwatched (lineage : Nat → Prop) (capacity : Nat) (feed : MemoryFeed) (course : Course) :
    Prop where
  single : course.system.limiters.length = 1
  unused : course.system.pool 0 = .full capacity
  unwatched : course.system.watches = #[]
  unlaunched : course.launched = []
  has : course.system.HasFeed feed
  sheltered : course.system.cancellation.Shelters (fun _ => False) fun _ => False
  waits : ∀ (index : Nat) (state : TaskState), course.system.tasks[index]? = some state →
    state.task.isIdle = true ∨ ∃ context,
      state = { task := .registration System.clusterFeed context none } ∧ lineage context.token
  once : ∀ (index other : Nat) (state after : TaskState), course.system.tasks[index]? = some state →
    course.system.tasks[other]? = some after → state.task.isRegistration = true →
    after.task.isRegistration = true → index = other
  pending : ∀ state ∈ course.system.tasks, state.task.isRegistration = true →
    course.system.cancellation.Shelters lineage fun _ => False

namespace Unwatched

variable {lineage : Nat → Prop} {capacity : Nat} {feed later : MemoryFeed} {course next : Course}
  {index : Nat} {state : TaskState} {context : Context}

theorem not_isAdmission (kept : course.Unwatched lineage capacity feed)
    (found : course.system.tasks[index]? = some state) : state.task.isAdmission = false := by
  rcases kept.waits index state found with idle | ⟨context, rfl, -⟩
  · cases task : state.task with
    | admission job context stage => simp [Task.isIdle, task] at idle
    | _ => rfl
  · rfl

theorem isIdle_of_droppable (kept : course.Unwatched lineage capacity feed)
    (found : course.system.tasks[index]? = some state)
    (keeps : state.task.keepsToAdmission = true) : state.task.isIdle = true := by
  rcases Task.isIdle_or_isAdmission keeps with idle | admission
  · exact idle
  · rw [kept.not_isAdmission found] at admission
    cases admission

/-- After a step that concerns neither the limiter nor its registration everything is in order
again. -/
theorem goOn (kept : course.Unwatched lineage capacity feed)
    (limiters : next.system.limiters = course.system.limiters)
    (watches : next.system.watches = course.system.watches)
    (launched : next.launched = course.launched)
    (spares : System.SparesWards (fun _ => False) course.system next.system)
    (spared : next.Spares lineage) (has : next.system.HasFeed later)
    (waits : ∀ (index : Nat) (state : TaskState), next.system.tasks[index]? = some state →
      state.task.isIdle = true ∨ course.system.tasks[index]? = some state) :
    ∃ feed, next.Unwatched lineage capacity feed := by
  have registering {index : Nat} {state : TaskState}
      (found : next.system.tasks[index]? = some state)
      (registers : state.task.isRegistration = true) :
      course.system.tasks[index]? = some state := by
    rcases waits index state found with idle | before
    · cases task : state.task with
      | registration name context watch => simp [Task.isIdle, task] at idle
      | _ => simp [Task.isRegistration, task] at registers
    · exact before
  refine ⟨later, ?_, ?_, ?_, ?_, has, ?_, ?_, ?_, ?_⟩
  · rw [limiters, kept.single]
  · rw [System.pool_congr limiters 0, kept.unused]
  · rw [watches, kept.unwatched]
  · rw [launched, kept.unlaunched]
  · exact Cancellation.Reaches.shelters spares kept.sheltered fun _ impossible => impossible.elim
  · intro index state found
    rcases waits index state found with idle | before
    · exact Or.inl idle
    · exact kept.waits index state before
  · intro index other state after found foundOther registers alsoRegisters
    exact kept.once index other state after (registering found registers)
      (registering foundOther alsoRegisters) registers alsoRegisters
  · intro state member registers
    rcases Array.getElem?_of_mem member with ⟨index, found⟩
    have before := Array.mem_of_getElem? (registering found registers)
    exact Cancellation.Reaches.shelters spares (kept.pending state before registers) spared

/-- A step that changes an idle task. -/
theorem goOn_of_modify (kept : course.Unwatched lineage capacity feed)
    (same : course.system.SameFeeds next.system) (launched : next.launched = course.launched)
    (spares : System.SparesWards (fun _ => False) course.system next.system)
    (spared : next.Spares lineage) {change : TaskState → TaskState}
    (tasks : next.system.tasks = course.system.tasks.modify index change)
    (found : course.system.tasks[index]? = some state)
    (idle : (change state).task.isIdle = true) :
    ∃ feed, next.Unwatched lineage capacity feed := by
  refine kept.goOn same.limiters same.watches launched spares spared
    (kept.has.congr same.feeds (by simp [same.streams])) ?_
  intro other after present
  rw [tasks, Array.getElem?_modify] at present
  split at present
  · rename_i same
    subst same
    rw [found] at present
    cases present
    exact Or.inl idle
  · exact Or.inr present

theorem perform_elsewhere (kept : course.Unwatched lineage capacity feed) {happening : Happening}
    (allowed : course.system.AllowsHappening happening)
    (spared : (course.perform (.move (.elsewhere happening))).Spares lineage) :
    ∃ feed, (course.perform (.move (.elsewhere happening))).Unwatched lineage capacity feed := by
  have frame := System.undergo_frame course.system happening
  rcases kept.has.undergo happening with ⟨later, has⟩
  refine kept.goOn frame.1 frame.2.2.1 rfl ?_ spared has ?_
  · apply System.undergo_sparesWards course.system
    intro context cancels
    exact ⟨(Watching.cancels_of_allowsHappening allowed context cancels).1, not_false⟩
  · intro index state found
    simp only [perform, System.perform, frame.2.1] at found
    exact Or.inr found

theorem not_isRegistered (kept : course.Unwatched lineage capacity feed) :
    ¬course.system.isRegistered = true := by
  intro registered
  rcases Array.any_eq_true.mp registered with ⟨index, inside, succeeded⟩
  rcases kept.waits index _ (Array.getElem?_eq_getElem inside) with idle | ⟨context, waiting, -⟩
  · simp only [TaskState.hasRegistered] at succeeded
    split at succeeded
    · rename_i registration _
      rw [registration] at idle
      cases idle
    · cases succeeded
  · rw [waiting] at succeeded
    cases succeeded

theorem start_idle (kept : course.Unwatched lineage capacity feed) {task : Task}
    (idle : task.isIdle = true) (spared : (course.perform (.move (.start task))).Spares lineage) :
    ∃ feed, (course.perform (.move (.start task))).Unwatched lineage capacity feed := by
  have frame := System.spawn_frame course.system task
  refine kept.goOn frame.1 frame.2.2.1 rfl (.of_eq frame.2.2.2.2.2.1) spared
    (kept.has.congr frame.2.2.2.1 (by simp [perform, System.perform])) ?_
  intro index state found
  simp only [perform, System.perform, frame.2.1, Array.getElem?_push] at found
  split at found
  · cases found
    exact Or.inl idle
  · exact Or.inr found

/-- The tokens above that of the registration become the lineage. -/
theorem start_registration (kept : course.Unwatched lineage capacity feed)
    (first : ∀ state ∈ course.system.tasks, state.task.isRegistration = false)
    (made : context.token < course.system.cancellation.holders.size)
    (above : ∀ token, lineage token ↔ Relation.ReflTransGen
      (fun upper lower => course.system.cancellation.forest.IsParent upper lower) token
      context.token) :
    (course.perform (.move (.start (.registration System.clusterFeed context none)))).Unwatched
      lineage capacity feed := by
  have frame := System.spawn_frame course.system (.registration System.clusterFeed context none)
  have registering {index : Nat} {state : TaskState}
      (found : (course.system.tasks.push
        { task := .registration System.clusterFeed context none })[index]? = some state)
      (registers : state.task.isRegistration = true) : index = course.system.tasks.size := by
    rw [Array.getElem?_push] at found
    split at found
    · assumption
    · rw [first state (Array.mem_of_getElem? found)] at registers
      cases registers
  refine ⟨?_, ?_, ?_, kept.unlaunched, ?_, ?_, ?_, ?_, ?_⟩
  · simp only [perform, System.perform, frame.1, kept.single]
  · exact (System.pool_congr frame.1 0).trans kept.unused
  · exact frame.2.2.1.trans kept.unwatched
  · exact kept.has.congr frame.2.2.2.1 (by simp [perform, System.perform])
  · simp only [perform, System.perform, frame.2.2.2.2.2.1]
    exact kept.sheltered
  · intro index state found
    simp only [perform, System.perform, frame.2.1, Array.getElem?_push] at found
    split at found
    · cases found
      exact Or.inr ⟨context, rfl, (above _).mpr Relation.ReflTransGen.refl⟩
    · exact kept.waits index state found
  · intro index other state after found foundOther registers alsoRegisters
    simp only [perform, System.perform, frame.2.1] at found foundOther
    rw [registering found registers, registering foundOther alsoRegisters]
  · intro state _ _
    have shelters := kept.sheltered.above made
    simp only [perform, System.perform, frame.2.2.2.2.2.1]
    simpa only [← above] using shelters

theorem perform_start (kept : course.Unwatched lineage capacity feed) {task : Task}
    (allowed : course.system.AllowsStart lineage task)
    (spared : (course.perform (.move (.start task))).Spares lineage) :
    ∃ feed, (course.perform (.move (.start task))).Unwatched lineage capacity feed := by
  cases task with
  | timer signal delay deadline => exact kept.start_idle rfl spared
  | awaitCancellation context => exact kept.start_idle rfl spared
  | awaitStaleness signal => exact kept.start_idle rfl spared
  | acquisition context signal => cases allowed
  | listening watch => cases allowed
  | admission job context stage =>
      cases stage with
      | arriving => exact absurd allowed kept.not_isRegistered
      | waiting place since => cases allowed
      | inside holds => cases allowed
  | registration name context watch =>
      cases watch with
      | some watch => cases allowed
      | none =>
          rcases allowed with ⟨rfl, first, made, above⟩
          exact ⟨feed, kept.start_registration first made above⟩

/-- Only idle tasks can be dropped, or marked for it. -/
theorem perform_drop (kept : course.Unwatched lineage capacity feed)
    (allowed : course.system.AllowsDrop index)
    (spared : (course.perform (.move (.drop index))).Spares lineage) :
    ∃ feed, (course.perform (.move (.drop index))).Unwatched lineage capacity feed := by
  rcases System.dropNow_cases course.system index with same | ⟨state, found, unfinished, dropped⟩
  · rw [perform_of_same course (.drop index) same]
    exact ⟨feed, kept⟩
  · have idle := kept.isIdle_of_droppable found (allowed state found unfinished).1
    rw [System.dropTask_of_isIdle idle] at dropped
    have tasks := (System.finish_frame course.system index .aborted).2.1
    rw [← dropped] at tasks
    refine kept.goOn_of_modify ?_ rfl ?_ spared tasks found idle
    · simp only [perform, System.perform, dropped]
      exact (System.SameFeeds.refl course.system).finish index _
    · simp only [perform, System.perform, dropped]
      exact System.SparesWards.finish (.of_eq rfl) index _

theorem perform_abort (kept : course.Unwatched lineage capacity feed)
    (allowed : course.system.AllowsDrop index)
    (spared : (course.perform (.move (.abort index))).Spares lineage) :
    ∃ feed, (course.perform (.move (.abort index))).Unwatched lineage capacity feed := by
  rcases System.abort_cases course.system index with same | ⟨state, found, unfinished, tasks⟩
  · rw [perform_of_same course (.abort index) same]
    exact ⟨feed, kept⟩
  · have idle := kept.isIdle_of_droppable found (allowed state found unfinished).1
    rcases System.abort_frame course.system index with
      ⟨limiters, watches, feeds, streams, cancellation, -⟩
    exact kept.goOn_of_modify ⟨limiters, watches, feeds, streams⟩ rfl (.of_eq cancellation) spared
      tasks found idle

theorem turn_of_idle (kept : course.Unwatched lineage capacity feed)
    (found : course.system.tasks[index]? = some state) (idle : state.task.isIdle = true)
    (spared : (course.perform (.move (.turn index))).Spares lineage) :
    ∃ feed, (course.perform (.move (.turn index))).Unwatched lineage capacity feed := by
  rcases System.turn_of_isIdle found idle with ⟨same, change, tasks⟩
  rcases turn_change found tasks with ⟨advances, -, -⟩
  refine kept.goOn_of_modify same rfl ?_ spared tasks found ?_
  · apply System.turn_sparesWards course.system index
    intro name context watch task
    have registers : state.task = .registration name context watch := by
      simpa [System.task?, found] using task
    rw [registers] at idle
    cases idle
  · rw [advances.isIdle_eq, idle]

/-- The first turn of the registration starts its watch, and is not the last. -/
theorem turn_starts (kept : course.Unwatched lineage capacity feed)
    (allowed : course.AllowsTurn index)
    (found : course.system.tasks[index]? =
      some { task := .registration System.clusterFeed context none }) :
    ∃ deadline, course.system.turn index = course.system.withWatch index context deadline := by
  rcases System.startRegistration_eq kept.has index context with ⟨deadline, started⟩
  rcases System.withWatch_follows kept.has kept.unwatched index context deadline with
    ⟨watch, watches, notSynced, -⟩
  have none : course.system.watches.size = 0 := by rw [kept.unwatched]; rfl
  have step : course.system.turn index =
      (course.system.withWatch index context deadline).settleRegistration index context 0
        deadline := by
    rw [none] at started
    rw [← started]
    simp [System.turn, found]
  have foundAfter := System.withWatch_registration found context deadline
  have foundWatch : (course.system.withWatch index context deadline).watches[0]? = some watch := by
    simp [watches]
  have succeeds := (allowed _ found rfl).2
  rw [step] at succeeds
  rcases System.settleRegistration_cases foundAfter foundWatch succeeds with same | ⟨synced, -⟩
  · exact ⟨deadline, step.trans same⟩
  · rw [notSynced] at synced
    cases synced

/-- The tasks after that are the registration, its listener and idle ones. -/
theorem withWatch_tasks (kept : course.Unwatched lineage capacity feed)
    (found : course.system.tasks[index]? =
      some { task := .registration System.clusterFeed context none })
    (deadline : Option Nat) {other : Nat}
    (present : (course.system.withWatch index context deadline).tasks[other]? = some state) :
    state.task.isIdle = true ∨
      state = { task := .registration System.clusterFeed context (some (0, deadline)) } ∨
      state = { task := .listening 0 } := by
  have none : course.system.watches.size = 0 := by rw [kept.unwatched]; rfl
  rw [(System.withWatch_frame course.system index context deadline).2, none, Array.getElem?_push]
    at present
  split at present
  · cases present
    exact Or.inr (Or.inr rfl)
  · by_cases same : other = index
    · subst same
      simp only [Array.getElem?_modify, if_true, found, Option.map_some] at present
      cases present
      exact Or.inr (Or.inl rfl)
    · rw [Array.getElem?_modify, if_neg (Ne.symm same)] at present
      rcases kept.waits other state present with idle | ⟨another, rfl, -⟩
      · exact Or.inl idle
      · exact absurd (kept.once other index _ _ present found rfl rfl) same

/-- The watch has a token of its own, directly under one of the lineage. -/
theorem withWatch_shelters (kept : course.Unwatched lineage capacity feed)
    (found : course.system.tasks[index]? =
      some { task := .registration System.clusterFeed context none })
    (known : lineage context.token) (deadline : Option Nat)
    (spared : ∀ token, lineage token →
      token ∉ (course.system.withWatch index context deadline).cancellation.cancelled) :
    (course.system.withWatch index context deadline).cancellation.Shelters lineage fun token =>
      token = (course.system.cancellation.child context).2.token := by
  have reaches (wards : Nat → Prop) :=
    System.withWatch_reaches kept.has wards index context deadline
  have live : context.token ∉ course.system.cancellation.cancelled := by
    have grown := (Cancellation.Reaches.child .unchanged context).trans (reaches fun _ => False)
    exact fun cancelled => spared context.token known (grown.cancelled_subset cancelled)
  have registers := kept.pending _ (Array.mem_of_getElem? found) rfl
  rcases registers.adopt known live with ⟨adopted, token⟩
  rw [token]
  exact (reaches _).shelters adopted spared

theorem turn_of_registration (kept : course.Unwatched lineage capacity feed)
    (allowed : course.AllowsTurn index)
    (found : course.system.tasks[index]? =
      some { task := .registration System.clusterFeed context none })
    (known : lineage context.token)
    (spared : (course.perform (.move (.turn index))).Spares lineage) :
    ∃ watch feed stream, (course.perform (.move (.turn index))).Watching lineage capacity watch feed
      stream := by
  have few := (allowed _ found rfl).1 rfl
  rw [kept.has.cluster_eq, kept.unused] at few
  rcases kept.turn_starts allowed found with ⟨deadline, step⟩
  have after : (course.perform (.move (.turn index))).system =
      course.system.withWatch index context deadline := step
  rcases System.withWatch_follows kept.has kept.unwatched index context deadline with
    ⟨watch, watches, notSynced, own, follows⟩
  have frame := System.withWatch_frame course.system index context deadline
  have spares := spared
  simp only [Spares, after] at spares
  have tasks {other : Nat} {state : TaskState}
      (present : (course.perform (.move (.turn index))).system.tasks[other]? = some state) :=
    kept.withWatch_tasks found deadline (by rw [← after, present])
  have none : (course.perform (.move (.turn index))).unlaunched = 0 := by
    apply unlaunched_eq_zero
    intro other state present
    rcases tasks present with idle | rfl | rfl
    · exact TaskState.isWithNext_of_isIdle idle 0
    · rfl
    · rfl
  refine ⟨watch, feed.addWatcher ⟨watch.context, watch.stream⟩, { items := feed.replay }, ?_, ?_,
    ?_, ?_, ?_, ?_, ?_, ?_, ?_⟩
  · rw [after, frame.1, kept.single]
  · rw [after, System.pool_congr frame.1 0, kept.unused]
    rfl
  · rw [after, watches]
  · rw [after, own]
    exact kept.withWatch_shelters found known deadline spares
  · rw [after]
    exact follows
  · rw [none, after, System.pool_congr frame.1 0, kept.unused, notSynced, Nat.zero_add]
    exact Balanced.of_replay feed few
  · intro other state present
    rcases tasks present with idle | rfl | rfl
    · exact TaskState.fits_of_isIdle idle _
    · refine ⟨⟨deadline, rfl⟩, rfl, ?_⟩
      intro ended
      cases ended
    · exact ⟨rfl, rfl, rfl⟩
  · intro other member
    simp only [perform, kept.unlaunched, List.not_mem_nil] at member
  · rw [after]
    have foundAfter := System.withWatch_registration found context deadline
    exact ⟨_, Array.mem_of_getElem? foundAfter, rfl⟩

end Unwatched

/-! ### Courses -/

/-- Before the registration has its first turn nobody has used the pool, and from then on a watch
follows the feed. -/
def Kept (lineage : Nat → Prop) (capacity : Nat) (course : Course) : Prop :=
  (∃ feed, course.Unwatched lineage capacity feed) ∨
    ∃ watch feed stream, course.Watching lineage capacity watch feed stream

section Courses

variable {lineage : Nat → Prop} {capacity : Nat} {feed : MemoryFeed} {course : Course}

theorem Unwatched.perform_turn (kept : course.Unwatched lineage capacity feed) {index : Nat}
    (allowed : course.AllowsTurn index)
    (spared : (course.perform (.move (.turn index))).Spares lineage) :
    (course.perform (.move (.turn index))).Kept lineage capacity := by
  rcases System.turn_cases course.system index with same | ⟨state, found, -⟩
  · rw [perform_of_same course (.turn index) same]
    exact Or.inl ⟨feed, kept⟩
  · rcases kept.waits index state found with idle | ⟨context, rfl, known⟩
    · exact Or.inl (kept.turn_of_idle found idle spared)
    · exact Or.inr (kept.turn_of_registration allowed found known spared)

/-- Every allowed step keeps everything in order. -/
theorem perform_kept (kept : course.Kept lineage capacity) {act : Act}
    (allowed : course.Allows lineage act) (spared : (course.perform act).Spares lineage) :
    (course.perform act).Kept lineage capacity := by
  rcases kept with ⟨feed, kept⟩ | ⟨watch, feed, stream, kept⟩
  · cases act with
    | launch index resource =>
        rcases allowed.isInside with ⟨state, job, context, holds, found, -, task⟩
        have noJob := kept.not_isAdmission found
        rw [task] at noJob
        cases noJob
    | move move =>
        cases move with
        | turn index => exact kept.perform_turn allowed spared
        | drop index => exact Or.inl (kept.perform_drop allowed spared)
        | abort index => exact Or.inl (kept.perform_abort allowed spared)
        | start task => exact Or.inl (kept.perform_start allowed spared)
        | elsewhere happening => exact Or.inl (kept.perform_elsewhere allowed spared)
        | tryAcquire place => cases allowed
        | tryRelease place => cases allowed
        | reconcile change => cases allowed
  · exact Or.inr (kept.perform_watching allowed spared)

theorem run_kept {acts : List Act} (kept : course.Kept lineage capacity)
    (lawful : course.Lawful lineage acts) : (course.run acts).Kept lineage capacity := by
  induction acts generalizing course with
  | nil => exact kept
  | cons act rest ih =>
      rcases lawful with ⟨allowed, spared, later⟩
      exact ih (perform_kept kept allowed spared) later

theorem beginning_kept {limiter : Limiter} (lineage : Nat → Prop) (resources : List JobResource)
    (created : Pool.create limiter.pool.capacity = .ok limiter.pool) :
    (beginning limiter resources).Kept lineage limiter.pool.capacity := by
  refine Or.inl ⟨.ofResources resources, rfl, Pool.eq_full_of_create created, rfl, rfl, ?_, ?_, ?_,
    ?_, ?_⟩
  · exact ⟨rfl, MemoryFeed.ofResources_sorted resources, List.forall_mem_nil _⟩
  · refine ⟨⟨?_, List.forall_mem_nil _⟩, ?_, fun _ impossible => impossible.elim, ?_⟩
    · intro token member
      simp [beginning, Cancellation.empty, Forest.tokens] at member
    · rintro token (impossible | impossible) <;> exact impossible.elim
    · rintro upper lower - (impossible | impossible) <;> exact impossible.elim
  · intro index state found
    simp [beginning] at found
  · intro index other state after found
    simp [beginning] at found
  · intro state member
    simp [beginning] at member

end Courses

/-- Where the claimed tokens are. -/
structure TokenTruth (capacity : Nat) (course : Course) : Prop where
  /-- Every claimed token belongs to a job that is with the last handler and not launched, to an
  unfinished resource in the feed, or to the end of a job that the listener has not heard of. -/
  exact : (course.system.pool 0).inUse =
    course.unlaunched + MemoryFeed.unfinished course.system.cluster.resources +
      course.system.undelivered
  /-- There are never more of them than tokens. -/
  bounded : course.unlaunched + MemoryFeed.unfinished course.system.cluster.resources +
    course.system.undelivered ≤ capacity

theorem Watching.tokenTruth {lineage : Nat → Prop} {capacity : Nat} {watch : Watch}
    {feed : MemoryFeed} {stream : Stream} {course : Course}
    (kept : course.Watching lineage capacity watch feed stream)
    (registered : course.system.isRegistered = true) : course.TokenTruth capacity := by
  have balanced := kept.balanced
  rw [kept.isSynced_of_isRegistered registered] at balanced
  have unread : course.system.undelivered = stream.items.countP FeedItem.endsJob := by
    simp [System.undelivered, kept.watches, kept.follows.found]
  have claimed := balanced.inUse_eq
  have bounded := balanced.inUse_le
  rw [← kept.follows.cluster_eq, ← unread] at claimed
  rw [kept.capacity, claimed] at bounded
  exact ⟨claimed, bounded⟩

/-- Whatever order jobs, the listener and those who change the feed or cancel contexts act in, the
claimed tokens are accounted for once the registration has succeeded. -/
theorem tokenTruth_of_lawful (limiter : Limiter) (resources : List JobResource)
    (lineage : Nat → Prop) (acts : List Act)
    (created : Pool.create limiter.pool.capacity = .ok limiter.pool)
    (lawful : (beginning limiter resources).Lawful lineage acts)
    (registered : ((beginning limiter resources).run acts).system.isRegistered = true) :
    ((beginning limiter resources).run acts).TokenTruth limiter.pool.capacity := by
  rcases run_kept (beginning_kept lineage resources created) lawful with
    ⟨feed, kept⟩ | ⟨watch, feed, stream, kept⟩
  · exact absurd registered kept.not_isRegistered
  · exact kept.tokenTruth registered

/-- A job is with the last handler, one was launched and succeeded, one failed, and a job that was
there before has finished, which the listener has not heard of. -/
def busy : List Act :=
  [.move (.elsewhere (.instruct
      [("slow", { holds := [.gate "door"] }), ("stuck", { holds := [.gate "never"] }),
        ("failing", { fails := some (.fail "refused") })])),
    .move (.elsewhere .createContext), .move (.elsewhere .createContext),
    .move (.elsewhere (.createSignal false)),
    .move (.start (.registration System.clusterFeed ⟨⟨0, 0⟩, []⟩ none)),
    .move (.turn 0), .move (.turn 1), .move (.turn 0),
    .move (.start (.admission { uuid := "slow", signal := 0 } ⟨⟨1, 1⟩, []⟩ .arriving)),
    .move (.turn 2), .launch 2 (.running "slow" "slow"),
    .move (.start (.admission { uuid := "failing", signal := 0 } ⟨⟨1, 1⟩, []⟩ .arriving)),
    .move (.turn 3),
    .move (.start (.admission { uuid := "stuck", signal := 0 } ⟨⟨1, 1⟩, []⟩ .arriving)),
    .move (.turn 4), .move (.elsewhere (.openGate "door")), .move (.turn 2),
    .move (.elsewhere (.cancel ⟨⟨1, 1⟩, []⟩ none)),
    .move (.elsewhere (.applyResource System.clusterFeed (.completed "old" "old")))]

/-- A limiter of three tokens, and a feed with a job that is running already. -/
def opening : Course :=
  beginning { pool := .full 3, next := "end" } [.running "old" "old"]

/-- Nothing stands above a token that was made for itself. -/
theorem above_first (token : Nat) :
    token = 0 ↔ Relation.ReflTransGen
      (fun upper lower => Forest.IsParent upper lower (.tree 0 .bare (.tree 1 .bare .bare)))
      token 0 := by
  constructor
  · rintro rfl
    exact .refl
  · intro above
    rcases Relation.ReflTransGen.cases_tail above with same | ⟨upper, -, parent⟩
    · exact same.symm
    · simp [Forest.IsParent] at parent

theorem lawful_busy : opening.Lawful (fun token => token = 0) busy := by
  have spares {course : Course} (uncancelled : 0 ∉ course.system.cancellation.cancelled) :
      course.Spares (fun token => token = 0) := by
    rintro _ rfl
    exact uncancelled
  have untouched {course : Course} (none : course.system.cancellation.cancelled = []) :
      course.Spares (fun token => token = 0) := by
    apply spares
    rw [none]
    exact List.not_mem_nil
  have turning {course : Course} {index : Nat} {known : TaskState}
      (found : course.system.tasks[index]? = some known)
      (rule : course.AllowsTurnOf index known.task) : course.AllowsTurn index := by
    intro state present _
    rw [found] at present
    cases present
    exact rule
  refine ⟨trivial, untouched rfl, trivial, untouched rfl, trivial, untouched rfl, ?_⟩
  refine ⟨trivial, untouched rfl, ?_⟩
  -- the registration, its listener, and the registration again
  refine ⟨⟨rfl, by decide, by decide, above_first⟩, untouched rfl, ?_⟩
  refine ⟨turning rfl ⟨fun _ => by decide, ?_⟩, untouched rfl, ?_⟩
  · intro error fails
    cases fails
  refine ⟨turning rfl trivial, untouched rfl, ?_⟩
  refine ⟨turning rfl ⟨?_, ?_⟩, untouched rfl, ?_⟩
  · intro fresh
    cases fresh
  · intro error fails
    cases fails
  -- one job is launched, one fails, and one stays with the last handler
  refine ⟨(by decide +kernel : System.isRegistered _ = true), untouched rfl, ?_⟩
  refine ⟨turning rfl trivial, untouched rfl, ?_⟩
  refine ⟨⟨⟨_, _, _, _, rfl, rfl, rfl⟩, List.not_mem_nil, rfl, by decide⟩, untouched rfl, ?_⟩
  refine ⟨(by decide +kernel : System.isRegistered _ = true), untouched rfl, ?_⟩
  refine ⟨turning rfl (by decide : 3 ∉ [2]), untouched rfl, ?_⟩
  refine ⟨(by decide +kernel : System.isRegistered _ = true), untouched rfl, ?_⟩
  refine ⟨turning rfl trivial, untouched rfl, trivial, untouched rfl, ?_⟩
  refine ⟨turning rfl ⟨rfl, by decide⟩, untouched rfl, ?_⟩
  -- the context of the jobs is cancelled, and the first resource finishes
  refine ⟨⟨by decide, by decide⟩, spares (by decide +kernel), ?_⟩
  refine ⟨fun _ => ⟨.running "old" "old", by decide +kernel, by decide⟩, ?_, trivial⟩
  exact spares (by decide +kernel)

theorem tokenTruth_busy :
    (opening.run busy).TokenTruth 3 ∧ ((opening.run busy).system.pool 0).inUse = 3 ∧
      (opening.run busy).unlaunched = 1 ∧
      MemoryFeed.unfinished (opening.run busy).system.cluster.resources = 1 ∧
      (opening.run busy).system.undelivered = 1 := by
  refine ⟨?_, by decide +kernel, by decide +kernel, by decide +kernel, by decide +kernel⟩
  exact tokenTruth_of_lawful { pool := .full 3, next := "end" } [.running "old" "old"]
    (fun token => token = 0) busy rfl lawful_busy (by decide +kernel)

end Course

end Admission
