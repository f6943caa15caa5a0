import Admission.Proofs.WatchTurns

/-!
# Steps of a course with a watch

From the first turn of the registration on, a watch follows the cluster's feed. `Watching` is what
every allowed step preserves from then on: the watch is sheltered from cancellations, the claimed
tokens are balanced with the jobs that are not launched, the unfinished resources and the unread
items, and each task is one that fits into the picture.

`Watching.goOn` puts the parts together again after a step; what remains for each kind of step is to
say what it does to the tasks, to the feed and to the claimed tokens.
-/

namespace Admission

namespace TaskState

/-- Whether a task can be there while a watch follows the feed. -/
def Fits (isSynced : Bool) (state : TaskState) : Prop :=
  match state.task with
  | .timer _ _ _ | .awaitCancellation _ | .awaitStaleness _ => True
  | .acquisition _ _ => False
  | .admission _ _ _ => isSynced = true ∧ (state.isWithNext 0 = true → state.isAborted = false)
  | .registration _ _ watch =>
      (∃ deadline, watch = some (0, deadline)) ∧ state.isAborted = false ∧
        (state.outcome = some (.registered (.ok ())) → isSynced = true)
  | .listening watch => watch = 0 ∧ state.isAborted = false ∧ state.outcome = none

/-- Whether a task is a job that has come to the last handler. -/
def IsInside (state : TaskState) : Prop :=
  ∃ job context holds, state.task = .admission job context (.inside holds)

section Fits

variable {state later : TaskState} {isSynced : Bool}

theorem fits_of_isIdle (idle : state.task.isIdle = true) (isSynced : Bool) :
    state.Fits isSynced := by
  rcases state with ⟨task, isAborted, outcome⟩
  cases task <;> trivial

theorem fits_of_isAdmission (admission : state.task.isAdmission = true)
    (marked : state.isWithNext 0 = true → state.isAborted = false) : state.Fits true := by
  rcases state with ⟨task, isAborted, outcome⟩
  cases task with
  | admission job context stage => exact ⟨rfl, marked⟩
  | _ => cases admission

theorem Fits.isSynced_of_isAdmission (fits : state.Fits isSynced)
    (admission : state.task.isAdmission = true) :
    isSynced = true ∧ (state.isWithNext 0 = true → state.isAborted = false) := by
  rcases state with ⟨task, isAborted, outcome⟩
  cases task with
  | admission job context stage => exact fits
  | _ => cases admission

theorem Fits.isSynced_of_hasRegistered (fits : state.Fits isSynced)
    (registered : state.hasRegistered = true) : isSynced = true := by
  rcases state with ⟨task, isAborted, outcome⟩
  simp only [hasRegistered] at registered
  split at registered
  · exact fits.2.2 rfl
  · cases registered

/-- A task that uses no pool, or a job that is not with the last handler, fits in again when its
mark or its outcome changes. -/
theorem Fits.of_outside (fits : state.Fits isSynced) (keeps : state.task.keepsToAdmission = true)
    (task : later.task = state.task) (outside : later.isWithNext 0 = false) :
    later.Fits isSynced := by
  rcases Task.isIdle_or_isAdmission keeps with idle | admission
  · apply fits_of_isIdle
    rw [task, idle]
  · rw [(fits.isSynced_of_isAdmission admission).1]
    apply fits_of_isAdmission
    · rw [task, admission]
    · intro inside
      rw [outside] at inside
      cases inside

/-- A mark that was met stays met. -/
theorem Fits.mono (fits : state.Fits isSynced) {after : Bool}
    (kept : isSynced = true → after = true) : state.Fits after := by
  rcases state with ⟨task, isAborted, outcome⟩
  cases task with
  | admission job context stage => exact ⟨kept fits.1, fits.2⟩
  | registration feed context watch => exact ⟨fits.1, fits.2.1, fun ended => kept (fits.2.2 ended)⟩
  | _ => exact fits

theorem isWithNext_of_isIdle (idle : state.task.isIdle = true) (place : Nat) :
    state.isWithNext place = false := by
  rcases state with ⟨task, isAborted, outcome⟩
  cases task <;> first | rfl | cases idle

theorem isWithNext_of_outcome {outcome : Outcome} (ended : state.outcome = some outcome)
    (place : Nat) : state.isWithNext place = false := by
  rcases state with ⟨task, isAborted, ending⟩
  simp only at ended
  subst ended
  cases task <;> rfl

theorem tokens_eq_isWithNext (noSuccess : state.outcome ≠ some (.handled (.ok ())))
    (noDrop : state.outcome ≠ some .aborted)
    (noPanic : ∀ text, state.outcome ≠ some (.panicked text)) (place : Nat) :
    state.tokens place = (state.isWithNext place).toNat := by
  rcases state with ⟨task, isAborted, outcome⟩
  have unsuccessful : hasSucceeded ⟨task, isAborted, outcome⟩ = false := by
    simp only [hasSucceeded]
    split
    · exact absurd rfl noSuccess
    · rfl
  have unbroken : hasBrokenOff place ⟨task, isAborted, outcome⟩ = false := by
    simp only [hasBrokenOff]
    split
    · exact absurd rfl noDrop
    · exact absurd rfl (noPanic _)
    · rfl
  rw [tokens, unsuccessful, unbroken]
  rfl

end Fits

end TaskState

namespace Course

/-- A watch follows the cluster's feed, and nobody uses the pool who should not. -/
structure Watching (lineage : Nat → Prop) (capacity : Nat) (watch : Watch) (feed : MemoryFeed)
    (stream : Stream) (course : Course) : Prop where
  single : course.system.limiters.length = 1
  capacity : (course.system.pool 0).capacity = capacity
  watches : course.system.watches = #[watch]
  sheltered : course.system.cancellation.Shelters lineage fun token => token = watch.context.token
  follows : course.system.Follows watch feed stream
  balanced : Balanced (course.unlaunched + MemoryFeed.unfinished feed.resources)
    (course.system.pool 0) watch.isSynced stream.items
  fits : ∀ (index : Nat) (state : TaskState), course.system.tasks[index]? = some state →
    state.Fits watch.isSynced
  launched : ∀ index ∈ course.launched, ∃ state, course.system.tasks[index]? = some state ∧
    state.IsInside
  begun : ∃ state ∈ course.system.tasks, state.task.isRegistration = true

namespace Watching

variable {lineage : Nat → Prop} {capacity : Nat} {watch : Watch} {feed later : MemoryFeed}
  {stream : Stream} {course next : Course} {index : Nat} {state : TaskState}

theorem uncancelled (kept : course.Watching lineage capacity watch feed stream) :
    course.system.isCancelled watch.context = false := by
  have live := kept.sheltered.live watch.context.token rfl
  simpa [System.isCancelled, Cancellation.isCancelled, Cancellation.tokenCancelled] using live

theorem member (kept : course.Watching lineage capacity watch feed stream) :
    watch ∈ course.system.watches := by
  simp [kept.watches]

theorem isInside (kept : course.Watching lineage capacity watch feed stream)
    (found : course.system.tasks[index]? = some state) (member : index ∈ course.launched) :
    state.IsInside := by
  rcases kept.launched index member with ⟨other, present, inside⟩
  rw [found] at present
  cases present
  exact inside

theorem untold (kept : course.Watching lineage capacity watch feed stream) {after : System}
    (feeds : after.feeds = course.system.feeds) (streams : after.streams = course.system.streams) :
    after.Follows watch feed { stream with items := stream.items ++ [] } := by
  simpa using kept.follows.congr feeds streams

/-- After a step that leaves the watch alone, everything is in order again if the claimed tokens are
balanced. -/
theorem goOn (kept : course.Watching lineage capacity watch feed stream)
    (reaches : course.system.Reaches next.system)
    (spares : System.SparesWards (fun token => token = watch.context.token) course.system
      next.system)
    (spared : next.Spares lineage)
    (watches : next.system.watches = course.system.watches) {changes : List FeedItem}
    (follows : next.system.Follows watch later { stream with items := stream.items ++ changes })
    (noClaims : ∀ item ∈ changes, item.claims = false)
    (unused : watch.isSynced = false → next.system.pool 0 = course.system.pool 0)
    (passed : (next.system.pool 0).inUse + course.unlaunched +
        MemoryFeed.unfinished feed.resources =
      (course.system.pool 0).inUse + next.unlaunched + MemoryFeed.unfinished later.resources +
        changes.countP FeedItem.endsJob)
    (fits : ∀ (index : Nat) (state : TaskState), next.system.tasks[index]? = some state →
      state.Fits watch.isSynced)
    (launched : ∀ index ∈ next.launched, ∃ state, next.system.tasks[index]? = some state ∧
      state.IsInside)
    (begun : ∃ state ∈ next.system.tasks, state.task.isRegistration = true) :
    ∃ feed stream, next.Watching lineage capacity watch feed stream := by
  have used : (course.system.pool 0).Reaches (next.system.pool 0) :=
    reaches.pool (by simp [kept.single])
  refine ⟨later, _, ?_, ?_, ?_, ?_, follows, ?_, fits, launched, begun⟩
  · rw [reaches.length, kept.single]
  · rw [used.capacity, kept.capacity]
  · rw [watches, kept.watches]
  · exact Cancellation.Reaches.shelters spares kept.sheltered spared
  · apply kept.balanced.goOn used unused noClaims
    omega

/-- A step that changes no task. -/
theorem goOn_of_tasks (kept : course.Watching lineage capacity watch feed stream)
    (tasks : next.system.tasks = course.system.tasks) (launched : next.launched = course.launched)
    (limiters : next.system.limiters = course.system.limiters)
    (spares : System.SparesWards (fun token => token = watch.context.token) course.system
      next.system)
    (spared : next.Spares lineage)
    (watches : next.system.watches = course.system.watches)
    (on : System.FollowsOn watch feed stream next.system) :
    ∃ feed stream, next.Watching lineage capacity watch feed stream := by
  rcases on with ⟨later, changes, follows, passed, noClaims⟩
  have pool := System.pool_congr limiters 0
  refine kept.goOn (.of_eq limiters) spares spared watches follows noClaims (fun _ => pool) ?_ ?_ ?_
    ?_
  · rw [pool, unlaunched_of_eq tasks launched]
    omega
  · rw [tasks]
    exact kept.fits
  · rw [tasks, launched]
    exact kept.launched
  · rw [tasks]
    exact kept.begun

/-- A step that changes one task, and no feed. -/
theorem goOn_of_modify (kept : course.Watching lineage capacity watch feed stream)
    (found : course.system.tasks[index]? = some state) {change : TaskState → TaskState}
    (tasks : next.system.tasks = course.system.tasks.modify index change)
    (launched : next.launched = course.launched) (reaches : course.system.Reaches next.system)
    (spares : System.SparesWards (fun token => token = watch.context.token) course.system
      next.system)
    (spared : next.Spares lineage)
    (watches : next.system.watches = course.system.watches) {changes : List FeedItem}
    (follows : next.system.Follows watch later { stream with items := stream.items ++ changes })
    (noClaims : ∀ item ∈ changes, item.claims = false)
    (unused : watch.isSynced = false → next.system.pool 0 = course.system.pool 0)
    (passed : (next.system.pool 0).inUse +
        (state.isWithNext 0 && !course.launched.contains index).toNat +
        MemoryFeed.unfinished feed.resources =
      (course.system.pool 0).inUse +
        ((change state).isWithNext 0 && !course.launched.contains index).toNat +
        MemoryFeed.unfinished later.resources + changes.countP FeedItem.endsJob)
    (fits : (change state).Fits watch.isSynced)
    (kind : state.task.Advances (change state).task)
    (inside : index ∈ course.launched → (change state).IsInside) :
    ∃ feed stream, next.Watching lineage capacity watch feed stream := by
  have others (other : Nat) (apart : other ≠ index) :
      next.system.tasks[other]? = course.system.tasks[other]? := by
    rw [tasks, Array.getElem?_modify, if_neg (Ne.symm apart)]
  have changed : next.system.tasks[index]? = some (change state) := by
    simp [tasks, Array.getElem?_modify, found]
  have counted := unlaunched_of_modify found tasks (fun other _ => by rw [launched])
  rw [launched] at counted
  apply kept.goOn reaches spares spared watches follows noClaims unused (by omega)
  · intro other after present
    by_cases same : other = index
    · subst same
      rw [changed] at present
      cases present
      exact fits
    · rw [others other same] at present
      exact kept.fits other after present
  · intro other member
    rw [launched] at member
    by_cases same : other = index
    · subst same
      exact ⟨_, changed, inside member⟩
    · rw [others other same]
      exact kept.launched other member
  · rcases kept.begun with ⟨first, member, registers⟩
    rcases Array.getElem?_of_mem member with ⟨place, present⟩
    by_cases same : place = index
    · subst same
      rw [found] at present
      cases present
      exact ⟨_, Array.mem_of_getElem? changed, by rw [kind.isRegistration_eq, registers]⟩
    · rw [← others place same] at present
      exact ⟨first, Array.mem_of_getElem? present, registers⟩

/-! ### Steps other than turns -/

theorem cancels_of_allowsHappening {system : System} {happening : Happening}
    (allowed : system.AllowsHappening happening) :
    ∀ context ∈ happening.cancels?, context.token < system.cancellation.holders.size ∧
      ∀ watch ∈ system.watches, context.token ≠ watch.context.token := by
  intro context member
  cases happening with
  | cancel other cause =>
      cases member
      exact allowed
  | cancelToken other =>
      cases member
      exact allowed
  | _ => cases member

theorem perform_elsewhere (kept : course.Watching lineage capacity watch feed stream)
    {happening : Happening} (allowed : course.system.AllowsHappening happening)
    (spared : (course.perform (.move (.elsewhere happening))).Spares lineage) :
    ∃ feed stream, (course.perform (.move (.elsewhere happening))).Watching lineage capacity watch
      feed stream := by
  have frame := System.undergo_frame course.system happening
  refine kept.goOn_of_tasks frame.2.1 rfl frame.1 ?_ spared frame.2.2.1
    (kept.follows.undergo kept.member kept.uncancelled allowed)
  apply System.undergo_sparesWards course.system
  intro context cancels
  rcases cancels_of_allowsHappening allowed context cancels with ⟨made, apart⟩
  exact ⟨made, apart watch kept.member⟩

theorem isSynced_of_isRegistered (kept : course.Watching lineage capacity watch feed stream)
    (registered : course.system.isRegistered = true) : watch.isSynced = true := by
  rcases Array.any_eq_true.mp registered with ⟨index, inside, succeeded⟩
  have fits := kept.fits index _ (Array.getElem?_eq_getElem inside)
  exact fits.isSynced_of_hasRegistered succeeded

theorem perform_start (kept : course.Watching lineage capacity watch feed stream) {task : Task}
    (allowed : course.system.AllowsStart lineage task)
    (spared : (course.perform (.move (.start task))).Spares lineage) :
    ∃ feed stream, (course.perform (.move (.start task))).Watching lineage capacity watch feed
      stream := by
  have frame := System.spawn_frame course.system task
  have fresh : TaskState.isWithNext 0 { task } = false ∧
      TaskState.Fits watch.isSynced { task } := by
    cases task with
    | admission job context stage =>
        cases stage with
        | arriving => exact ⟨rfl, kept.isSynced_of_isRegistered allowed, fun _ => rfl⟩
        | waiting place since => cases allowed
        | inside holds => cases allowed
    | registration name context watching =>
        cases watching with
        | some watching => cases allowed
        | none =>
            rcases kept.begun with ⟨state, member, registers⟩
            rw [allowed.2.1 state member] at registers
            cases registers
    | acquisition context signal => cases allowed
    | listening watch => cases allowed
    | _ => exact ⟨rfl, trivial⟩
  have pool := System.pool_congr frame.1 0
  refine kept.goOn (.of_eq frame.1) (.of_eq frame.2.2.2.2.2.1) spared frame.2.2.1
    (kept.untold frame.2.2.2.1 frame.2.2.2.2.1) (List.forall_mem_nil _) (fun _ => pool) ?_ ?_ ?_
    ?_
  · have unchanged : (course.perform (.move (.start task))).unlaunched = course.unlaunched :=
      unlaunched_of_push fresh.1 frame.2.1 rfl
    rw [unchanged]
    simp only [perform, System.perform, pool, List.countP_nil, Nat.add_zero]
  · intro index state present
    simp only [perform, System.perform, frame.2.1, Array.getElem?_push] at present
    split at present
    · cases present
      exact fresh.2
    · exact kept.fits index state present
  · intro index member
    rcases kept.launched index member with ⟨state, found, inside⟩
    have present := (Array.getElem?_eq_some_iff.mp found).1
    refine ⟨state, ?_, inside⟩
    simp only [perform, System.perform, frame.2.1, Array.getElem?_push, Nat.ne_of_lt present,
      if_false, found]
  · rcases kept.begun with ⟨state, member, registers⟩
    refine ⟨state, ?_, registers⟩
    simp only [perform, System.perform, frame.2.1]
    exact Array.mem_push.mpr (Or.inl member)

/-- A job that is not with the last handler is dropped, or a task that uses no pool. -/
theorem goOn_of_dropTask (kept : course.Watching lineage capacity watch feed stream)
    (found : course.system.tasks[index]? = some state)
    (keeps : state.task.keepsToAdmission = true) (notInside : state.isWithNext 0 = false)
    (system : next.system = course.system.dropTask index state.task)
    (launched : next.launched = course.launched) (spared : next.Spares lineage) :
    ∃ feed stream, next.Watching lineage capacity watch feed stream := by
  have frame := System.dropTask_frame course.system index state.task
  have fits := kept.fits index state found
  rw [← system] at frame
  refine kept.goOn_of_modify found frame.1 launched ?_ ?_ spared frame.2.1
    (kept.untold frame.2.2.1 frame.2.2.2.1) (List.forall_mem_nil _) ?_ ?_ ?_ (.same _) ?_
  · rw [system]
    exact System.dropTask_reaches course.system index state.task
  · rw [system]
    exact System.SparesWards.dropTask (.of_eq rfl) index state.task
  · intro notSynced
    rcases Task.isIdle_or_isAdmission keeps with idle | admission
    · rw [system, System.dropTask_of_isIdle idle]
      exact System.finish_pool course.system index _ 0
    · have synced := (fits.isSynced_of_isAdmission admission).1
      rw [notSynced] at synced
      cases synced
  · rw [system, System.dropTask_inUse, notInside,
      TaskState.isWithNext_of_outcome (by rfl) 0]
    rfl
  · exact fits.of_outside keeps rfl (TaskState.isWithNext_of_outcome (by rfl) 0)
  · intro member
    have inside := kept.isInside found member
    exact inside

theorem perform_drop (kept : course.Watching lineage capacity watch feed stream)
    (allowed : course.system.AllowsDrop index)
    (spared : (course.perform (.move (.drop index))).Spares lineage) :
    ∃ feed stream, (course.perform (.move (.drop index))).Watching lineage capacity watch feed
      stream := by
  rcases System.dropNow_cases course.system index with same | ⟨state, found, unfinished, dropped⟩
  · rw [perform_of_same course (.drop index) same]
    exact ⟨feed, stream, kept⟩
  · rcases allowed state found unfinished with ⟨keeps, notInside⟩
    exact kept.goOn_of_dropTask found keeps notInside dropped rfl spared

theorem perform_abort (kept : course.Watching lineage capacity watch feed stream)
    (allowed : course.system.AllowsDrop index)
    (spared : (course.perform (.move (.abort index))).Spares lineage) :
    ∃ feed stream, (course.perform (.move (.abort index))).Watching lineage capacity watch feed
      stream := by
  rcases System.abort_cases course.system index with same | ⟨state, found, unfinished, tasks⟩
  · rw [perform_of_same course (.abort index) same]
    exact ⟨feed, stream, kept⟩
  · rcases allowed state found unfinished with ⟨keeps, notInside⟩
    rcases System.abort_frame course.system index with
      ⟨limiters, watches, feeds, streams, cancellation, -⟩
    have stillNotInside : TaskState.isWithNext 0 { state with isAborted := true } = false :=
      notInside
    refine kept.goOn_of_modify found tasks rfl (.of_eq limiters) (.of_eq cancellation) spared
      watches (kept.untold feeds streams) (List.forall_mem_nil _)
      (fun _ => System.pool_congr limiters 0) ?_ ?_ (.same _) ?_
    · rw [stillNotInside, notInside]
      exact congrArg (fun pool : Pool => pool.inUse + 0 + MemoryFeed.unfinished feed.resources)
        (System.pool_congr limiters 0)
    · exact (kept.fits index state found).of_outside keeps rfl stillNotInside
    · intro member
      have inside := kept.isInside found member
      exact inside

/-- The last handler puts in the resource of a job, which from then on owns the token. -/
theorem perform_launch (kept : course.Watching lineage capacity watch feed stream)
    {resource : JobResource} (allowed : course.AllowsLaunch index resource)
    (spared : (course.perform (.launch index resource)).Spares lineage) :
    ∃ feed stream, (course.perform (.launch index resource)).Watching lineage capacity watch feed
      stream := by
  have frame := System.applyResource_frame course.system System.clusterFeed resource
  have absent := allowed.absent
  rw [kept.follows.cluster_eq] at absent
  rcases allowed.isInside with ⟨state, job, context, holds, found, unfinished, task⟩
  rcases kept.follows.applyResource_absent kept.uncancelled absent allowed.unfinished with
    ⟨later, follows, added⟩
  have pool := System.pool_congr frame.1 0
  have unchanged : (course.perform (.launch index resource)).system.tasks =
      course.system.tasks.modify index id := by
    refine frame.2.1.trans (Array.ext (by simp) ?_)
    intro position _ _
    simp [Array.getElem_modify]
  refine kept.goOn (.of_eq frame.1) ?_ spared frame.2.2.1 follows ?_ (fun _ => pool) ?_ ?_ ?_ ?_
  · exact System.SparesWards.applyResource (.of_eq rfl) _ _
  · intro item member
    rw [List.mem_singleton.mp member]
    rfl
  · have counted := unlaunched_of_modify found unchanged ?_
    · have inside : state.isWithNext 0 = true := by simp [TaskState.isWithNext, task, unfinished,
        Stage.isBeyond]
      have before : course.launched.contains index = false := by
        simpa using allowed.notLaunched
      have after : (course.perform (.launch index resource)).launched.contains index = true := by
        simp [perform]
      rw [id, inside, before, after] at counted
      rw [FeedItem.countP_endsJob_singleton, added]
      simp only [Bool.not_false, Bool.not_true, Bool.and_true, Bool.and_false, Bool.toNat_true,
        Bool.toNat_false] at counted
      simp only [perform, pool, FeedItem.endsJob, Bool.toNat_false] at counted ⊢
      omega
    · intro other apart
      simp [perform, apart]
  · intro other after present
    simp only [perform, frame.2.1] at present
    exact kept.fits other after present
  · intro other member
    simp only [perform, frame.2.1]
    rcases List.mem_cons.mp member with rfl | before
    · exact ⟨state, found, job, context, holds, task⟩
    · exact kept.launched other before
  · simp only [perform, frame.2.1]
    exact kept.begun

end Watching

end Course

end Admission
