import Admission.Proofs.CourseSteps

/-!
# Turns in a course with a watch

The turn of a job that is not launched changes the claimed tokens as the job accounts for them; if
it starts the job, the token belongs to the resource from then on. The turn of a job that is
launched changes no pool and no feed. The listener moves tokens between what is claimed and what
unread items speak of, and the registration only looks on.
-/

namespace Admission

namespace Course

variable {lineage : Nat → Prop} {capacity : Nat} {watch : Watch} {feed later : MemoryFeed}
  {stream : Stream} {course next : Course} {index : Nat} {state : TaskState} {job : Job}
  {context : Context} {stage : Stage}

/-! ### What is allowed -/

theorem AllowsTurn.answer (allowed : course.AllowsTurn index)
    (found : course.system.tasks[index]? = some state) (unfinished : state.outcome = none)
    (task : state.task = .admission job context stage) :
    course.AllowsAnswer index job context ((course.system.turn index).outcome? index) := by
  have answer := allowed state found unfinished
  rw [task] at answer
  exact answer

theorem AllowsAnswer.noPanic {outcome : Option Outcome}
    (allowed : course.AllowsAnswer index job context outcome) (text : String) :
    outcome ≠ some (.panicked text) := by
  rintro rfl
  exact allowed

theorem AllowsAnswer.noFailure {outcome : Option Outcome}
    (allowed : course.AllowsAnswer index job context outcome) (launched : index ∈ course.launched)
    (error : HandlerError) : outcome ≠ some (.handled (.error error)) := by
  rintro rfl
  exact allowed launched

theorem AllowsAnswer.of_ok {outcome : Option Outcome}
    (allowed : course.AllowsAnswer index job context outcome)
    (succeeds : outcome = some (.handled (.ok ()))) :
    course.system.verdictOn job context = .succeeds (decide (index ∉ course.launched)) ∧
      (index ∉ course.launched → course.system.cluster.get? job.uuid = none) := by
  subst succeeds
  exact allowed

/-- The change that a turn makes to its task. -/
theorem turn_change (found : course.system.tasks[index]? = some state)
    {change : TaskState → TaskState}
    (tasks : (course.system.turn index).tasks = course.system.tasks.modify index change) :
    state.task.Advances (change state).task ∧ (change state).isAborted = state.isAborted ∧
      (course.system.turn index).outcome? index = (change state).outcome := by
  have present : (course.system.turn index).tasks[index]? = some (change state) := by
    simp [tasks, Array.getElem?_modify, found]
  rcases (System.turn_advances course.system index).advances state found with
    ⟨after, foundAfter, advances, marked⟩
  rw [present] at foundAfter
  cases foundAfter
  exact ⟨advances, marked, by simp [System.outcome?, present]⟩

theorem toNat_le_unlaunched (found : course.system.tasks[index]? = some state)
    (notLaunched : index ∉ course.launched) :
    (state.isWithNext 0).toNat ≤ course.unlaunched := by
  cases inside : state.isWithNext 0 with
  | false => exact Nat.zero_le _
  | true =>
      have present := (Array.getElem?_eq_some_iff.mp found).1
      have isUnlaunched : course.isUnlaunched index = true := by
        simp [isUnlaunched_of_getElem? found, inside, notLaunched]
      exact List.countP_pos_iff.mpr ⟨index, List.mem_range.mpr present, isUnlaunched⟩

namespace Watching

/-- A turn cancels nothing that the watch depends on, if it is not the first of a registration. -/
theorem turn_spares (kept : course.Watching lineage capacity watch feed stream)
    (allowed : course.AllowsTurn index) (found : course.system.tasks[index]? = some state)
    (unfinished : state.outcome = none) :
    System.SparesWards (fun token => token = watch.context.token) course.system
      (course.system.turn index) := by
  apply System.turn_sparesWards course.system index
  intro name context watching task
  have registers : state.task = .registration name context watching := by
    simpa [System.task?, found] using task
  have fits := kept.fits index state found
  have rule := allowed state found unfinished
  simp only [TaskState.Fits, registers] at fits
  rw [registers] at rule
  rcases fits.1 with ⟨deadline, rfl⟩
  exact ⟨rfl, rule.2⟩

theorem turn_of_idle (kept : course.Watching lineage capacity watch feed stream)
    (allowed : course.AllowsTurn index) (found : course.system.tasks[index]? = some state)
    (unfinished : state.outcome = none) (idle : state.task.isIdle = true)
    (spared : (course.perform (.move (.turn index))).Spares lineage) :
    ∃ feed stream, (course.perform (.move (.turn index))).Watching lineage capacity watch feed
      stream := by
  rcases System.turn_of_isIdle found idle with ⟨same, change, tasks⟩
  rcases turn_change found tasks with ⟨advances, -, -⟩
  have idleAfter : (change state).task.isIdle = true := by rw [advances.isIdle_eq, idle]
  have pool := System.pool_congr same.limiters 0
  refine kept.goOn_of_modify found tasks rfl (.of_eq same.limiters)
    (kept.turn_spares allowed found unfinished) spared same.watches
    (kept.untold same.feeds same.streams) (List.forall_mem_nil _) (fun _ => pool) ?_
    (TaskState.fits_of_isIdle idleAfter _) advances ?_
  · simp only [perform, System.perform, pool, TaskState.isWithNext_of_isIdle idle,
      TaskState.isWithNext_of_isIdle idleAfter, List.countP_nil, Nat.add_zero]
  · intro member
    rcases kept.isInside found member with ⟨job, context, holds, task⟩
    rw [task] at idle
    cases idle

/-- A launched job has its token no longer to itself, and no turn of it changes the pool. -/
theorem turn_of_launched (kept : course.Watching lineage capacity watch feed stream)
    (allowed : course.AllowsTurn index) (found : course.system.tasks[index]? = some state)
    (unfinished : state.outcome = none) (member : index ∈ course.launched)
    (spared : (course.perform (.move (.turn index))).Spares lineage) :
    ∃ feed stream, (course.perform (.move (.turn index))).Watching lineage capacity watch feed
      stream := by
  rcases kept.isInside found member with ⟨job, context, holds, task⟩
  have answer := allowed.answer found unfinished task
  have admission : state.task.isAdmission = true := by rw [task]; rfl
  have inside : state.isWithNext 0 = true := by
    simp [TaskState.isWithNext, task, unfinished, Stage.isBeyond]
  rcases (kept.fits index state found).isSynced_of_isAdmission admission with ⟨synced, marked⟩
  have noStart (succeeds : (course.system.turn index).outcome? index = some (.handled (.ok ()))) :
      course.system.verdictOn job context = .succeeds false := by
    rw [(answer.of_ok succeeds).1]
    simp [member]
  rcases System.turn_of_inside found task unfinished (marked inside) answer.noPanic
    (answer.noFailure member) noStart with ⟨same, change, tasks, left, taskAfter⟩
  rcases turn_change found tasks with ⟨advances, unmarked, -⟩
  have pool := System.pool_congr same.limiters 0
  refine kept.goOn_of_modify found tasks rfl (.of_eq same.limiters)
    (kept.turn_spares allowed found unfinished) spared same.watches
    (kept.untold same.feeds same.streams) (List.forall_mem_nil _) (fun _ => pool) ?_ ?_ advances ?_
  · have contained : course.launched.contains index = true := by simpa using member
    simp only [perform, System.perform, pool, contained, Bool.not_true, Bool.and_false,
      List.countP_nil, Nat.add_zero]
  · rw [synced]
    refine TaskState.fits_of_isAdmission ?_ fun _ => ?_
    · rw [advances.isAdmission_eq, admission]
    · rw [unmarked, marked inside]
  · exact fun _ => ⟨job, context, left, taskAfter⟩

/-- What a job that is not launched accounts for before and after its turn. -/
theorem turn_tokens (kept : course.Watching lineage capacity watch feed stream)
    (found : course.system.tasks[index]? = some state) (unfinished : state.outcome = none)
    (task : state.task = .admission job context stage) (notLaunched : index ∉ course.launched) :
    course.system.turn index = course.system ∨
      ∃ change, (course.system.turn index).tasks = course.system.tasks.modify index change ∧
        ((course.system.turn index).pool 0).inUse + (state.isWithNext 0).toNat =
          (course.system.pool 0).inUse + (change state).tokens 0 := by
  have admission : state.task.isAdmission = true := by rw [task]; rfl
  have keeps : state.task.keepsToAdmission = true := by rw [task]; rfl
  have accounts : state.tokens 0 = (state.isWithNext 0).toNat := by
    refine TaskState.tokens_eq_isWithNext ?_ ?_ ?_ 0 <;> simp [unfinished]
  have synced := ((kept.fits index state found).isSynced_of_isAdmission admission).1
  have balanced := kept.balanced
  rw [synced] at balanced
  have claimed : ∀ place, place < course.system.limiters.length →
      state.tokens place ≤ (course.system.pool place).inUse := by
    intro place inside
    rw [kept.single] at inside
    have first : place = 0 := by omega
    have owned := toNat_le_unlaunched found notLaunched
    rw [first, accounts, balanced.inUse_eq]
    omega
  rcases System.JobStep.of_turn keeps found unfinished claimed with same | step
  · exact Or.inl same
  · rcases step.tasks with ⟨change, tasks, counted⟩
    have first := counted 0 (by simp [kept.single])
    rw [accounts] at first
    exact Or.inr ⟨change, tasks, first⟩

/-- After the turn of a job that is not launched everything is in order again if the claimed tokens
are balanced. -/
theorem goOn_of_job (kept : course.Watching lineage capacity watch feed stream)
    (allowed : course.AllowsTurn index) (found : course.system.tasks[index]? = some state)
    (unfinished : state.outcome = none) (task : state.task = .admission job context stage)
    (unmarked : state.isAborted = false) (notLaunched : index ∉ course.launched)
    (spared : (course.perform (.move (.turn index))).Spares lineage)
    {change : TaskState → TaskState}
    (tasks : (course.system.turn index).tasks = course.system.tasks.modify index change)
    (watches : (course.system.turn index).watches = course.system.watches)
    {changes : List FeedItem}
    (follows : (course.system.turn index).Follows watch later
      { stream with items := stream.items ++ changes })
    (noClaims : ∀ item ∈ changes, item.claims = false)
    (passed : ((course.system.turn index).pool 0).inUse + (state.isWithNext 0).toNat +
        MemoryFeed.unfinished feed.resources =
      (course.system.pool 0).inUse + ((change state).isWithNext 0).toNat +
        MemoryFeed.unfinished later.resources + changes.countP FeedItem.endsJob) :
    ∃ feed stream, (course.perform (.move (.turn index))).Watching lineage capacity watch feed
      stream := by
  have admission : state.task.isAdmission = true := by rw [task]; rfl
  have synced := ((kept.fits index state found).isSynced_of_isAdmission admission).1
  have contained : course.launched.contains index = false := by simpa using notLaunched
  rcases turn_change found tasks with ⟨advances, stillUnmarked, -⟩
  refine kept.goOn_of_modify found tasks rfl (System.turn_reaches course.system index)
    (kept.turn_spares allowed found unfinished) spared watches follows noClaims ?_ ?_ ?_ advances ?_
  · intro notSynced
    rw [synced] at notSynced
    cases notSynced
  · simp only [perform, System.perform, contained, Bool.not_false, Bool.and_true]
    exact passed
  · rw [synced]
    refine TaskState.fits_of_isAdmission ?_ fun _ => ?_
    · rw [advances.isAdmission_eq, admission]
    · rw [stillUnmarked, unmarked]
  · intro member
    exact absurd member notLaunched

/-- A job that is not launched has a turn: it takes its token, gives it back, keeps it, or leaves it
to the resource that is put into the feed. -/
theorem turn_of_job (kept : course.Watching lineage capacity watch feed stream)
    (allowed : course.AllowsTurn index) (found : course.system.tasks[index]? = some state)
    (unfinished : state.outcome = none) (task : state.task = .admission job context stage)
    (unmarked : state.isAborted = false) (notLaunched : index ∉ course.launched)
    (spared : (course.perform (.move (.turn index))).Spares lineage) :
    ∃ feed stream, (course.perform (.move (.turn index))).Watching lineage capacity watch feed
      stream := by
  have answer := allowed.answer found unfinished task
  rcases kept.turn_tokens found unfinished task notLaunched with same | ⟨change, tasks, counted⟩
  · rw [perform_of_same course (.turn index) same]
    exact ⟨feed, stream, kept⟩
  · rcases turn_change found tasks with ⟨-, -, ended⟩
    rcases System.JobTurn.of_turn found task unfinished unmarked with
      ⟨watches, feeds, streams, noDrop, unstarted⟩ |
      ⟨watches, feedsBefore, streamsBefore, cancellation, feeds, streams, outcome, starts⟩
    · have noSuccess : (course.system.turn index).outcome? index ≠ some (.handled (.ok ())) := by
        intro succeeds
        have verdict := (answer.of_ok succeeds).1
        rw [unstarted succeeds] at verdict
        simp [notLaunched] at verdict
      have noPanic := answer.noPanic
      rw [ended] at noSuccess noDrop noPanic
      rw [TaskState.tokens_eq_isWithNext noSuccess noDrop noPanic] at counted
      apply kept.goOn_of_job allowed found unfinished task unmarked notLaunched spared tasks watches
        (kept.untold feeds streams) (List.forall_mem_nil _)
      rw [List.countP_nil]
      omega
    · rename_i before
      have follows := kept.follows.congr feedsBefore streamsBefore
      have absent : course.system.cluster.get? (JobResource.running job.uuid job.uuid).uid = none :=
        (answer.of_ok outcome).2 notLaunched
      have running : (JobResource.running job.uuid job.uuid).isFinished = false := rfl
      rw [kept.follows.cluster_eq] at absent
      have uncancelled : before.isCancelled watch.context = false := by
        rw [System.isCancelled, cancellation]
        exact kept.uncancelled
      rcases follows.applyResource_absent uncancelled absent running with
        ⟨later, followsOn, added⟩
      rw [ended] at outcome
      rw [TaskState.tokens_of_succeeded outcome] at counted
      refine kept.goOn_of_job allowed found unfinished task unmarked notLaunched spared tasks
        watches (followsOn.congr feeds streams) ?_ ?_
      · intro item member
        rw [List.mem_singleton.mp member]
        rfl
      · rw [TaskState.isWithNext_of_outcome outcome, FeedItem.countP_endsJob_singleton, added]
        simp only [Bool.toNat_false, FeedItem.endsJob]
        omega

/-- The registration looks whether the mark was met. -/
theorem turn_of_registration (kept : course.Watching lineage capacity watch feed stream)
    (allowed : course.AllowsTurn index) (found : course.system.tasks[index]? = some state)
    (unfinished : state.outcome = none) {name : String} {watching : Option (Nat × Option Nat)}
    (task : state.task = .registration name context watching)
    (spared : (course.perform (.move (.turn index))).Spares lineage) :
    ∃ feed stream, (course.perform (.move (.turn index))).Watching lineage capacity watch feed
      stream := by
  have spares := kept.turn_spares allowed found unfinished
  have fits := kept.fits index state found
  have rule := allowed state found unfinished
  simp only [TaskState.Fits, task] at fits
  rw [task] at rule
  rcases fits with ⟨⟨deadline, rfl⟩, unmarked, -⟩
  have step : course.system.turn index =
      course.system.settleRegistration index context 0 deadline := by
    simp [System.turn, found, unfinished, unmarked, task]
  have first : course.system.watches[0]? = some watch := by simp [kept.watches]
  have succeeds := rule.2
  rw [step] at succeeds
  rcases System.settleRegistration_cases found first succeeds with same | ⟨synced, same, tasks⟩
  · rw [perform_of_same course (.turn index) (step.trans same)]
    exact ⟨feed, stream, kept⟩
  · rw [← step] at same tasks
    have noJob (outcome : Option Outcome) :
        TaskState.isWithNext 0 { state with outcome } = false := by
      simp [TaskState.isWithNext, task]
    have pool := System.pool_congr same.limiters 0
    refine kept.goOn_of_modify found tasks rfl (.of_eq same.limiters) spares spared same.watches
      (kept.untold same.feeds same.streams) (List.forall_mem_nil _) (fun _ => pool) ?_ ?_
      (.same _) ?_
    · have before : state.isWithNext 0 = false := noJob state.outcome
      simp only [perform, System.perform, pool, before, noJob, List.countP_nil, Nat.add_zero]
    · simp only [TaskState.Fits, task]
      exact ⟨⟨deadline, rfl⟩, unmarked, fun _ => synced⟩
    · intro member
      rcases kept.isInside found member with ⟨job, jobContext, holds, isJob⟩
      rw [task] at isJob
      cases isJob

/-- The listener reads some items, and the balance is kept. -/
theorem turn_of_listening (kept : course.Watching lineage capacity watch feed stream)
    (allowed : course.AllowsTurn index) (found : course.system.tasks[index]? = some state)
    (unfinished : state.outcome = none) {place : Nat} (task : state.task = .listening place)
    (spared : (course.perform (.move (.turn index))).Spares lineage) :
    ∃ watch feed stream, (course.perform (.move (.turn index))).Watching lineage capacity watch feed
      stream := by
  have spares := kept.turn_spares allowed found unfinished
  have fits := kept.fits index state found
  simp only [TaskState.Fits, task] at fits
  rcases fits with ⟨rfl, unmarked, -⟩
  have step : course.system.turn index = course.system.listen index 0 := by
    simp [System.turn, found, unfinished, unmarked, task]
  rcases System.listen_follows kept.follows kept.watches kept.uncancelled index with
    ⟨limiters, tasks, watches, follows⟩
  rw [← step] at limiters tasks watches follows
  have inside : 0 < course.system.limiters.length := by simp [kept.single]
  have pool : (course.system.turn index).pool 0 = (course.system.heard watch stream).1 := by
    rw [System.pool_congr limiters 0, System.pool_setPool inside, if_pos rfl]
  have reaches := System.turn_reaches course.system index
  have unlaunched : (course.perform (.move (.turn index))).unlaunched = course.unlaunched :=
    unlaunched_of_eq tasks rfl
  have balanced := kept.balanced
  rw [← List.take_append_drop turnLimit stream.items] at balanced
  have after := balanced.takeAll 0 0 watch.feed
  refine ⟨{ watch with isSynced := (course.system.heard watch stream).2.1 }, feed, _, ?_, ?_,
    watches, ?_, follows, ?_, ?_, ?_, ?_⟩
  · simp only [perform, System.perform]
    rw [reaches.length, kept.single]
  · simp only [perform, System.perform]
    rw [(reaches.pool inside).capacity, kept.capacity]
  · exact Cancellation.Reaches.shelters spares kept.sheltered spared
  · rw [unlaunched]
    simp only [perform, System.perform, pool]
    exact after
  · intro other present foundAfter
    simp only [perform, System.perform, tasks] at foundAfter
    have fitsToo := kept.fits other present foundAfter
    exact fitsToo.mono (System.heard_isSynced course.system watch stream)
  · simp only [perform, System.perform, tasks]
    exact kept.launched
  · simp only [perform, System.perform, tasks]
    exact kept.begun

/-- Whatever task has a turn, the watch goes on following the feed. -/
theorem perform_turn (kept : course.Watching lineage capacity watch feed stream)
    (allowed : course.AllowsTurn index)
    (spared : (course.perform (.move (.turn index))).Spares lineage) :
    ∃ watch feed stream, (course.perform (.move (.turn index))).Watching lineage capacity watch feed
      stream := by
  rcases System.turn_cases course.system index with same | ⟨state, found, unfinished⟩
  · rw [perform_of_same course (.turn index) same]
    exact ⟨watch, feed, stream, kept⟩
  · cases task : state.task with
    | timer signal delay deadline =>
        exact ⟨watch, kept.turn_of_idle allowed found unfinished (by rw [task]; rfl) spared⟩
    | awaitCancellation context =>
        exact ⟨watch, kept.turn_of_idle allowed found unfinished (by rw [task]; rfl) spared⟩
    | awaitStaleness signal =>
        exact ⟨watch, kept.turn_of_idle allowed found unfinished (by rw [task]; rfl) spared⟩
    | acquisition context signal =>
        have fits := kept.fits index state found
        simp only [TaskState.Fits, task] at fits
    | registration name context watching =>
        exact ⟨watch, kept.turn_of_registration allowed found unfinished task spared⟩
    | listening place => exact kept.turn_of_listening allowed found unfinished task spared
    | admission job context stage =>
        by_cases launched : index ∈ course.launched
        · exact ⟨watch, kept.turn_of_launched allowed found unfinished launched spared⟩
        · cases marked : state.isAborted with
          | false =>
              exact ⟨watch, kept.turn_of_job allowed found unfinished task marked launched spared⟩
          | true =>
              -- a job that is with the last handler is not marked
              have admission : state.task.isAdmission = true := by rw [task]; rfl
              have fits := (kept.fits index state found).isSynced_of_isAdmission admission
              have outside : state.isWithNext 0 = false := by
                rw [← Bool.not_eq_true]
                intro inside
                rw [fits.2 inside] at marked
                cases marked
              refine ⟨watch, kept.goOn_of_dropTask found (by rw [task]; rfl) outside ?_ rfl spared⟩
              exact System.turn_of_isAborted found unfinished marked

/-- Every allowed step keeps the watch following the feed. -/
theorem perform_watching (kept : course.Watching lineage capacity watch feed stream) {act : Act}
    (allowed : course.Allows lineage act) (spared : (course.perform act).Spares lineage) :
    ∃ watch feed stream, (course.perform act).Watching lineage capacity watch feed stream := by
  cases act with
  | launch index resource => exact ⟨watch, kept.perform_launch allowed spared⟩
  | move move =>
      cases move with
      | turn index => exact kept.perform_turn allowed spared
      | drop index => exact ⟨watch, kept.perform_drop allowed spared⟩
      | abort index => exact ⟨watch, kept.perform_abort allowed spared⟩
      | start task => exact ⟨watch, kept.perform_start allowed spared⟩
      | elsewhere happening => exact ⟨watch, kept.perform_elsewhere allowed spared⟩
      | tryAcquire place => cases allowed
      | tryRelease place => cases allowed
      | reconcile change => cases allowed

end Watching

end Course

end Admission
