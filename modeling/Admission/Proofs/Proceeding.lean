import Admission.Proofs.Tasks

/-!
# What a task does to watches and contexts

Whatever a task does in its turn, it does to the tasks, the feeds with their streams, the watches
and the contexts only a few things, one after the other: it ends or goes on, has a resource put into
a feed, cancels a context, attends to the watch that it listens to, or begins a watch. `Proceeds`
says so once for all turns; what each of these things preserves is then preserved by every turn. The
first use is that a turn concerns no other task.
-/

namespace Admission

theorem Registration.isSynced_of_verdict {watch : Watch} {cause : Option String}
    {limit : Option Duration} {isOver : Bool}
    (succeeds : verdict watch cause limit isOver = some (.ok ())) : watch.isSynced = true := by
  simp only [verdict] at succeeds
  split at succeeds
  · cases succeeds
  · split at succeeds
    · assumption
    · split at succeeds
      · cases succeeds
      · split at succeeds
        · split at succeeds <;> cases succeeds
        · cases succeeds

/-- A watch is synced once the listener has met the mark. -/
theorem Watch.takeAll_isSynced (place index : Nat) (feed : String) (pool : Pool) (isSynced : Bool)
    (items : List FeedItem) :
    (takeAll place index feed pool isSynced items).2.1 =
      (isSynced || decide (.synced ∈ items)) := by
  induction items generalizing pool isSynced with
  | nil => simp [takeAll]
  | cons item rest ih =>
      simp only [takeAll, ih]
      cases item with
      | event change => simp [take]
      | synced => cases isSynced <;> simp [take]

namespace System

/-- The tasks, the watches, the feeds with their streams and the contexts are the same. -/
structure SameWork (system next : System) : Prop where
  tasks : next.tasks = system.tasks
  watches : next.watches = system.watches
  feeds : next.feeds = system.feeds
  streams : next.streams = system.streams
  cancellation : next.cancellation = system.cancellation

/-- A watch and its listener are there, and the registration waits for them. -/
def withListener (system : System) (index : Nat) (feed : String) (context : Context)
    (watch : Watch) (deadline : Option Nat) : System :=
  ((({ system with watches := system.watches.push watch }.holdContext watch.context).setTask index
    (.registration feed context (some (system.watches.size, deadline)))).spawn
      (.listening system.watches.size)).1

/-- What a task does, one thing after the other. -/
inductive Proceeds (index : Nat) (system : System) : System → Prop where
  | unchanged : Proceeds index system system
  /-- Something else changes. -/
  | same {used next : System} (before : Proceeds index system used) (same : used.SameWork next) :
      Proceeds index system next
  /-- A registration succeeds only if its watch is synced. -/
  | finish {used : System} {state : TaskState} (before : Proceeds index system used)
      (found : used.tasks[index]? = some state) (unfinished : state.outcome = none)
      (outcome : Outcome)
      (answers : outcome = .registered (.ok ()) → ∀ feed context watch deadline,
        state.task = .registration feed context (some (watch, deadline)) →
        ∃ watched, used.watches[watch]? = some watched ∧ watched.isSynced = true) :
      Proceeds index system (used.finish index outcome)
  /-- A timer or a job goes on. -/
  | goOn {used : System} {state : TaskState} (before : Proceeds index system used)
      (found : used.tasks[index]? = some state) (unfinished : state.outcome = none) {task : Task}
      (advances : state.task.Advances task) (unregistered : state.task.isRegistration = false) :
      Proceeds index system (used.setTask index task)
  | applyResource {used : System} (before : Proceeds index system used) (name : String)
      (resource : JobResource) : Proceeds index system (used.applyResource name resource)
  | cancel {used : System} (before : Proceeds index system used) (context : Context)
      (cause : Option String) : Proceeds index system (used.cancel context cause)
  /-- A listener changes its watch and the stream of the watch. -/
  | attend {used next : System} {state : TaskState} {watch : Nat} {watched : Watch}
      (before : Proceeds index system used) (found : used.tasks[index]? = some state)
      (unfinished : state.outcome = none) (task : state.task = .listening watch)
      (present : used.watches[watch]? = some watched) (update : Watch → Watch)
      (kept : (update watched).feed = watched.feed ∧ (update watched).context = watched.context ∧
        (update watched).stream = watched.stream)
      (synced : watched.isSynced = true → (update watched).isSynced = true)
      (change : Stream → Stream) (tasks : next.tasks = used.tasks) (feeds : next.feeds = used.feeds)
      (cancellation : next.cancellation = used.cancellation)
      (streams : next.streams = used.streams.modify watched.stream change)
      (watches : next.watches = used.watches.modify watch update) :
      Proceeds index system next
  /-- A feed refuses to be watched. -/
  | refuse {used after : System} {state : TaskState} {feed : String} {context : Context}
      {error : SyncError} (before : Proceeds index system used)
      (found : used.tasks[index]? = some state) (unfinished : state.outcome = none)
      (task : state.task = .registration feed context none)
      (watching : { used with cancellation := (used.cancellation.child context).1 }.watchFeed feed
        (used.cancellation.child context).2 = (after, .error error)) :
      Proceeds index system (after.dropContext (used.cancellation.child context).2)
  /-- A registration begins its watch. -/
  | begin {used after : System} {state : TaskState} {feed name : String} {context : Context}
      {stream : Nat} (before : Proceeds index system used)
      (found : used.tasks[index]? = some state) (unfinished : state.outcome = none)
      (task : state.task = .registration feed context none)
      (watching : { used with cancellation := (used.cancellation.child context).1 }.watchFeed feed
        (used.cancellation.child context).2 = (after, .ok (name, stream)))
      (deadline : Option Nat) :
      Proceeds index system (after.withListener index feed context
        ⟨name, (used.cancellation.child context).2, stream, false, false⟩ deadline)

section Turns

variable {system used next : System} {index : Nat} {state : TaskState}

theorem SameWork.trans {last : System} (first : system.SameWork next)
    (second : next.SameWork last) : system.SameWork last where
  tasks := second.tasks.trans first.tasks
  watches := second.watches.trans first.watches
  feeds := second.feeds.trans first.feeds
  streams := second.streams.trans first.streams
  cancellation := second.cancellation.trans first.cancellation

theorem note_sameWork (system : System) (notice : Notice) :
    system.SameWork (system.note notice) := by
  constructor <;> simp

theorem noteAll_sameWork (system : System) (notices : List Notice) :
    system.SameWork (system.noteAll notices) := by
  constructor <;> simp

theorem passOn_sameWork (system : System) (limiters : List Limiter) (notices : List Notice) :
    system.SameWork ({ system with limiters }.noteAll notices) := by
  constructor <;> simp

theorem fire_sameWork (system : System) (signal : Nat) : system.SameWork (system.fire signal) := by
  constructor <;> simp

theorem setPool_sameWork (system : System) (place : Nat) (pool : Pool) :
    system.SameWork (system.setPool place pool) :=
  ⟨rfl, rfl, rfl, rfl, rfl⟩

/-- A task ends that is no registration with success. -/
theorem Proceeds.finish_other (before : Proceeds index system used)
    (found : used.tasks[index]? = some state) (unfinished : state.outcome = none)
    {outcome : Outcome} (other : outcome ≠ .registered (.ok ())) :
    Proceeds index system (used.finish index outcome) :=
  before.finish found unfinished outcome fun answers => absurd answers other

/-- A task that is dropped gives up its place in a queue, and ends. -/
theorem dropTask_eq (system : System) (index : Nat) (task : Task) :
    ∃ left, system.SameWork left ∧ system.dropTask index task = left.finish index .aborted := by
  have unchanged : system.SameWork system := ⟨rfl, rfl, rfl, rfl, rfl⟩
  cases task with
  | acquisition context signal =>
      exact ⟨_, (setPool_sameWork system 0 _).trans (noteAll_sameWork _ _), rfl⟩
  | admission job context stage =>
      cases stage with
      | waiting place since => exact ⟨_, passOn_sameWork system _ _, rfl⟩
      | _ => exact ⟨system, unchanged, rfl⟩
  | _ => exact ⟨system, unchanged, rfl⟩

theorem Proceeds.dropTask (before : Proceeds index system used)
    (found : used.tasks[index]? = some state) (unfinished : state.outcome = none) (task : Task) :
    Proceeds index system (used.dropTask index task) := by
  rcases used.dropTask_eq index task with ⟨left, same, dropped⟩
  rw [dropped]
  exact (before.same same).finish_other (by rw [same.tasks, found]) unfinished (by simp)

theorem Proceeds.concludeJob (before : Proceeds index system used)
    (found : used.tasks[index]? = some state) (unfinished : state.outcome = none) (job : Job)
    (result : Except HandlerError Unit) :
    Proceeds index system (used.concludeJob index job result) := by
  have noted := passOn_sameWork used (Chain.conclude 0 job.uuid result used.limiters).1
    (Chain.conclude 0 job.uuid result used.limiters).2
  exact (before.same noted).finish_other (by rw [noted.tasks, found]) unfinished (by simp)

theorem Proceeds.handleInside (before : Proceeds index system used)
    (found : used.tasks[index]? = some state) (unfinished : state.outcome = none) {job : Job}
    {context : Context} {stage : Stage} (task : state.task = .admission job context stage)
    (holds : List Hold) : Proceeds index system (used.handleInside index job context holds) := by
  simp only [System.handleInside]
  split
  · split
    · exact before.finish_other found unfinished (by simp)
    · exact before.concludeJob found unfinished job _
    · split
      · exact (before.applyResource _ _).concludeJob (by simpa using found) unfinished job _
      · exact before.concludeJob found unfinished job _
  · refine before.goOn found unfinished ?_ ?_
    · rw [task]
      exact .admission _ _ _ _
    · rw [task]
      rfl

theorem Proceeds.admitJob (before : Proceeds index system used)
    (found : used.tasks[index]? = some state) (unfinished : state.outcome = none) {job : Job}
    {context : Context} {stage : Stage} (task : state.task = .admission job context stage)
    (place since : Nat) :
    Proceeds index system (used.admitJob index job context place since) := by
  simp only [System.admitJob]
  generalize Chain.advance 0 place _ used.limiters = advanced
  have noted := passOn_sameWork used advanced.1 advanced.2.2
  have present := found
  rw [← noted.tasks] at present
  split
  · refine (before.same noted).goOn present unfinished ?_ ?_
    · rw [task]
      exact .admission _ _ _ _
    · rw [task]
      rfl
  · exact (before.same noted).finish_other present unfinished (by simp)
  · refine ((before.same noted).same (note_sameWork _ _)).handleInside ?_ unfinished task _
    simpa using found

theorem Proceeds.runTimer (before : Proceeds index system used)
    (found : used.tasks[index]? = some state) (unfinished : state.outcome = none)
    {signal delay : Nat} {deadline : Option Nat}
    (task : state.task = .timer signal delay deadline) :
    Proceeds index system (used.runTimer index signal delay deadline) := by
  simp only [System.runTimer]
  split
  · exact before.finish_other found unfinished (by simp)
  · split
    · have fired := fire_sameWork used signal
      exact (before.same fired).finish_other (by rw [fired.tasks, found]) unfinished (by simp)
    · refine before.goOn found unfinished ?_ ?_
      · rw [task]
        exact .timer _ _ _ _
      · rw [task]
        rfl

theorem Proceeds.acquire (before : Proceeds index system used)
    (found : used.tasks[index]? = some state) (unfinished : state.outcome = none)
    (context : Context) (signal : Nat) :
    Proceeds index system (used.acquire index context signal) := by
  simp only [System.acquire]
  generalize (used.pool 0).turn index _ _ = answer
  have noted := (setPool_sameWork used 0 answer.2.1).trans
    (noteAll_sameWork _ (Notice.wokenOf answer.2.2))
  have present := found
  rw [← noted.tasks] at present
  split
  · exact before.same noted
  all_goals exact (before.same noted).finish_other present unfinished (by simp)

/-! ### Watches -/

theorem Proceeds.settleRegistration (before : Proceeds index system used)
    (found : used.tasks[index]? = some state) (unfinished : state.outcome = none) {feed : String}
    {context : Context} {watch : Nat} {deadline : Option Nat}
    (task : state.task = .registration feed context (some (watch, deadline))) :
    Proceeds index system (used.settleRegistration index context watch deadline) := by
  simp only [System.settleRegistration]
  split
  · exact before
  · rename_i watched present
    split
    · exact before
    · rename_i verdict
      have noted := note_sameWork used
        (Registration.syncedNotice watched.feed (used.pool 0).available)
      refine (before.same noted).finish (by rw [noted.tasks, found]) unfinished _ ?_
      intro _ otherFeed otherContext otherWatch otherDeadline same
      rw [task] at same
      cases same
      exact ⟨watched, by rw [noted.watches, present], Registration.isSynced_of_verdict verdict⟩
    · rename_i error _
      have noted := note_sameWork (used.cancel watched.context none)
        (Registration.failedNotice watched.feed error)
      refine ((before.cancel watched.context none).same noted).finish_other ?_ unfinished (by simp)
      simpa using found

theorem withListener_tasks (system : System) (index : Nat) (feed : String) (context : Context)
    (watch : Watch) (deadline : Option Nat) :
    (system.withListener index feed context watch deadline).tasks =
      (system.tasks.modify index fun state => { state with
        task := .registration feed context (some (system.watches.size, deadline)) }).push
          { task := .listening system.watches.size } := by
  simp [withListener]

@[simp]
theorem withListener_frame (system : System) (index : Nat) (feed : String) (context : Context)
    (watch : Watch) (deadline : Option Nat) :
    (system.withListener index feed context watch deadline).watches = system.watches.push watch ∧
      (system.withListener index feed context watch deadline).streams = system.streams ∧
      (system.withListener index feed context watch deadline).cancellation =
        system.cancellation.clone watch.context := by
  simp [withListener, holdContext]

theorem withListener_registration (found : system.tasks[index]? = some state) (feed : String)
    (context : Context) (watch : Watch) (deadline : Option Nat) :
    (system.withListener index feed context watch deadline).tasks[index]? =
      some { state with
        task := .registration feed context (some (system.watches.size, deadline)) } := by
  have inside := (Array.getElem?_eq_some_iff.mp found).1
  rw [withListener_tasks, Array.getElem?_push, Array.size_modify, if_neg (Nat.ne_of_lt inside)]
  simp [Array.getElem?_modify, found]

/-- Watching a feed in a context that is made for that. -/
theorem watchChild_frame {after : System} {feed : String} {context : Context}
    {result : Except SyncError (String × Nat)}
    (watching : { system with cancellation := (system.cancellation.child context).1 }.watchFeed feed
      (system.cancellation.child context).2 = (after, result)) :
    after.tasks = system.tasks ∧ after.watches = system.watches := by
  have kept := watchFeed_frame
    { system with cancellation := (system.cancellation.child context).1 } feed
    (system.cancellation.child context).2
  rw [watching] at kept
  exact ⟨kept.2.1, kept.2.2.1⟩

theorem Proceeds.startRegistration (before : Proceeds index system used)
    (found : used.tasks[index]? = some state) (unfinished : state.outcome = none) {feed : String}
    {context : Context} (task : state.task = .registration feed context none) :
    Proceeds index system (used.startRegistration index feed context) := by
  simp only [System.startRegistration]
  split
  · rename_i after error watching
    refine (before.refuse found unfinished task watching).finish_other ?_ unfinished (by simp)
    rw [(dropContext_frame _ _).2.1, (watchChild_frame watching).1, found]
  · rename_i after name stream watching
    have present : after.tasks[index]? = some state := by rw [(watchChild_frame watching).1, found]
    let watch : Watch := ⟨name, (used.cancellation.child context).2, stream, false, false⟩
    exact (before.begin found unfinished task watching _).settleRegistration
      (withListener_registration present feed context watch _) unfinished rfl

theorem Proceeds.endListening (before : Proceeds index system used) (watched : Watch)
    (found : used.tasks[index]? = some state) (unfinished : state.outcome = none) {watch : Nat}
    (task : state.task = .listening watch)
    (present : used.watches[watch]? = some watched) :
    Proceeds index system (used.endListening index watch watched) := by
  have noted := note_sameWork used (Watch.endedNotice watched.feed)
  have left : Proceeds index system
      { used.note (Watch.endedNotice watched.feed) with
        watches := used.watches.modify watch fun watch => { watch with hasEnded := true }
        streams := used.streams.modify watched.stream Stream.endReading } :=
    .attend (before.same noted) (by rw [noted.tasks, found]) unfinished task
      (by rw [noted.watches, present]) (fun watch => { watch with hasEnded := true })
      ⟨rfl, rfl, rfl⟩ id Stream.endReading rfl rfl rfl (by rw [noted.streams])
      (by rw [noted.watches])
  have told := left.same (note_sameWork _ (.told (.barrier watch)))
  simp only [System.endListening, noted.watches, noted.streams]
  exact told.finish_other (by simpa using found) unfinished (by simp)

theorem Proceeds.listen (before : Proceeds index system used)
    (found : used.tasks[index]? = some state) (unfinished : state.outcome = none) {watch : Nat}
    (task : state.task = .listening watch) :
    Proceeds index system (used.listen index watch) := by
  simp only [System.listen]
  split
  · exact before
  · rename_i watched present
    split
    · exact before.endListening watched found unfinished task present
    · rename_i uncancelled
      have synced := Watch.takeAll_isSynced 0 watch watched.feed (used.pool 0) watched.isSynced
        (((used.streams[watched.stream]?).getD {}).take turnLimit).2
      generalize Watch.takeAll 0 watch watched.feed (used.pool 0) watched.isSynced
        (((used.streams[watched.stream]?).getD {}).take turnLimit).2 = heard at synced ⊢
      have attended : Proceeds index system
          ({ used.setPool 0 heard.1 with
              streams := used.streams.modify watched.stream fun stream => (stream.take turnLimit).1
              watches := used.watches.modify watch fun watch =>
                { watch with isSynced := heard.2.1 } }.noteAll heard.2.2) := by
        refine .attend before found unfinished task present
          (fun watch => { watch with isSynced := heard.2.1 }) ⟨rfl, rfl, rfl⟩ ?_
          (fun stream => (stream.take turnLimit).1) (by simp) (by simp) (by simp) (by simp)
          (by simp)
        intro before
        simp [synced, before]
      split
      · exact attended.same (note_sameWork _ _)
      · split
        · exact attended
        · refine attended.endListening { watched with isSynced := heard.2.1 }
            (by simpa using found) unfinished task ?_
          simp [Array.getElem?_modify, present]

/-- Whatever a task does in a turn, it does one thing after the other. -/
theorem turn_proceeds (system : System) (index : Nat) :
    Proceeds index system (system.turn index) := by
  have start : Proceeds index system system := .unchanged
  rcases turn_cases system index with same | ⟨state, found, unfinished⟩
  · rw [same]
    exact start
  · by_cases marked : state.isAborted = true
    · rw [turn_of_isAborted found unfinished marked]
      exact start.dropTask found unfinished state.task
    · simp only [turn, found, unfinished, marked, Option.isSome_none, Bool.false_eq_true, if_false]
      cases task : state.task with
      | timer signal delay deadline => exact start.runTimer found unfinished task
      | awaitCancellation context =>
          simp only
          split
          · exact start.finish_other found unfinished (by simp)
          · exact start
      | awaitStaleness signal =>
          simp only
          split
          · exact start.finish_other found unfinished (by simp)
          · exact start
      | acquisition context signal => exact start.acquire found unfinished context signal
      | admission job context stage =>
          cases stage with
          | arriving => exact start.admitJob found unfinished task 0 system.now
          | waiting place since => exact start.admitJob found unfinished task place since
          | inside holds => exact start.handleInside found unfinished task holds
      | registration feed context watch =>
          cases watch with
          | none => exact start.startRegistration found unfinished task
          | some watch => exact start.settleRegistration found unfinished task
      | listening watch => exact start.listen found unfinished task

theorem dropNow_proceeds (system : System) (index : Nat) :
    Proceeds index system (system.dropNow index) := by
  rcases dropNow_cases system index with same | ⟨state, found, unfinished, dropped⟩
  · rw [same]
    exact .unchanged
  · rw [dropped]
    exact Proceeds.dropTask .unchanged found unfinished state.task

/-! ### Tasks advance -/

/-- Whatever a task does concerns no other task. -/
theorem Proceeds.advances (proceeds : Proceeds index system next) :
    TasksAdvance index system.tasks next.tasks := by
  induction proceeds with
  | unchanged => exact .refl index _
  | same _ same before =>
      rw [same.tasks]
      exact before
  | finish _ _ _ outcome _ before => exact before.trans (finish_advances rfl index outcome)
  | goOn _ found _ advances _ before =>
      refine before.trans (setTask_advances rfl fun state present => ?_)
      rw [found, Option.some.injEq] at present
      rw [← present]
      exact advances
  | applyResource _ name resource before => exact before.trans (tasksAdvance_of_eq index (by simp))
  | cancel _ context cause before => exact before.trans (tasksAdvance_of_eq index (by simp))
  | attend _ _ _ _ _ _ _ _ _ tasks _ _ _ _ before =>
      exact before.trans (tasksAdvance_of_eq index tasks)
  | refuse _ _ _ _ watching before =>
      exact before.trans (tasksAdvance_of_eq index ((watchChild_frame watching).1))
  | @begin used after state feed name context stream _ found unfinished task watching deadline
      before =>
      have registered : (used.tasks.modify index fun state => { state with
          task := .registration feed context (some (after.watches.size, deadline)) })[index]? =
            some { state with
              task := .registration feed context (some (after.watches.size, deadline)) } := by
        simp [Array.getElem?_modify, found]
      have modified : TasksAdvance index used.tasks
          (used.tasks.modify index fun state => { state with
            task := .registration feed context (some (after.watches.size, deadline)) }) := by
        refine .of_modify (fun other present => ?_) fun _ => rfl
        rw [found, Option.some.injEq] at present
        rw [← present, task]
        exact .registration _ _ _ _
      rw [withListener_tasks, (watchChild_frame watching).1]
      exact before.trans (modified.trans (.of_push registered rfl))

/-- A turn of a task concerns no other task. -/
theorem turn_advances (system : System) (index : Nat) :
    TasksAdvance index system.tasks (system.turn index).tasks :=
  (turn_proceeds system index).advances

end Turns

/-- Tasks remain of one kind if only such tasks are started. -/
theorem perform_allTasks {kind : Task → Bool}
    (stable : ∀ {task later : Task}, task.Advances later → kind later = kind task)
    (unregistered : ∀ task, kind task = true → task.isRegistration = false)
    {system : System} {move : Move} (started : ∀ task, move = .start task → kind task = true)
    (all : system.AllTasks kind) : (system.perform move).AllTasks kind := by
  have unchanged {next : System} (tasks : next.tasks = system.tasks) : next.AllTasks kind := by
    intro index state found
    exact all index state (by rw [← tasks, found])
  cases move with
  | turn index => exact (turn_advances system index).all stable unregistered all
  | drop index => exact (dropNow_proceeds system index).advances.all stable unregistered all
  | abort index =>
      rcases abort_cases system index with same | ⟨marked, -, -, tasks⟩
      · exact unchanged (congrArg System.tasks same)
      · intro other state found
        simp only [perform, tasks, Array.getElem?_modify] at found
        split at found
        · rcases Option.map_eq_some_iff.mp found with ⟨before, foundBefore, rfl⟩
          exact all other before foundBefore
        · exact all other state found
  | start task =>
      intro index state found
      simp only [perform, spawn_frame, Array.getElem?_push] at found
      split at found
      · cases found
        exact started task rfl
      · exact all index state found
  | tryAcquire place => exact unchanged (by simp [perform, tryAcquire])
  | tryRelease place => exact unchanged (by simp [perform, tryRelease])
  | reconcile change => exact unchanged (by simp [perform, reconcile])
  | elsewhere happening => exact unchanged (by simp [perform])

end System

end Admission
