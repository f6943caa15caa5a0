import Admission.Proofs.Custody
import Admission.Proofs.Mirror
import Admission.Proofs.Notes

/-!
# What a listener reads

A watch keeps its context and its stream, and what is cancelled stays cancelled. As long as the
listener of a watch has no turn, the watch stays as it is and its stream only grows. In a turn of
its own the listener takes the oldest items out of the stream and applies them one after the other,
or it ends because the context of the watch is cancelled or the stream has ended.
-/

namespace Admission

theorem Task.Advances.eq_listening {task : Task} {watch : Nat}
    (advances : task.Advances (.listening watch)) : task = .listening watch := by
  cases advances
  rfl

theorem Task.Advances.listening_eq {task : Task} {watch : Nat}
    (advances : Task.Advances (.listening watch) task) : task = .listening watch := by
  cases advances
  rfl

namespace System

/-! ### Streams grow -/

/-- The unread items of every stream stay, and others may follow them. -/
structure StreamsGrow (system next : System) : Prop where
  size : system.streams.size ≤ next.streams.size
  unread : ∀ stream, system.unread stream <+: next.unread stream

namespace StreamsGrow

variable {system next last : System}

theorem of_eq (streams : next.streams = system.streams) : system.StreamsGrow next where
  size := Nat.le_of_eq (congrArg Array.size streams.symm)
  unread := by
    intro stream
    simp only [System.unread, streams]
    exact List.prefix_refl _

theorem trans (first : system.StreamsGrow next) (second : next.StreamsGrow last) :
    system.StreamsGrow last where
  size := Nat.le_trans first.size second.size
  unread := fun stream => (first.unread stream).trans (second.unread stream)

theorem of_modify (place : Nat) (change : Stream → Stream)
    (grows : ∀ stream, stream.items <+: (change stream).items)
    (streams : next.streams = system.streams.modify place change) : system.StreamsGrow next where
  size := by simp [streams]
  unread := by
    intro stream
    simp only [System.unread, streams, Array.getElem?_modify]
    split
    · cases system.streams[stream]? with
      | none => exact List.prefix_refl _
      | some found => exact grows found
    · exact List.prefix_refl _

theorem of_push (stream : Stream) (streams : next.streams = system.streams.push stream) :
    system.StreamsGrow next where
  size := by simp [streams]
  unread := by
    intro other
    simp only [System.unread, streams, Array.getElem?_push]
    split
    · rename_i last
      rw [last, Array.getElem?_eq_none (Nat.le_refl _)]
      exact List.nil_prefix
    · exact List.prefix_refl _

theorem tellStream (grow : system.StreamsGrow next) (stream : Nat) (change : Stream → Stream)
    (grows : ∀ stream, stream.items <+: (change stream).items) :
    system.StreamsGrow (next.tellStream stream change) :=
  grow.trans (.of_modify stream change grows (by simp))

theorem write (grow : system.StreamsGrow next) (stream : Nat) (item : FeedItem) :
    system.StreamsGrow (next.tellStream stream (·.write item)) :=
  grow.tellStream stream _ fun stream => List.prefix_append stream.items [item]

theorem endWriting (grow : system.StreamsGrow next) (stream : Nat) :
    system.StreamsGrow (next.tellStream stream Stream.endWriting) :=
  grow.tellStream stream _ fun stream => List.prefix_refl stream.items

theorem deliver (grow : system.StreamsGrow next) (broadcast : Broadcast) :
    system.StreamsGrow (next.deliver broadcast) :=
  deliver_induction grow
    (fun _ grow watcher _ => (grow.endWriting watcher.stream).trans (.of_eq rfl))
    fun _ grow entry _ => grow.write entry.1.stream _

variable (system)

theorem applyResource (name : String) (resource : JobResource) :
    system.StreamsGrow (system.applyResource name resource) := by
  simp only [System.applyResource]
  split
  · refine StreamsGrow.deliver ?_ _
    exact of_eq rfl
  · exact of_eq rfl

theorem deleteResource (name uid : String) :
    system.StreamsGrow (system.deleteResource name uid).1 := by
  simp only [System.deleteResource]
  split
  · refine StreamsGrow.deliver ?_ _
    exact of_eq rfl
  · exact of_eq rfl

theorem injectChange (name : String) (change : ResourceEvent) :
    system.StreamsGrow (system.injectChange name change) := by
  simp only [System.injectChange]
  split
  · refine StreamsGrow.deliver ?_ _
    exact of_eq rfl
  · exact of_eq rfl

theorem watchFeed (name : String) (context : Context) :
    system.StreamsGrow (system.watchFeed name context).1 := by
  simp only [System.watchFeed]
  split
  · exact of_eq rfl
  · exact of_push _ rfl
  · split
    · exact of_eq rfl
    · exact of_push _ rfl

theorem sendItem (name : String) (item : FeedItem) :
    system.StreamsGrow (system.sendItem name item).1 := by
  simp only [System.sendItem]
  split
  · exact List.foldlRecOn (motive := fun later : System => system.StreamsGrow later) _ _
      (of_eq rfl) fun _ grow stream _ => grow.write stream item
  · exact of_eq rfl

theorem closeFeed (name : String) : system.StreamsGrow (system.closeFeed name) := by
  simp only [System.closeFeed]
  split
  · exact List.foldlRecOn (motive := fun later : System => system.StreamsGrow later) _ _
      (of_eq rfl) fun _ grow stream _ => grow.endWriting stream
  · exact of_eq rfl

end StreamsGrow

/-! ### What no move takes back -/

/-- What is cancelled stays cancelled, a watch keeps its feed, its context and its stream, a new
watch has a new stream, and a task that has ended stays as it is. -/
structure Persists (system next : System) : Prop where
  cancelled : system.cancellation.cancelled ⊆ next.cancellation.cancelled
  size : system.streams.size ≤ next.streams.size
  watches : ∀ (place : Nat) (watched : Watch), system.watches[place]? = some watched →
    ∃ later, next.watches[place]? = some later ∧ later.feed = watched.feed ∧
      later.context = watched.context ∧ later.stream = watched.stream
  begun : ∀ (place : Nat) (watched : Watch), system.watches[place]? = none →
    next.watches[place]? = some watched → system.streams.size ≤ watched.stream
  ended : ∀ (index : Nat) (state : TaskState), system.tasks[index]? = some state →
    state.outcome.isSome = true → next.tasks[index]? = some state

namespace Persists

variable {system next last : System} {index : Nat} {state : TaskState}

theorem trans (first : system.Persists next) (second : next.Persists last) :
    system.Persists last where
  cancelled := List.Subset.trans first.cancelled second.cancelled
  size := Nat.le_trans first.size second.size
  watches := by
    intro place watched found
    rcases first.watches place watched found with ⟨later, foundLater, feed, context, stream⟩
    rcases second.watches place later foundLater with
      ⟨latest, foundLatest, sameFeed, sameContext, sameStream⟩
    exact ⟨latest, foundLatest, sameFeed.trans feed, sameContext.trans context,
      sameStream.trans stream⟩
  begun := by
    intro place latest absent present
    cases between : next.watches[place]? with
    | none => exact Nat.le_trans first.size (second.begun place latest between present)
    | some later =>
        rcases second.watches place later between with ⟨same, found, -, -, stream⟩
        rw [present, Option.some.injEq] at found
        rw [found, stream]
        exact first.begun place later absent between
  ended := fun index state found ended =>
    second.ended index state (first.ended index state found ended) ended

/-- The watches stay the same. -/
theorem of_watches (cancelled : system.cancellation.cancelled ⊆ next.cancellation.cancelled)
    (size : system.streams.size ≤ next.streams.size) (watches : next.watches = system.watches)
    (ended : ∀ (index : Nat) (state : TaskState), system.tasks[index]? = some state →
      state.outcome.isSome = true → next.tasks[index]? = some state) :
    system.Persists next where
  cancelled
  size
  watches := by
    rw [watches]
    exact fun _ watched found => ⟨watched, found, rfl, rfl, rfl⟩
  begun := by
    rw [watches]
    intro place watched absent present
    rw [absent] at present
    cases present
  ended

/-- Neither watches nor tasks change. -/
theorem of_tasks (cancelled : system.cancellation.cancelled ⊆ next.cancellation.cancelled)
    (size : system.streams.size ≤ next.streams.size) (watches : next.watches = system.watches)
    (tasks : next.tasks = system.tasks) : system.Persists next :=
  .of_watches cancelled size watches fun index state found _ => by rw [tasks, found]

/-- One task changes that has not ended. -/
theorem of_modify (cancelled : system.cancellation.cancelled ⊆ next.cancellation.cancelled)
    (streams : next.streams = system.streams) (watches : next.watches = system.watches)
    (found : system.tasks[index]? = some state) (unfinished : state.outcome = none)
    (change : TaskState → TaskState) (tasks : next.tasks = system.tasks.modify index change) :
    system.Persists next := by
  refine .of_watches cancelled (by simp [streams]) watches fun other ended present isEnded => ?_
  rw [tasks, Array.getElem?_modify]
  split
  · rename_i same
    rw [← same, found, Option.some.injEq] at present
    rw [← present, unfinished] at isEnded
    cases isEnded
  · exact present

theorem refl (system : System) : system.Persists system :=
  .of_tasks (List.Subset.refl _) (Nat.le_refl _) rfl rfl

theorem of_sameWork (same : system.SameWork next) : system.Persists next :=
  .of_tasks (by rw [same.cancellation]; exact List.Subset.refl _)
    (Nat.le_of_eq (congrArg Array.size same.streams.symm)) same.watches same.tasks

end Persists

section Cancelled

variable {system : System}

/-- Contexts are made, held and given up, but none is cancelled. -/
theorem SparesWards.cancelled_subset {next : System}
    (spares : SparesWards (fun _ => False) system next) :
    system.cancellation.cancelled ⊆ next.cancellation.cancelled :=
  Cancellation.Reaches.cancelled_subset spares

theorem finish_persists {index : Nat} {state : TaskState}
    (found : system.tasks[index]? = some state) (unfinished : state.outcome = none)
    (outcome : Outcome) : system.Persists (system.finish index outcome) := by
  have spares : SparesWards (fun _ => False) system system := .of_eq rfl
  exact .of_modify (spares.finish index outcome).cancelled_subset (by simp) (by simp) found
    unfinished (fun state => { state with outcome := some outcome }) (by simp)

/-- A feed is watched, or refuses to be, in a context that is made for that. -/
theorem watchChild_grows {after : System} {feed : String} {context : Context}
    {result : Except SyncError (String × Nat)}
    (watching : { system with cancellation := (system.cancellation.child context).1 }.watchFeed feed
      (system.cancellation.child context).2 = (after, result)) :
    SparesWards (fun _ => False) system after ∧ system.StreamsGrow after := by
  let made : System := { system with cancellation := (system.cancellation.child context).1 }
  let own := (system.cancellation.child context).2
  have same : (made.watchFeed feed own).1 = after := congrArg Prod.fst watching
  have child : SparesWards (fun _ => False) system made := Cancellation.Reaches.child .unchanged _
  have untouched : system.StreamsGrow made := .of_eq rfl
  rw [← same]
  exact ⟨child.watchFeed feed own, untouched.trans (.watchFeed made feed own)⟩

end Cancelled

/-- Whatever a task does. -/
theorem Proceeds.persists {system next : System} {index : Nat}
    (proceeds : Proceeds index system next) : system.Persists next := by
  have spares (system : System) : SparesWards (fun _ => False) system system := .of_eq rfl
  induction proceeds with
  | unchanged => exact .refl system
  | same _ same before => exact before.trans (.of_sameWork same)
  | finish _ found unfinished outcome _ before =>
      exact before.trans (finish_persists found unfinished outcome)
  | @goOn used state _ found unfinished task _ _ before =>
      exact before.trans (.of_modify (List.Subset.refl _) rfl rfl found unfinished
        (fun state => { state with task }) rfl)
  | @applyResource used _ name resource before =>
      exact before.trans (.of_tasks ((spares used).applyResource name resource).cancelled_subset
        (StreamsGrow.applyResource used name resource).size (by simp) (by simp))
  | @cancel used _ context cause before =>
      refine before.trans (.of_tasks ?_ (by simp) (by simp) (by simp))
      rw [cancel_cancellation]
      exact used.cancellation.cancelled_subset_cancel context cause
  | @attend used after state watch watched _ found unfinished task present update kept synced change
      tasks feeds cancellation streams watches before =>
      refine before.trans ⟨?_, by simp [streams], ?_, ?_, ?_⟩
      · rw [cancellation]
        exact List.Subset.refl _
      · intro place other foundOther
        rw [watches, Array.getElem?_modify]
        split
        · rename_i same
          rw [← same, present, Option.some.injEq] at foundOther
          rw [← same, present, ← foundOther]
          exact ⟨update watched, rfl, kept⟩
        · exact ⟨other, foundOther, rfl, rfl, rfl⟩
      · intro place other absent presentOther
        rw [watches, Array.getElem?_modify, absent] at presentOther
        split at presentOther <;> cases presentOther
      · intro other ended presentOther _
        rw [tasks, presentOther]
  | @refuse used after state feed context error _ found unfinished task watching before =>
      rcases watchChild_grows watching with ⟨spares, grow⟩
      rcases watchChild_frame watching with ⟨tasks, watches⟩
      exact before.trans (.of_tasks (spares.dropContext _).cancelled_subset grow.size watches tasks)
  | @begin used after state feed name context stream _ found unfinished task watching deadline
      before =>
      rcases watchChild_grows watching with ⟨spares, grow⟩
      rcases watchChild_frame watching with ⟨tasks, watches⟩
      have opened := watchFeed_stream watching
      refine before.trans ⟨?_, ?_, ?_, ?_, ?_⟩
      · rw [(withListener_frame _ _ _ _ _ _).2.2]
        exact (spares.holdContext _).cancelled_subset
      · rw [(withListener_frame _ _ _ _ _ _).2.1]
        exact grow.size
      · intro place other present
        have inside := (Array.getElem?_eq_some_iff.mp present).1
        refine ⟨other, ?_, rfl, rfl, rfl⟩
        rw [(withListener_frame _ _ _ _ _ _).1, watches, Array.getElem?_push,
          if_neg (Nat.ne_of_lt inside), present]
      · intro place other absent present
        rw [(withListener_frame _ _ _ _ _ _).1, watches, Array.getElem?_push] at present
        split at present
        · cases present
          exact Nat.le_of_eq opened.1.symm
        · rw [absent] at present
          cases present
      · intro other ended present isEnded
        have inside := (Array.getElem?_eq_some_iff.mp present).1
        rw [withListener_tasks, tasks, Array.getElem?_push, Array.size_modify,
          if_neg (Nat.ne_of_lt inside), Array.getElem?_modify]
        split
        · rename_i same
          rw [← same, found, Option.some.injEq] at present
          rw [← present, unfinished] at isEnded
          cases isEnded
        · exact present

/-- What happens outside. -/
theorem undergo_persists (system : System) (happening : Happening) :
    system.Persists (system.undergo happening) := by
  refine .of_tasks (undergo_cancelled_subset system happening) ?_ (by simp) (by simp)
  cases happening with
  | applyResource feed resource => exact (StreamsGrow.applyResource system feed resource).size
  | deleteResource feed uid => exact (StreamsGrow.deleteResource system feed uid).size
  | injectChange feed change => exact (StreamsGrow.injectChange system feed change).size
  | watchFeed feed context => exact (StreamsGrow.watchFeed system feed context).size
  | sendItem feed item => exact (StreamsGrow.sendItem system feed item).size
  | closeFeed feed => exact (StreamsGrow.closeFeed system feed).size
  | _ => simp [undergo]

theorem abort_persists (system : System) (index : Nat) : system.Persists (system.abort index) := by
  rcases abort_cases system index with same | ⟨state, found, unfinished, tasks⟩
  · rw [same]
    exact .refl system
  · exact .of_modify (by simp) (by simp) (by simp) found unfinished
      (fun state => { state with isAborted := true }) tasks

theorem perform_persists (system : System) (move : Move) :
    system.Persists (system.perform move) := by
  cases move with
  | turn index => exact (turn_proceeds system index).persists
  | drop index => exact (dropNow_proceeds system index).persists
  | abort index => exact abort_persists system index
  | start task =>
      refine .of_watches (by simp [perform]) (by simp [perform]) (by simp [perform]) ?_
      intro index state found _
      have inside := (Array.getElem?_eq_some_iff.mp found).1
      simp [perform, Array.getElem?_push, Nat.ne_of_lt inside, found]
  | tryAcquire place => exact .of_sameWork (setPool_sameWork system place _)
  | tryRelease place =>
      exact .of_sameWork ((setPool_sameWork system place _).trans (noteAll_sameWork _ _))
  | reconcile change =>
      exact .of_sameWork ((setPool_sameWork system 0 _).trans (noteAll_sameWork _ _))
  | elsewhere happening => exact undergo_persists system happening

theorem run_persists (system : System) (moves : List Move) :
    system.Persists (system.run moves) := by
  induction moves generalizing system with
  | nil => exact .refl system
  | cons move rest ih => exact (perform_persists system move).trans (ih _)

/-! ### As long as the listener has no turn -/

/-- The listener of a watch has not ended. -/
def Listened (system : System) (place : Nat) : Prop :=
  ∃ (index : Nat) (state : TaskState), system.tasks[index]? = some state ∧
    state.task = .listening place ∧ state.outcome = none

/-- A watch stays as it is and its stream only grows, or the watch is made. -/
structure Untouched (place : Nat) (system next : System) : Prop where
  same : ∀ watched, system.watches[place]? = some watched → next.watches[place]? = some watched
  unread : ∀ watched, system.watches[place]? = some watched →
    system.unread watched.stream <+: next.unread watched.stream
  fresh : ∀ watched, system.watches[place]? = none → next.watches[place]? = some watched →
    watched.isSynced = false
  listened : ∀ watched, system.watches[place]? = some watched → next.Listened place →
    system.Listened place

namespace Untouched

variable {system next last : System} {place index : Nat} {state : TaskState}

theorem trans (first : Untouched place system next) (second : Untouched place next last) :
    Untouched place system last where
  same := fun watched found => second.same watched (first.same watched found)
  unread := fun watched found =>
    (first.unread watched found).trans (second.unread watched (first.same watched found))
  fresh := by
    intro watched absent present
    cases between : next.watches[place]? with
    | none => exact second.fresh watched between present
    | some later =>
        have same := second.same later between
        rw [present, Option.some.injEq] at same
        rw [same]
        exact first.fresh later absent between
  listened := fun watched found listened =>
    first.listened watched found (second.listened watched (first.same watched found) listened)

/-- The watch stays the same, and no listener is started. -/
theorem of_place (watch : next.watches[place]? = system.watches[place]?)
    (unread : ∀ watched, system.watches[place]? = some watched →
      system.unread watched.stream <+: next.unread watched.stream)
    (listened : next.Listened place → system.Listened place) : Untouched place system next where
  same := by
    rw [watch]
    exact fun _ found => found
  unread
  fresh := by
    rw [watch]
    intro watched absent present
    rw [absent] at present
    cases present
  listened := fun _ _ => listened

theorem of_watches (watches : next.watches = system.watches) (grow : system.StreamsGrow next)
    (listened : next.Listened place → system.Listened place) : Untouched place system next :=
  .of_place (by rw [watches]) (fun watched _ => grow.unread watched.stream) listened

theorem of_tasks (watches : next.watches = system.watches) (grow : system.StreamsGrow next)
    (tasks : next.tasks = system.tasks) : Untouched place system next := by
  refine of_watches watches grow ?_
  simp only [Listened, tasks]
  exact id

theorem refl (place : Nat) (system : System) : Untouched place system system :=
  of_tasks rfl (.of_eq rfl) rfl

theorem of_sameWork (same : system.SameWork next) : Untouched place system next :=
  of_tasks same.watches (.of_eq same.streams) same.tasks

/-- A task changes that does not begin to listen. -/
theorem of_modify (watches : next.watches = system.watches)
    (streams : next.streams = system.streams)
    (found : system.tasks[index]? = some state) (change : TaskState → TaskState)
    (tasks : next.tasks = system.tasks.modify index change)
    (listens : (change state).task = .listening place → (change state).outcome = none →
      state.task = .listening place ∧ state.outcome = none) : Untouched place system next := by
  refine of_watches watches (.of_eq streams) ?_
  rintro ⟨other, later, present, listening, unfinished⟩
  rw [tasks, Array.getElem?_modify] at present
  split at present
  · rename_i same
    rw [← same, found, Option.map_some, Option.some.injEq] at present
    rw [← present] at listening unfinished
    exact ⟨index, state, found, listens listening unfinished⟩
  · exact ⟨other, later, present, listening, unfinished⟩

/-- A task ends, maybe the listener itself. -/
theorem finish (found : system.tasks[index]? = some state) (outcome : Outcome) :
    Untouched place system (system.finish index outcome) :=
  of_modify (by simp) (by simp) found (fun state => { state with outcome := some outcome })
    (by simp) nofun

end Untouched

/-- A task that listens has listened before. -/
theorem Proceeds.listens {system next : System} {index place : Nat} {state : TaskState}
    (proceeds : Proceeds index system next) (found : next.tasks[index]? = some state)
    (task : state.task = .listening place) :
    ∃ earlier, system.tasks[index]? = some earlier ∧ earlier.task = .listening place := by
  cases original : system.tasks[index]? with
  | none =>
      rcases (proceeds.advances).started index state original found with ⟨-, other, present, -⟩
      rw [original] at present
      cases present
  | some earlier =>
      rcases (proceeds.advances).advances earlier original with ⟨later, present, advances, -⟩
      rw [found, Option.some.injEq] at present
      rw [← present, task] at advances
      exact ⟨earlier, rfl, advances.eq_listening⟩

/-- Nobody but its listener touches a watch. -/
theorem Proceeds.untouched {system next : System} {index place : Nat}
    (proceeds : Proceeds index system next) (tended : system.Tended [])
    (deaf : ∀ state, system.tasks[index]? = some state → state.task ≠ .listening place) :
    Untouched place system next := by
  induction proceeds with
  | unchanged => exact .refl place system
  | same _ same before => exact before.trans (.of_sameWork same)
  | finish _ found _ outcome _ before => exact before.trans (.finish found outcome)
  | @goOn used state _ found unfinished task advances _ before =>
      refine before.trans (.of_modify rfl rfl found (fun state => { state with task }) rfl ?_)
      intro listens _
      rw [show task = .listening place from listens] at advances
      exact ⟨advances.eq_listening, unfinished⟩
  | @applyResource used _ name resource before =>
      exact before.trans (.of_tasks (by simp) (.applyResource used name resource) (by simp))
  | cancel _ context cause before =>
      exact before.trans (.of_tasks (by simp) (.of_eq (by simp)) (by simp))
  | @attend used after state watch watched proceeds found _ task present update _ _ change tasks _ _
      streams watches before =>
      have other : watch ≠ place := by
        rintro rfl
        rcases proceeds.listens found task with ⟨earlier, original, listens⟩
        exact deaf earlier original listens
      refine before.trans (.of_place ?_ (fun own foundOwn => ?_) ?_)
      · rw [watches, Array.getElem?_modify, if_neg other]
      · have apart : watched.stream ≠ own.stream := fun same =>
          other ((proceeds.tended tended).apart watch place watched own present foundOwn same)
        simp only [System.unread, streams, Array.getElem?_modify, if_neg apart]
        exact List.prefix_refl _
      · simp only [Listened, tasks]
        exact id
  | refuse _ _ _ _ watching before =>
      have grow := (watchChild_grows watching).2
      rcases watchChild_frame watching with ⟨tasks, watches⟩
      exact before.trans (.of_tasks watches (grow.trans (.of_eq rfl)) tasks)
  | @begin used after state feed name context stream _ found unfinished task watching deadline
      before =>
      have grow := (watchChild_grows watching).2
      rcases watchChild_frame watching with ⟨tasks, watches⟩
      have known {own : Watch} (foundOwn : used.watches[place]? = some own) :
          place ≠ used.watches.size :=
        Nat.ne_of_lt (Array.getElem?_eq_some_iff.mp foundOwn).1
      refine before.trans ⟨?_, ?_, ?_, ?_⟩
      · intro own foundOwn
        rw [(withListener_frame _ _ _ _ _ _).1, watches, Array.getElem?_push,
          if_neg (known foundOwn), foundOwn]
      · intro own _
        simp only [System.unread, withListener_frame]
        exact grow.unread own.stream
      · intro own absent present
        rw [(withListener_frame _ _ _ _ _ _).1, watches, Array.getElem?_push] at present
        split at present
        · cases present
          rfl
        · rw [absent] at present
          cases present
      · rintro own foundOwn ⟨other, later, present, listens, still⟩
        rw [withListener_tasks, tasks, watches, Array.getElem?_push] at present
        split at present
        · cases present
          cases listens
          exact absurd rfl (known foundOwn)
        · rw [Array.getElem?_modify] at present
          split at present
          · rename_i same
            rw [← same, found, Option.map_some, Option.some.injEq] at present
            rw [← present] at listens
            cases listens
          · exact ⟨other, later, present, listens, still⟩

/-- The watch that a task attends to in its turn, if it is a listener that is not to be dropped. -/
def heardBy (system : System) (index : Nat) : Option Nat :=
  system.tasks[index]?.bind fun state =>
    if state.outcome.isSome || state.isAborted then none
    else
      match state.task with
      | .listening watch => some watch
      | _ => none

theorem heardBy_eq_some {system : System} {index place : Nat} :
    system.heardBy index = some place ↔ ∃ state, system.tasks[index]? = some state ∧
      state.outcome = none ∧ state.isAborted = false ∧ state.task = .listening place := by
  simp only [heardBy, Option.bind_eq_some_iff]
  refine exists_congr fun state => and_congr_right fun _ => ?_
  cases state.outcome with
  | some outcome => simp
  | none =>
      cases state.isAborted with
      | true => simp
      | false => cases state.task <;> simp

section Moves

variable {system : System} {place index : Nat} {state : TaskState}

theorem dropTask_untouched (found : system.tasks[index]? = some state) (task : Task) :
    Untouched place system (system.dropTask index task) := by
  rcases system.dropTask_eq index task with ⟨left, same, dropped⟩
  rw [dropped]
  exact (Untouched.of_sameWork same).trans (.finish (by rw [same.tasks, found]) _)

/-- A turn in which no listener attends to a watch does nothing, drops a task, or is the turn of a
task that does not listen to the watch. -/
theorem turn_cases_of_deaf (deaf : system.heardBy index ≠ some place) :
    system.turn index = system ∨
      (∃ state, system.tasks[index]? = some state ∧ state.outcome = none ∧
        system.turn index = system.dropTask index state.task) ∨
      ∀ state, system.tasks[index]? = some state → state.task ≠ .listening place := by
  rcases turn_cases system index with same | ⟨state, found, unfinished⟩
  · exact Or.inl same
  · by_cases marked : state.isAborted = true
    · exact Or.inr (Or.inl ⟨state, found, unfinished, turn_of_isAborted found unfinished marked⟩)
    · refine Or.inr (Or.inr fun other present listens => ?_)
      rw [found, Option.some.injEq] at present
      rw [← present] at listens
      exact deaf (heardBy_eq_some.mpr ⟨state, found, unfinished, by simpa using marked, listens⟩)

theorem turn_untouched (tended : system.Tended [])
    (deaf : system.heardBy index ≠ some place) : Untouched place system (system.turn index) := by
  rcases turn_cases_of_deaf deaf with same | ⟨state, found, -, dropped⟩ | elsewhere
  · rw [same]
    exact .refl place system
  · rw [dropped]
    exact dropTask_untouched found state.task
  · exact (turn_proceeds system index).untouched tended elsewhere

/-- Nobody outside reads what a listener is to read. -/
theorem undergo_untouched {happening : Happening} (allowed : system.AllowsUse happening) :
    Untouched place system (system.undergo happening) := by
  have growing (grow : system.StreamsGrow (system.undergo happening)) :
      Untouched place system (system.undergo happening) := .of_tasks (by simp) grow (by simp)
  have others (stream : Nat) (change : Stream → Stream)
      (apart : ∀ watch ∈ system.watches, watch.stream ≠ stream)
      (streams : (system.undergo happening).streams = system.streams.modify stream change) :
      Untouched place system (system.undergo happening) := by
    refine .of_place (by simp) (fun watched found => ?_) ?_
    · have other : stream ≠ watched.stream :=
        Ne.symm (apart watched (Array.mem_of_getElem? found))
      simp only [System.unread, streams, Array.getElem?_modify, if_neg other]
      exact List.prefix_refl _
    · simp only [Listened, (undergo_frame system happening).2.1]
      exact id
  cases happening with
  | applyResource feed resource => exact growing (.applyResource system feed resource)
  | deleteResource feed uid => exact growing (.deleteResource system feed uid)
  | injectChange feed change => exact growing (.injectChange system feed change)
  | watchFeed feed context => exact growing (.watchFeed system feed context)
  | sendItem feed item => exact growing (.sendItem system feed item)
  | closeFeed feed => exact growing (.closeFeed system feed)
  | readStream stream => exact others stream (fun stream => stream.takeAll.1) allowed rfl
  | dropReader stream => exact others stream Stream.endReading allowed rfl
  | _ => exact growing (.of_eq (by simp [undergo]))

/-- As long as the listener of a watch has no turn, nobody touches the watch. -/
theorem perform_untouched (tended : system.Tended []) {move : Move}
    (permitted : system.Permits move)
    (deaf : ∀ index, move = .turn index → system.heardBy index ≠ some place) :
    Untouched place system (system.perform move) := by
  cases move with
  | turn index => exact turn_untouched tended (deaf index rfl)
  | drop index =>
      rcases dropNow_cases system index with same | ⟨state, found, -, dropped⟩
      · rw [perform, same]
        exact .refl place system
      · rw [perform, dropped]
        exact dropTask_untouched found state.task
  | abort index =>
      rcases abort_cases system index with same | ⟨state, found, -, tasks⟩
      · rw [perform, same]
        exact .refl place system
      · exact .of_modify (by simp [perform]) (by simp [perform]) found
          (fun state => { state with isAborted := true }) tasks fun listens unfinished =>
            ⟨listens, unfinished⟩
  | start task =>
      refine .of_watches (by simp [perform]) (.of_eq (by simp [perform])) ?_
      rintro ⟨index, state, found, listens, unfinished⟩
      simp only [perform, spawn_frame, Array.getElem?_push] at found
      split at found
      · cases found
        have fresh := permitted.1
        rw [show task = .listening place from listens] at fresh
        cases fresh
      · exact ⟨index, state, found, listens, unfinished⟩
  | tryAcquire place => exact .of_sameWork (setPool_sameWork system place _)
  | tryRelease place =>
      exact .of_sameWork ((setPool_sameWork system place _).trans (noteAll_sameWork _ _))
  | reconcile change =>
      exact .of_sameWork ((setPool_sameWork system 0 _).trans (noteAll_sameWork _ _))
  | elsewhere happening => exact undergo_untouched permitted

end Moves

end System

end Admission
