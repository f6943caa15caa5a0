import Admission.Proofs.Readings
import Admission.Proofs.ReconcilerCalls

/-!
# A turn of a listener

The listener of a watch applies the items that it takes out of the stream one after the other, each
to the pool that the item before has left. It makes the calls that the changes ask for, and
publishes one event for every change, and one more for the first mark that it meets, with the tokens
available at that point. A registration publishes nothing itself, and calls no pool.
-/

namespace Admission

/-- The pool after a listener has applied an item. -/
def FeedItem.leaves (pool : Pool) : FeedItem → Pool
  | .event change => (Reconciler.apply 0 pool change).1
  | .synced => pool

namespace Watch

/-- Items that are applied one after the other, each with the pool that it is applied to. -/
def encounters : Pool → List FeedItem → List (Pool × FeedItem)
  | _, [] => []
  | pool, item :: rest => (pool, item) :: encounters (item.leaves pool) rest

/-- The calls that are made for an item, if it is a change. -/
def calls : Pool × FeedItem → List ReconcilerCall
  | (pool, .event change) => Reconciler.calls pool change
  | (_, .synced) => []

/-- The event that tells of an item, if it is a change. -/
def tells : Pool × FeedItem → List (Nat × Event)
  | (pool, .event change) =>
      [(0, Reconciler.eventOf (Reconciler.apply 0 pool change).1.available change)]
  | (_, .synced) => []

/-- What a listener publishes for the items that it applies: the first mark counts only if the watch
is not synced yet. -/
def story (feed : String) : Bool → List (Pool × FeedItem) → List (Nat × Event)
  | _, [] => []
  | isSynced, (pool, .event change) :: rest =>
      tells (pool, .event change) ++ story feed isSynced rest
  | isSynced, (pool, .synced) :: rest =>
      (if isSynced then [] else [(0, Reconciler.syncedEvent feed pool.available)]) ++
        story feed true rest

section Stories

variable {feed : String} {pool : Pool} {entries rest : List (Pool × FeedItem)}

theorem encounters_items (pool : Pool) (items : List FeedItem) :
    (encounters pool items).map (·.2) = items := by
  induction items generalizing pool with
  | nil => rfl
  | cons item rest ih => rw [encounters, List.map_cons, ih]

/-- The calls that are made for items one after the other are all that happens to the pool. -/
theorem encounters_serves (pool : Pool) (items : List FeedItem) :
    pool.Serves ((encounters pool items).flatMap calls) (items.foldl FeedItem.leaves pool) := by
  induction items generalizing pool with
  | nil => exact .nil pool
  | cons item rest ih =>
      have first : pool.Serves (calls (pool, item)) (item.leaves pool) := by
        cases item with
        | event change => exact Reconciler.apply_serves pool change
        | synced => exact .nil pool
      rw [encounters, List.flatMap_cons]
      exact first.append (ih (item.leaves pool))

theorem story_append (feed : String) (isSynced : Bool) (entries rest : List (Pool × FeedItem)) :
    story feed isSynced (entries ++ rest) =
      story feed isSynced entries ++
        story feed (isSynced || decide (.synced ∈ entries.map (·.2))) rest := by
  induction entries generalizing isSynced with
  | nil => simp [story]
  | cons entry others ih =>
      rcases entry with ⟨pool, change | -⟩
      · have same : (.synced ∈ ((pool, .event change) :: others).map (·.2)) =
            (.synced ∈ others.map (·.2)) := by simp
        simp only [List.cons_append, story, ih, List.append_assoc, same]
      · simp [story, ih]

/-- Once the watch is synced, marks are passed over. -/
theorem story_of_synced (entries : List (Pool × FeedItem)) :
    story feed true entries = entries.flatMap tells := by
  induction entries with
  | nil => rfl
  | cons entry rest ih =>
      rcases entry with ⟨pool, change | -⟩ <;> simp [story, tells, ih]

/-- Before the first mark, changes are told and nothing else. -/
theorem story_of_unsynced (none : .synced ∉ entries.map (·.2)) :
    story feed false entries = entries.flatMap tells := by
  induction entries with
  | nil => rfl
  | cons entry rest ih =>
      rcases entry with ⟨pool, change | -⟩
      · simp only [List.map_cons, List.mem_cons, not_or] at none
        simp [story, ih none.2]
      · simp at none

/-- The first mark is announced after all that comes before and before all that comes later. -/
theorem story_of_mark (none : .synced ∉ entries.map (·.2)) :
    story feed false (entries ++ (pool, .synced) :: rest) =
      entries.flatMap tells ++ (0, Reconciler.syncedEvent feed pool.available) ::
        rest.flatMap tells := by
  rw [story_append, story_of_unsynced none]
  simp [none, story, story_of_synced]

/-- No change is told by an announcement of a mark. -/
theorem countP_tells (entry : Pool × FeedItem) :
    (tells entry).countP (·.2.kind == .feedSynced) = 0 := by
  rcases entry with ⟨pool, change | -⟩
  · cases change <;> rfl
  · rfl

/-- At most one mark is announced. -/
theorem story_once (feed : String) (isSynced : Bool) (entries : List (Pool × FeedItem)) :
    (story feed isSynced entries).countP (·.2.kind == .feedSynced) ≤ (!isSynced).toNat := by
  induction entries generalizing isSynced with
  | nil => exact Nat.zero_le _
  | cons entry rest ih =>
      rcases entry with ⟨pool, change | -⟩
      · rw [story, List.countP_append, countP_tells, Nat.zero_add]
        exact ih isSynced
      · have none := ih true
        rw [story, List.countP_append]
        cases isSynced with
        | true => simpa using none
        | false => exact Nat.add_le_add (Nat.le_refl 1) none

end Stories

end Watch

/-! ### What is published -/

/-- The event that a notice publishes, without its number. -/
def Notice.news (notice : Notice) : List (Nat × Event) :=
  (notice.event?.map fun entry => (entry.1, entry.2.numbered 0)).toList

namespace Notice

theorem flatMap_news_wokenOf (waiter : Option Nat) : (wokenOf waiter).flatMap news = [] := by
  cases waiter <;> rfl

end Notice

theorem Reconciler.apply_news (pool : Pool) (change : ResourceEvent) :
    (apply 0 pool change).2.flatMap Notice.news = Watch.tells (pool, .event change) := by
  have settled : (settle pool change).2.flatMap Notice.news = [] := by
    simp only [settle]
    cases demand change with
    | claim => rfl
    | giveBack =>
        simp only [List.flatMap_append, Notice.flatMap_news_wokenOf]
        rfl
    | nothing => rfl
  simp only [apply, List.flatMap_append, settled, Watch.tells]
  cases change <;> rfl

theorem Watch.takeAll_eq (index : Nat) (feed : String) (pool : Pool) (isSynced : Bool)
    (items : List FeedItem) :
    (takeAll 0 index feed pool isSynced items).1 = items.foldl FeedItem.leaves pool ∧
      (takeAll 0 index feed pool isSynced items).2.2.flatMap Notice.news =
        story feed isSynced (encounters pool items) := by
  induction items generalizing pool isSynced with
  | nil => exact ⟨rfl, rfl⟩
  | cons item rest ih =>
      rcases item with change | -
      · have later := ih (Reconciler.apply 0 pool change).1 isSynced
        refine ⟨later.1, ?_⟩
        simp only [takeAll, take, List.flatMap_append, later.2, Reconciler.apply_news, encounters,
          story, FeedItem.leaves]
      · have later := ih pool true
        cases isSynced with
        | true =>
            refine ⟨later.1, ?_⟩
            simp only [takeAll, take, if_true, List.nil_append, later.2, encounters, story,
              FeedItem.leaves]
        | false =>
            refine ⟨later.1, ?_⟩
            simp only [takeAll, take, Bool.false_eq_true, if_false, List.flatMap_append, later.2,
              encounters, story, FeedItem.leaves]
            rfl

/-- A mark asks for no call. -/
theorem Watch.takeAll_calls (index : Nat) (feed : String) (pool : Pool) (isSynced : Bool)
    (items : List FeedItem) :
    (takeAll 0 index feed pool isSynced items).2.2.filterMap Notice.call? =
      (encounters pool items).flatMap calls := by
  induction items generalizing pool isSynced with
  | nil => rfl
  | cons item rest ih =>
      simp only [takeAll, List.filterMap_append, encounters, List.flatMap_cons]
      cases item with
      | event change =>
          simp only [take, ih]
          rfl
      | synced =>
          cases isSynced <;> simp only [take, ih] <;> rfl

namespace System

/-- The events published, each with the place of its limiter and without its number. -/
def news (system : System) : List (Nat × Event) :=
  system.published.map fun entry => (entry.1, entry.2.numbered 0)

/-- The calls of reconcilers that are recorded. -/
def calls (system : System) : List ReconcilerCall :=
  system.history.toList.filterMap Notice.call?

section News

variable {system next last : System}

@[simp]
theorem note_news (system : System) (notice : Notice) :
    (system.note notice).news = system.news ++ notice.news := by
  cases notice <;>
    simp [news, published, System.note, Notice.news, Notice.event?, Event.numbered]

@[simp]
theorem noteAll_news (system : System) (notices : List Notice) :
    (system.noteAll notices).news = system.news ++ notices.flatMap Notice.news := by
  induction notices generalizing system with
  | nil => simp [noteAll]
  | cons notice rest ih => simp [noteAll_cons, ih]

theorem note_calls (system : System) (notice : Notice) :
    (system.note notice).calls = system.calls ++ notice.call?.toList := by
  cases notice with
  | logged record => cases made : record.call? <;> simp [calls, System.note, Notice.call?, made]
  | _ => simp [calls, System.note, Notice.call?]

theorem noteAll_calls (system : System) (notices : List Notice) :
    (system.noteAll notices).calls = system.calls ++ notices.filterMap Notice.call? := by
  induction notices generalizing system with
  | nil => simp [noteAll]
  | cons notice rest ih =>
      rw [noteAll_cons, ih, note_calls, List.append_assoc]
      cases made : notice.call? <;> simp [made]

/-- Nothing is published, and no pool is called by a reconciler. -/
structure Quiet (system next : System) : Prop where
  news : next.news = system.news
  calls : next.calls = system.calls

namespace Quiet

theorem of_history (history : next.history = system.history) : system.Quiet next where
  news := by simp only [System.news, published, history]
  calls := by simp only [System.calls, history]

theorem trans (first : system.Quiet next) (second : next.Quiet last) : system.Quiet last where
  news := second.news.trans first.news
  calls := second.calls.trans first.calls

theorem note (quiet : system.Quiet next) {notice : Notice} (untold : notice.event? = none)
    (uncalled : notice.call? = none) : system.Quiet (next.note notice) where
  news := by simp [Notice.news, untold, quiet.news]
  calls := by simp [note_calls, uncalled, quiet.calls]

end Quiet

theorem dropSignal_quiet (system : System) (signal : Nat) :
    system.Quiet (system.dropSignal signal) := by
  simp only [dropSignal]
  split
  · split
    · refine Quiet.note ?_ rfl rfl
      exact .of_history rfl
    · exact .of_history rfl
  · exact .of_history rfl

theorem releaseHoldings_quiet (system : System) (task : Task) :
    system.Quiet (system.releaseHoldings task) := by
  cases task with
  | timer signal delay deadline => exact .of_history rfl
  | awaitCancellation context => exact .of_history rfl
  | awaitStaleness signal => exact dropSignal_quiet system signal
  | acquisition context signal =>
      exact (dropSignal_quiet system signal).trans (.of_history rfl)
  | admission job context stage =>
      exact (dropSignal_quiet system job.signal).trans (.of_history rfl)
  | registration feed context watch =>
      simp only [releaseHoldings]
      split <;> exact .of_history rfl
  | listening watch =>
      simp only [releaseHoldings]
      split <;> exact .of_history rfl

theorem finish_quiet (system : System) (index : Nat) (outcome : Outcome) :
    system.Quiet (system.finish index outcome) := by
  simp only [finish]
  split
  · exact .of_history rfl
  · refine Quiet.trans (Quiet.note ?_ rfl rfl) (releaseHoldings_quiet _ _)
    exact .of_history rfl

@[simp]
theorem finish_news (system : System) (index : Nat) (outcome : Outcome) :
    (system.finish index outcome).news = system.news :=
  (finish_quiet system index outcome).news

theorem tellCancelled_quiet (system : System) (tokens : List Nat) :
    system.Quiet (system.tellCancelled tokens) := by
  have silent : ∀ notice ∈ tokens.map fun token => Notice.told (.cancelled token),
      notice.news = [] ∧ notice.call? = none := by
    intro notice member
    rcases List.mem_map.mp member with ⟨token, -, rfl⟩
    exact ⟨rfl, rfl⟩
  refine ⟨?_, ?_⟩
  · rw [tellCancelled, noteAll_news, List.flatMap_eq_nil_iff.mpr fun notice member =>
      (silent notice member).1, List.append_nil]
  · rw [tellCancelled, noteAll_calls, List.filterMap_eq_nil_iff.mpr fun notice member =>
      (silent notice member).2, List.append_nil]

theorem cancel_quiet (system : System) (context : Context) (cause : Option String) :
    system.Quiet (system.cancel context cause) := by
  refine Quiet.trans ?_ (tellCancelled_quiet _ _)
  exact .of_history rfl

theorem watchFeed_quiet (system : System) (name : String) (context : Context) :
    system.Quiet (system.watchFeed name context).1 := by
  apply Quiet.of_history
  simp only [watchFeed]
  split
  · rfl
  · rfl
  · split <;> rfl

theorem settleRegistration_quiet (system : System) (index : Nat) (context : Context) (watch : Nat)
    (deadline : Option Nat) :
    system.Quiet (system.settleRegistration index context watch deadline) := by
  simp only [settleRegistration]
  split
  · exact .of_history rfl
  · split
    · exact .of_history rfl
    · refine Quiet.trans (Quiet.note ?_ rfl rfl) (finish_quiet _ _ _)
      exact .of_history rfl
    · exact ((cancel_quiet system _ none).note rfl rfl).trans (finish_quiet _ _ _)

theorem startRegistration_quiet (system : System) (index : Nat) (feed : String)
    (context : Context) : system.Quiet (system.startRegistration index feed context) := by
  have watched : system.Quiet (watchFeed
      { system with cancellation := (system.cancellation.child context).1 } feed
      (system.cancellation.child context).2).1 := by
    refine Quiet.trans ?_ (watchFeed_quiet _ _ _)
    exact .of_history rfl
  simp only [startRegistration]
  split
  · rename_i after error watching
    rw [watching] at watched
    refine Quiet.trans (Quiet.trans watched ?_) (finish_quiet _ _ _)
    exact .of_history rfl
  · rename_i after name stream watching
    rw [watching] at watched
    refine Quiet.trans (Quiet.trans watched ?_) (settleRegistration_quiet _ _ _ _ _)
    simp only [spawn]
    refine Quiet.note ?_ rfl rfl
    exact .of_history rfl

/-- A registration publishes nothing itself, and calls no pool. -/
theorem turn_quiet_of_registration {index : Nat} {state : TaskState}
    (found : system.tasks[index]? = some state) (registers : state.task.isRegistration = true) :
    system.Quiet (system.turn index) := by
  cases task : state.task with
  | registration feed context watch =>
      simp only [turn, found, task]
      split
      · exact .of_history rfl
      · split
        · exact finish_quiet system index .aborted
        · cases watch with
          | none => exact startRegistration_quiet system index feed context
          | some watch => exact settleRegistration_quiet system index context watch.1 watch.2
  | _ =>
      rw [task] at registers
      cases registers

end News

/-! ### What a listener does -/

/-- The items that the listener of a watch applies in a move, each with the pool that it is applied
to. -/
def appliedIn (place : Nat) (system : System) : Move → List (Pool × FeedItem)
  | .turn index =>
      match system.watches[place]? with
      | some watched =>
          if system.heardBy index = some place ∧ system.isCancelled watched.context = false then
            Watch.encounters (system.pool 0) ((system.unread watched.stream).take turnLimit)
          else []
      | none => []
  | _ => []

/-- What comes of a turn in which the listener of a watch applies some items. -/
structure Hearing (place : Nat) (watched : Watch) (entries : List (Pool × FeedItem))
    (system next : System) : Prop where
  watch : ∃ later, next.watches[place]? = some later ∧ later.feed = watched.feed ∧
    later.context = watched.context ∧ later.stream = watched.stream ∧
    later.isSynced = (watched.isSynced || decide (.synced ∈ entries.map (·.2)))
  taken : entries.map (·.2) <+: system.unread watched.stream
  left : next.Listened place → system.unread watched.stream =
    entries.map (·.2) ++ next.unread watched.stream
  shrinks : (next.unread watched.stream).length ≤ (system.unread watched.stream).length
  news : next.news = system.news ++ Watch.story watched.feed watched.isSynced entries
  calls : next.calls = system.calls ++ entries.flatMap Watch.calls
  pool : next.pool 0 = (entries.map (·.2)).foldl FeedItem.leaves (system.pool 0)

section Hearings

variable {system next : System} {place index : Nat} {state : TaskState} {watched : Watch}
  {entries : List (Pool × FeedItem)}

theorem Hearing.refl (present : system.watches[place]? = some watched) :
    Hearing place watched [] system system where
  watch := ⟨watched, present, rfl, rfl, rfl, by simp⟩
  taken := List.nil_prefix
  left := fun _ => rfl
  shrinks := Nat.le_refl _
  news := (List.append_nil _).symm
  calls := (List.append_nil _).symm
  pool := rfl

theorem Hearing.note (hearing : Hearing place watched entries system next) {notice : Notice}
    (untold : notice.event? = none) (uncalled : notice.call? = none) :
    Hearing place watched entries system (next.note notice) where
  watch := by simpa using hearing.watch
  taken := hearing.taken
  left := by simpa [Listened, System.unread] using hearing.left
  shrinks := by simpa [System.unread] using hearing.shrinks
  news := by simp [Notice.news, untold, hearing.news]
  calls := by simp [note_calls, uncalled, hearing.calls]
  pool := by rw [note_pool, hearing.pool]

theorem not_listened_of_finish (arranged : system.Arranged)
    (found : system.tasks[index]? = some state) (task : state.task = .listening place)
    (outcome : Outcome) : ¬(system.finish index outcome).Listened place := by
  rintro ⟨other, later, present, listens, unfinished⟩
  rw [(finish_frame system index outcome).2.1, Array.getElem?_modify] at present
  split at present
  · rename_i same
    rw [← same, found, Option.map_some, Option.some.injEq] at present
    rw [← present] at unfinished
    cases unfinished
  · rename_i apart
    exact apart (arranged.alone index other state later place found present task listens)

theorem endListening_quiet (system : System) (index place : Nat) (watched : Watch) :
    system.Quiet (system.endListening index place watched) := by
  have ended : system.Quiet (system.note (Watch.endedNotice watched.feed)) :=
    Quiet.note (.of_history rfl) rfl rfl
  refine Quiet.trans (Quiet.note (ended.trans ?_) rfl rfl) (finish_quiet _ index .ended)
  exact .of_history rfl

/-- The listener ends, and nobody listens to the watch any more. -/
theorem Hearing.endListening (hearing : Hearing place watched entries system next)
    (arranged : next.Arranged) (found : next.tasks[index]? = some state)
    (task : state.task = .listening place) :
    Hearing place watched entries system (next.endListening index place watched) where
  watch := by
    rcases hearing.watch with ⟨later, present, feed, context, stream, synced⟩
    refine ⟨{ later with hasEnded := true }, ?_, feed, context, stream, synced⟩
    simp [System.endListening, Array.getElem?_modify, present]
  taken := hearing.taken
  left := by
    rcases hearing.watch with ⟨later, present, -, -, stream, -⟩
    refine fun listened => absurd listened (not_listened_of_finish ?_ (by simpa using found) task _)
    exact Arranged.of_attend arranged present (fun watch => { watch with hasEnded := true })
      ⟨rfl, rfl⟩ id (by simp) (by simp) (by simp)
  shrinks := by
    have emptied : (next.endListening index place watched).unread watched.stream = [] := by
      simp only [System.endListening, System.unread, finish_frame, note_frame,
        Array.getElem?_modify, if_pos]
      cases next.streams[watched.stream]? <;> rfl
    rw [emptied]
    exact Nat.zero_le _
  news := (endListening_quiet next index place watched).news.trans hearing.news
  calls := (endListening_quiet next index place watched).calls.trans hearing.calls
  pool := by
    rw [System.endListening, finish_pool, note_pool, ← hearing.pool,
      ← note_pool next (Watch.endedNotice watched.feed)]
    rfl

/-- The listener of a watch has applied what it found in its turn, before it goes on or ends. -/
def attended (system : System) (place : Nat) (watched : Watch) : System :=
  let heard := Watch.takeAll 0 place watched.feed (system.pool 0) watched.isSynced
    ((system.unread watched.stream).take turnLimit)
  { system.setPool 0 heard.1 with
    streams := system.streams.modify watched.stream fun stream => (stream.take turnLimit).1
    watches := system.watches.modify place fun watch =>
      { watch with isSynced := heard.2.1 } }.noteAll heard.2.2

theorem attended_unread (system : System) (place : Nat) (watched : Watch) :
    (system.attended place watched).unread watched.stream =
      (system.unread watched.stream).drop turnLimit := by
  simp only [attended, System.unread, noteAll_frame, Array.getElem?_modify, if_pos]
  cases system.streams[watched.stream]? with
  | none => exact List.drop_nil.symm
  | some stream => rfl

theorem attended_hearing (limited : 0 < system.limiters.length)
    (present : system.watches[place]? = some watched) :
    Hearing place watched (Watch.encounters (system.pool 0)
      ((system.unread watched.stream).take turnLimit)) system (system.attended place watched) where
  watch := by
    rw [Watch.encounters_items]
    simp [attended, Array.getElem?_modify, present, Watch.takeAll_isSynced]
  taken := by
    rw [Watch.encounters_items]
    exact List.take_prefix _ _
  left := by
    intro _
    rw [Watch.encounters_items, attended_unread, List.take_append_drop]
  shrinks := by
    rw [attended_unread, List.length_drop]
    exact Nat.sub_le _ _
  news := by
    simp only [attended, noteAll_news, (Watch.takeAll_eq _ _ _ _ _).2]
    rfl
  calls := by
    simp only [attended, noteAll_calls, Watch.takeAll_calls]
    rfl
  pool := by
    rw [Watch.encounters_items, attended, noteAll_pool]
    exact (pool_setPool limited _ 0).trans (Watch.takeAll_eq _ _ _ _ _).1

theorem attended_arranged (arranged : system.Arranged)
    (present : system.watches[place]? = some watched) :
    (system.attended place watched).Arranged := by
  refine arranged.of_attend present (fun watch => { watch with
    isSynced := (Watch.takeAll 0 place watched.feed (system.pool 0) watched.isSynced
      ((system.unread watched.stream).take turnLimit)).2.1 }) ⟨rfl, rfl⟩ (fun synced => ?_)
    (by simp [attended]) (by simp [attended]) (by simp [attended])
  rw [Watch.takeAll_isSynced, synced, Bool.true_or]

theorem listen_eq (present : system.watches[place]? = some watched) (index : Nat) :
    system.listen index place =
      if system.isCancelled watched.context then system.endListening index place watched
      else if turnLimit ≤ (system.unread watched.stream).length then
        (system.attended place watched).note (.yielded index)
      else if ((system.streams[watched.stream]?).getD {}).hasWriter then
        system.attended place watched
      else (system.attended place watched).endListening index place watched := by
  have items : ((system.streams[watched.stream]?).getD {}).items =
      system.unread watched.stream := by
    simp only [System.unread]
    cases system.streams[watched.stream]? <;> rfl
  simp only [listen, present, attended, Stream.take, items]

/-- What a turn of its listener does to a watch. -/
theorem turn_hearing (tended : system.Tended []) (limited : 0 < system.limiters.length)
    (present : system.watches[place]? = some watched) (hears : system.heardBy index = some place) :
    Hearing place watched (system.appliedIn place (.turn index)) system (system.turn index) := by
  rcases heardBy_eq_some.mp hears with ⟨state, found, unfinished, unmarked, task⟩
  have turned : system.turn index = system.listen index place := by
    simp [turn, found, unfinished, unmarked, task]
  have attended := attended_hearing limited present
  simp only [turned, listen_eq present, appliedIn, present, hears, true_and]
  cases cancelled : system.isCancelled watched.context with
  | true =>
      simp only [if_true, Bool.true_eq_false, if_false]
      exact (Hearing.refl present).endListening tended.toArranged found task
  | false =>
      simp only [Bool.false_eq_true, if_false, if_true]
      split
      · exact attended.note rfl rfl
      · split
        · exact attended
        · exact attended.endListening (attended_arranged tended.toArranged present)
            (by simpa [System.attended] using found) task

theorem appliedIn_of_heard (hears : system.heardBy index = some place)
    (present : system.watches[place]? = some watched) :
    system.appliedIn place (.turn index) =
      if system.isCancelled watched.context then []
      else
        Watch.encounters (system.pool 0) ((system.unread watched.stream).take turnLimit) := by
  simp only [appliedIn, present, hears, true_and]
  cases system.isCancelled watched.context <;> rfl

theorem appliedIn_of_deaf {move : Move}
    (deaf : ∀ index, move = .turn index → system.heardBy index ≠ some place) :
    system.appliedIn place move = [] := by
  cases move with
  | turn index =>
      simp only [appliedIn, deaf index rfl, false_and, if_false]
      split <;> rfl
  | _ => rfl

/-! ### What is done for a watch -/

/-- What the registration and the listener of a watch publish in a move. -/
def newsIn (place : Nat) (system : System) : Move → List (Nat × Event)
  | .turn index =>
      if (system.turn index).tasks[index]?.bind (·.task.watch?) = some place then
        (system.turn index).news.drop system.news.length
      else []
  | _ => []

/-- The calls that the registration and the listener of a watch make in a move. -/
def callsIn (place : Nat) (system : System) : Move → List ReconcilerCall
  | .turn index =>
      if (system.turn index).tasks[index]?.bind (·.task.watch?) = some place then
        (system.turn index).calls.drop system.calls.length
      else []
  | _ => []

/-- A task that uses a watch after its turn is its registration, or has listened to it before. -/
theorem turn_serves (system : System) (index place : Nat)
    (serves : (system.turn index).tasks[index]?.bind (·.task.watch?) = some place) :
    ∃ state, system.tasks[index]? = some state ∧
      (state.task.isRegistration = true ∨ state.task = .listening place) := by
  rcases Option.bind_eq_some_iff.mp serves with ⟨later, present, uses⟩
  have advance := turn_advances system index
  cases original : system.tasks[index]? with
  | none =>
      rcases advance.started index later original present with ⟨-, state, found, -⟩
      rw [original] at found
      cases found
  | some state =>
      rcases advance.advances state original with ⟨same, found, advances, -⟩
      rw [present, Option.some.injEq] at found
      rw [← found] at advances
      refine ⟨state, rfl, ?_⟩
      cases task : later.task with
      | registration feed context watch =>
          rw [task] at advances
          exact Or.inl advances.isRegistration_eq.symm
      | listening watch =>
          rw [task] at advances uses
          cases uses
          exact Or.inr advances.eq_listening
      | _ =>
          rw [task] at uses
          cases uses

/-- Only a listener that attends to its watch does anything for it. -/
theorem turn_quiet_of_deaf
    (serves : (system.turn index).tasks[index]?.bind (·.task.watch?) = some place)
    (deaf : system.heardBy index ≠ some place) : system.Quiet (system.turn index) := by
  rcases turn_serves system index place serves with ⟨state, found, registers | listens⟩
  · exact turn_quiet_of_registration found registers
  · rcases turn_cases system index with same | ⟨other, present, unfinished⟩
    · exact .of_history (congrArg System.history same)
    · rw [found, Option.some.injEq] at present
      subst present
      by_cases marked : state.isAborted = true
      · rw [turn_of_isAborted found unfinished marked, listens]
        exact finish_quiet system index .aborted
      · exact absurd (heardBy_eq_some.mpr
          ⟨state, found, unfinished, by simpa using marked, listens⟩) deaf

theorem newsIn_of_deaf {move : Move}
    (deaf : ∀ index, move = .turn index → system.heardBy index ≠ some place) :
    system.newsIn place move = [] := by
  cases move with
  | turn index =>
      simp only [newsIn]
      split
      · rename_i serves
        rw [(turn_quiet_of_deaf serves (deaf index rfl)).news, List.drop_length]
      · rfl
  | _ => rfl

theorem callsIn_of_deaf {move : Move}
    (deaf : ∀ index, move = .turn index → system.heardBy index ≠ some place) :
    system.callsIn place move = [] := by
  cases move with
  | turn index =>
      simp only [callsIn]
      split
      · rename_i serves
        rw [(turn_quiet_of_deaf serves (deaf index rfl)).calls, List.drop_length]
      · rfl
  | _ => rfl

theorem serves_of_heard (hears : system.heardBy index = some place) :
    (system.turn index).tasks[index]?.bind (·.task.watch?) = some place := by
  rcases heardBy_eq_some.mp hears with ⟨state, found, -, -, task⟩
  rcases (turn_advances system index).advances state found with ⟨later, foundLater, advances, -⟩
  rw [task] at advances
  rw [foundLater, Option.bind_some, advances.listening_eq]
  rfl

theorem newsIn_of_heard (tended : system.Tended []) (limited : 0 < system.limiters.length)
    (present : system.watches[place]? = some watched) (hears : system.heardBy index = some place) :
    system.newsIn place (.turn index) =
      Watch.story watched.feed watched.isSynced (system.appliedIn place (.turn index)) := by
  simp only [newsIn, serves_of_heard hears, if_true]
  rw [(turn_hearing tended limited present hears).news, List.drop_left]

theorem callsIn_of_heard (tended : system.Tended []) (limited : 0 < system.limiters.length)
    (present : system.watches[place]? = some watched) (hears : system.heardBy index = some place) :
    system.callsIn place (.turn index) =
      (system.appliedIn place (.turn index)).flatMap Watch.calls := by
  simp only [callsIn, serves_of_heard hears, if_true]
  rw [(turn_hearing tended limited present hears).calls, List.drop_left]

end Hearings

end System

end Admission
