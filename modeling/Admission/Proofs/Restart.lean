import Admission.Proofs.Beginnings
import Admission.Proofs.Miscounts

/-!
# Restarts

A limiter that is set up anew has all of its tokens, although jobs that were started earlier may
still be running. A registration with a feed in memory then recounts them: the listener is sent the
resources that are there when the watch begins, in the order of their identifiers, and each
unfinished one claims a token as long as there is one. Whatever happens to the feed meanwhile is
sent behind the mark. If nobody else uses the pool, the event that announces the mark therefore
tells how many tokens the running jobs leave, and the events before it tell of the resources one by
one.
-/

namespace Admission

namespace MemoryFeed

/-- What a new watch is told about the resources that are there. -/
def listed (resources : List JobResource) : List FeedItem :=
  resources.map fun resource => .event (.added resource true)

/-- The events that tell of a snapshot, each with the tokens that are left by the unfinished
resources up to its own. -/
def recount (capacity : Nat) (snapshot : List JobResource) : List (Nat × Event) :=
  snapshot.mapIdx fun position resource =>
    (0,
      { kind := .resourceAdded, resource := some resource.uid, initialList := some true
        available :=
          some (capacity - min capacity (unfinished (snapshot.take (position + 1)))) })

section Counting

variable {capacity : Nat} {snapshot : List JobResource} {feed : String} {items more : List FeedItem}

theorem unfinished_concat (resources : List JobResource) (resource : JobResource) :
    unfinished (resources ++ [resource]) = unfinished resources + (!resource.isFinished).toNat := by
  rw [unfinished, List.countP_append, ← unfinished, ← unfinished, unfinished_cons]
  exact congrArg (unfinished resources + ·) (Nat.zero_add _)

theorem recount_concat (capacity : Nat) (snapshot : List JobResource) (resource : JobResource) :
    recount capacity (snapshot ++ [resource]) =
      recount capacity snapshot ++
        [(0, Reconciler.eventOf (capacity - min capacity (unfinished (snapshot ++ [resource])))
          (.added resource true))] := by
  -- The tokens left at a position depend on the resources up to it, and not on later ones.
  have earlier (position : Nat) (inside : position < snapshot.length) :
      (snapshot ++ [resource]).take (position + 1) = snapshot.take (position + 1) :=
    List.take_append_of_le_length inside
  have whole : (snapshot ++ [resource]).take (snapshot.length + 1) = snapshot ++ [resource] :=
    List.take_of_length_le (by simp)
  rw [recount, List.mapIdx_concat, whole]
  refine congrArg₂ (· ++ ·) (List.mapIdx_eq_mapIdx_iff.mpr fun position inside => ?_) rfl
  rw [earlier position inside]

/-- An unfinished resource claims a token as long as there is one. -/
theorem walk_added (capacity before : Nat) (resource : JobResource) :
    Pool.walk capacity (min capacity before) (.added resource true) =
      min capacity (before + (!resource.isFinished).toNat) := by
  rw [Pool.walk, ResourceEvent.weight]
  cases resource.isFinished with
  | true =>
      simp only [Bool.not_true, Bool.and_false, Bool.false_eq_true, if_false, Bool.toNat_false]
      omega
  | false =>
      simp only [Bool.not_false, Bool.and_true, if_true, Bool.toNat_true]
      omega

/-- A full pool, after all that is listed has been applied to it. -/
theorem foldl_listed (capacity : Nat) (resources : List JobResource) :
    (listed resources).foldl FeedItem.leaves (.full capacity) =
      .holding capacity (min capacity (unfinished resources)) := by
  induction resources using List.reverseRecOn with
  | nil => exact (Pool.full_eq_holding capacity).trans (congrArg _ (Nat.min_zero capacity).symm)
  | append_singleton resources resource ih =>
      rw [listed, List.map_append, List.foldl_append, ← listed, ih, unfinished_concat, ← walk_added]
      exact Reconciler.apply_holding (Nat.min_le_left _ _) 0 (.added resource true)

end Counting

end MemoryFeed

namespace Watch

section Replays

variable {feed : String} {items more : List FeedItem}

theorem encounters_append (pool : Pool) (items rest : List FeedItem) :
    encounters pool (items ++ rest) =
      encounters pool items ++ encounters (items.foldl FeedItem.leaves pool) rest := by
  induction items generalizing pool with
  | nil => rfl
  | cons item others ih => exact congrArg ((pool, item) :: ·) (ih (item.leaves pool))

/-- What is told of a change is not the announcement of a mark. -/
theorem kind_of_mem_tells {entries : List (Pool × FeedItem)} {told : Nat × Event}
    (member : told ∈ entries.flatMap tells) : told.2.kind ≠ .feedSynced := by
  rcases List.mem_flatMap.mp member with ⟨entry, -, tellsOf⟩
  have none := List.countP_eq_zero.mp (countP_tells entry) told tellsOf
  simpa using none

/-- A full pool to which a snapshot is applied is recounted. -/
theorem tells_listed (capacity : Nat) (snapshot : List JobResource) :
    (encounters (.full capacity) (MemoryFeed.listed snapshot)).flatMap tells =
      MemoryFeed.recount capacity snapshot := by
  induction snapshot using List.reverseRecOn with
  | nil => rfl
  | append_singleton snapshot resource ih =>
      have applied := Reconciler.apply_holding
        (Nat.min_le_left capacity (MemoryFeed.unfinished snapshot)) 0 (.added resource true)
      rw [MemoryFeed.walk_added, ← MemoryFeed.unfinished_concat] at applied
      rw [MemoryFeed.listed, List.map_append, encounters_append, List.flatMap_append,
        ← MemoryFeed.listed, ih, MemoryFeed.foldl_listed, MemoryFeed.recount_concat]
      simp only [List.map_cons, List.map_nil, encounters, List.flatMap_cons, List.flatMap_nil,
        tells, applied]
      rfl

theorem kind_of_mem_recount {capacity : Nat} {snapshot : List JobResource} {told : Nat × Event}
    (member : told ∈ MemoryFeed.recount capacity snapshot) : told.2.kind ≠ .feedSynced := by
  rw [← tells_listed] at member
  exact kind_of_mem_tells member

/-- A listener that has applied some of what follows from a replay has told a part of the recount,
or all of it with the mark next. -/
theorem story_of_replay (feed : String) (capacity : Nat) {snapshot : List JobResource}
    (within : items <+: MemoryFeed.listed snapshot ++ .synced :: more) :
    (.synced ∉ items ∧ story feed false (encounters (.full capacity) items) <+:
        MemoryFeed.recount capacity snapshot) ∨
      (.synced ∈ items ∧ ∃ later, story feed false (encounters (.full capacity) items) =
          MemoryFeed.recount capacity snapshot ++
            (0, Reconciler.syncedEvent feed
              (capacity - min capacity (MemoryFeed.unfinished snapshot))) :: later ∧
        ∀ told ∈ later, told.2.kind ≠ .feedSynced) := by
  have unmarked : .synced ∉ MemoryFeed.listed snapshot := by simp [MemoryFeed.listed]
  -- The listener is still at the resources, or it has read them all and maybe the mark.
  rcases List.prefix_or_prefix_of_prefix within (List.prefix_append _ _) with part | ⟨rest, all⟩
  · have none : .synced ∉ items := fun marked => unmarked (part.subset marked)
    refine Or.inl ⟨none, ?_⟩
    rcases part with ⟨rest, all⟩
    rw [story_of_unsynced (by rwa [encounters_items]), ← tells_listed, ← all, encounters_append,
      List.flatMap_append]
    exact List.prefix_append _ _
  · rw [← all, List.prefix_append_right_inj, List.prefix_cons_iff] at within
    rcases within with empty | ⟨later, split, -⟩
    · rw [← all, empty, List.append_nil]
      refine Or.inl ⟨unmarked, ?_⟩
      rw [story_of_unsynced (by rwa [encounters_items])]
      exact tells_listed capacity snapshot ▸ List.prefix_refl _
    · subst split
      subst all
      refine Or.inr ⟨by simp, (encounters (((MemoryFeed.listed snapshot).foldl FeedItem.leaves
        (.full capacity))) later).flatMap tells, ?_, fun told member => kind_of_mem_tells member⟩
      rw [encounters_append, encounters, story_of_mark (by rwa [encounters_items]), tells_listed,
        MemoryFeed.foldl_listed]
      rfl

end Replays

end Watch

/-! ### Feeds in order -/

/-- A feed in memory has its resources in the order of their identifiers. -/
def Feed.IsSorted : Feed → Prop
  | .memory feed => MemoryFeed.Sorted feed.resources
  | .scripted _ => True

namespace System

/-- All feeds in memory are in order. -/
def FeedsSorted (system : System) : Prop :=
  ∀ entry ∈ system.feeds, entry.2.IsSorted

namespace FeedsSorted

variable {system next : System} {index : Nat} {name : String}

theorem congr (sorted : system.FeedsSorted) (feeds : next.feeds = system.feeds) :
    next.FeedsSorted := by
  rw [FeedsSorted, feeds]
  exact sorted

theorem lookup (sorted : system.FeedsSorted) {source : Feed}
    (known : system.feeds.lookup name = some source) : source.IsSorted := by
  rcases List.lookup_eq_some_iff.mp known with ⟨early, late, split, -⟩
  exact sorted (name, source) (by simp [split])

theorem setFeed (sorted : system.FeedsSorted) (name : String) (source : Feed)
    (inOrder : source.IsSorted) : (system.setFeed name source).FeedsSorted := by
  intro entry member
  rcases List.mem_map.mp member with ⟨original, present, same⟩
  split at same
  · rw [← same]
    exact inOrder
  · rw [← same]
    exact sorted original present

theorem applyResource (sorted : system.FeedsSorted) (name : String) (resource : JobResource) :
    (system.applyResource name resource).FeedsSorted := by
  simp only [System.applyResource]
  split
  · rename_i feed found
    have before := sorted.lookup (lookup_of_memoryFeed? found)
    have kept := sorted.setFeed name (.memory (feed.apply system.isLive resource).1)
      (MemoryFeed.insert_sorted resource before)
    exact kept.congr (by simp)
  · exact sorted

theorem deleteResource (sorted : system.FeedsSorted) (name uid : String) :
    (system.deleteResource name uid).1.FeedsSorted := by
  simp only [System.deleteResource]
  split
  · rename_i feed found
    have before := sorted.lookup (lookup_of_memoryFeed? found)
    have after : MemoryFeed.Sorted (feed.delete system.isLive uid).1.resources := by
      simp only [MemoryFeed.delete]
      split
      · exact before
      · exact MemoryFeed.delete_sorted uid before
    exact (sorted.setFeed name (.memory _) after).congr (by simp)
  · exact sorted

theorem injectChange (sorted : system.FeedsSorted) (name : String) (change : ResourceEvent) :
    (system.injectChange name change).FeedsSorted := by
  simp only [System.injectChange]
  split
  · rename_i feed found
    have before := sorted.lookup (lookup_of_memoryFeed? found)
    have kept := sorted.setFeed name (.memory (feed.inject system.isLive change).1) before
    exact kept.congr (by simp)
  · exact sorted

theorem watchFeed (sorted : system.FeedsSorted) (name : String) (context : Context) :
    (system.watchFeed name context).1.FeedsSorted := by
  simp only [System.watchFeed]
  split
  · exact sorted
  · rename_i feed known
    have before := sorted.lookup known
    exact FeedsSorted.setFeed (sorted.congr rfl) name (.memory _) before
  · split
    · exact sorted
    · exact FeedsSorted.setFeed (sorted.congr rfl) name (.scripted _) trivial

theorem sendItem (sorted : system.FeedsSorted) (name : String) (item : FeedItem) :
    (system.sendItem name item).1.FeedsSorted := by
  simp only [System.sendItem]
  split
  · exact List.foldlRecOn (motive := fun later : System => later.FeedsSorted) _ _ sorted
      fun _ kept _ _ => kept.congr (by simp)
  · exact sorted

theorem closeFeed (sorted : system.FeedsSorted) (name : String) :
    (system.closeFeed name).FeedsSorted := by
  simp only [System.closeFeed]
  split
  · exact List.foldlRecOn (motive := fun later : System => later.FeedsSorted) _ _
      (sorted.setFeed name (.scripted _) trivial) fun _ kept _ _ => kept.congr (by simp)
  · exact sorted

theorem undergo (sorted : system.FeedsSorted) (happening : Happening) :
    (system.undergo happening).FeedsSorted := by
  cases happening with
  | applyResource feed resource => exact sorted.applyResource feed resource
  | deleteResource feed uid => exact sorted.deleteResource feed uid
  | injectChange feed change => exact sorted.injectChange feed change
  | watchFeed feed context => exact sorted.watchFeed feed context
  | sendItem feed item => exact sorted.sendItem feed item
  | closeFeed feed => exact sorted.closeFeed feed
  | _ => exact sorted.congr (by simp [System.undergo])

theorem proceeds (sorted : system.FeedsSorted) (proceeds : Proceeds index system next) :
    next.FeedsSorted := by
  induction proceeds with
  | unchanged => exact sorted
  | same _ same before => exact before.congr same.feeds
  | applyResource _ name resource before => exact before.applyResource name resource
  | attend _ _ _ _ _ _ _ _ change _ feeds _ _ _ before => exact before.congr feeds
  | refuse _ _ _ _ watching before =>
      rw [watchFeed_of_refused watching]
      exact before.congr (by simp)
  | @begin used _ _ name _ context _ _ _ _ _ watching deadline before =>
      have child : ({ used with
          cancellation := (used.cancellation.child context).1 } : System).FeedsSorted :=
        before.congr rfl
      have opened := child.watchFeed name (used.cancellation.child context).2
      rw [watching] at opened
      exact opened.congr (by simp [withListener])
  | _ =>
      rename_i before
      exact before.congr (by simp)

/-- No move disorders a feed. -/
theorem perform (sorted : system.FeedsSorted) (move : Move) :
    (system.perform move).FeedsSorted := by
  cases move with
  | turn index => exact sorted.proceeds (turn_proceeds system index)
  | drop index => exact sorted.proceeds (dropNow_proceeds system index)
  | elsewhere happening => exact sorted.undergo happening
  | tryAcquire place => exact sorted.congr rfl
  | tryRelease place => exact sorted.congr (by simp [System.perform, System.tryRelease])
  | reconcile change => exact sorted.congr (by simp [System.perform, System.reconcile])
  | _ => exact sorted.congr (by simp [System.perform])

theorem run (sorted : system.FeedsSorted) (moves : List Move) : (system.run moves).FeedsSorted := by
  induction moves generalizing system with
  | nil => exact sorted
  | cons move rest ih => exact ih (sorted.perform move)

end FeedsSorted

/-! ### Pools with one user -/

/-- The listener of a watch attends to it in a move. -/
def Attends (place : Nat) (system : System) : Move → Prop
  | .turn index => system.heardBy index = some place
  | _ => False

/-- Nobody but the listener of a watch changes the pool of the first limiter. -/
def SoleUser (place : Nat) : System → List Move → Prop
  | _, [] => True
  | system, move :: rest =>
      (system.Attends place move ∨ (system.perform move).pool 0 = system.pool 0) ∧
        SoleUser place (system.perform move) rest

/-- What a registration tells that finds a full pool and a snapshot of a feed in memory. -/
structure Recounts (start : System) (moves : List Move) (index place capacity : Nat)
    (snapshot : List JobResource) : Prop where
  ascending : MemoryFeed.Sorted snapshot
  /-- Before the feed is announced as synced, every resource is told of and nothing else. -/
  synced : ∀ before event after,
    start.gather (newsIn place) moves = before ++ event :: after → event.2.kind = .feedSynced →
    before = MemoryFeed.recount capacity snapshot ∧
      event = (0, Reconciler.syncedEvent MemoryFeed.name
        (capacity - min capacity (MemoryFeed.unfinished snapshot)))
  /-- Until then, the resources are told of one by one. -/
  counting : (∀ told ∈ start.gather (newsIn place) moves, told.2.kind ≠ .feedSynced) →
    start.gather (newsIn place) moves <+: MemoryFeed.recount capacity snapshot
  /-- A registration that has succeeded has announced the feed as synced. -/
  returned : (start.run moves).outcome? index = some (.registered (.ok ())) →
    ∃ told ∈ start.gather (newsIn place) moves, told.2.kind = .feedSynced

section Recounts

variable {start system : System} {moves early late : List Move} {index place capacity : Nat}
  {state : TaskState} {feed : String} {context : Context} {source : Feed} {deadline : Option Nat}

instance (place : Nat) (system : System) : DecidablePred (system.Attends place)
  | .turn index => inferInstanceAs (Decidable (system.heardBy index = some place))
  | .drop _ | .abort _ | .start _ | .tryAcquire _ | .tryRelease _ | .reconcile _
  | .elsewhere _ => inferInstanceAs (Decidable False)

instance decidableSoleUser (place : Nat) :
    (system : System) → (moves : List Move) → Decidable (system.SoleUser place moves)
  | _, [] => inferInstanceAs (Decidable True)
  | system, move :: rest =>
      have := decidableSoleUser place (system.perform move) rest
      inferInstanceAs (Decidable ((_ ∨ _) ∧ SoleUser place (system.perform move) rest))

theorem soleUser_append :
    system.SoleUser place (early ++ late) ↔
      system.SoleUser place early ∧ (system.run early).SoleUser place late := by
  induction early generalizing system with
  | nil => simp [SoleUser]
  | cons move rest ih => simp [SoleUser, ih, and_assoc]

theorem appliedIn_eq_encounters (system : System) (place : Nat) (move : Move) :
    system.appliedIn place move =
      Watch.encounters (system.pool 0) ((system.appliedIn place move).map (·.2)) := by
  cases move with
  | turn index =>
      simp only [appliedIn]
      split
      · split
        · rw [Watch.encounters_items]
        · rfl
      · rfl
  | _ => rfl

/-- A listener that is alone with the pool applies one item after the other to it. -/
theorem encounters_of_soleUser (new : start.IsNew) (limited : 0 < start.limiters.length)
    (orderly : start.Orderly moves) (sole : start.SoleUser place moves) :
    start.gather (appliedIn place) moves =
        Watch.encounters (start.pool 0) ((start.gather (appliedIn place) moves).map (·.2)) ∧
      (start.run moves).pool 0 =
        ((start.gather (appliedIn place) moves).map (·.2)).foldl FeedItem.leaves
          (start.pool 0) := by
  induction moves using List.reverseRecOn with
  | nil => exact ⟨rfl, rfl⟩
  | append_singleton moves move ih =>
      rw [orderly_append] at orderly
      rw [soleUser_append] at sole
      have before := ih orderly.1 sole.1
      have chronicle := chronicle_of_orderly new limited orderly.1
      -- A turn of the listener goes on from the pool that it has left, and no other move changes it.
      have pool : (start.run (moves ++ [move])).pool 0 =
          (((start.run moves).appliedIn place move).map (·.2)).foldl FeedItem.leaves
            ((start.run moves).pool 0) := by
        rw [run_append]
        by_cases attends : (start.run moves).Attends place move
        · cases move with
          | turn index =>
              rcases heardBy_eq_some.mp attends with ⟨state, found, -, -, task⟩
              rcases chronicle.tended.present index state place found (by rw [task]; rfl) with
                ⟨watched, present, -⟩
              exact (turn_hearing chronicle.tended chronicle.limited present attends).pool
          | _ => exact attends.elim
        · have deaf (index : Nat) (turns : move = .turn index) :
              (start.run moves).heardBy index ≠ some place := fun hears => attends (turns ▸ hears)
          rw [appliedIn_of_deaf deaf]
          exact sole.2.1.resolve_left attends
      rw [gather_concat, List.map_append, Watch.encounters_append, List.foldl_append, ← before.1,
        ← before.2, ← appliedIn_eq_encounters]
      exact ⟨rfl, pool⟩

/-- What is sent to a registration's watch begins with what its feed tells first. -/
theorem Begins.opens (new : start.IsNew) (limited : 0 < start.limiters.length)
    (orderly : start.Orderly (early ++ .turn index :: late))
    (begins : (start.run early).Begins index feed context source place deadline) :
    ∃ watched, (start.run (early ++ .turn index :: late)).watches[place]? = some watched ∧
      watched.feed = source.label ∧
      source.opening <+: start.collect (sentIn watched.stream) (early ++ .turn index :: late) := by
  have chronicle := chronicle_of_orderly new limited (orderly_append.mp orderly).1
  have persists := run_persists ((start.run early).turn index) late
  rcases persists.watches place _ begins.watch with ⟨watched, present, label, -, stream⟩
  refine ⟨watched, by rw [run_append]; exact present, label, ?_⟩
  -- The stream is new in this turn, so that nothing was sent on it before.
  have unsent := chronicle.unopened (start.run early).streams.size (Nat.le_refl _)
  rw [stream, collect_append, unsent, List.nil_append, collect, sentIn,
    unread_of_size_le (Nat.le_refl _), List.length_nil, List.drop_zero]
  change _ <+: ((start.run early).turn index).unread _ ++ _
  rw [begins.sent]
  exact List.prefix_append _ _

/-- A registration recounts what is there when its watch begins. -/
theorem recounts_of_orderly (new : start.IsNew) (limited : 0 < start.limiters.length)
    (full : start.pool 0 = .full capacity) (sorted : start.FeedsSorted)
    (orderly : start.Orderly moves) (sole : start.SoleUser place moves)
    (found : (start.run moves).tasks[index]? = some state)
    (task : state.task = .registration feed context (some (place, deadline))) :
    ∃ early late source, moves = early ++ .turn index :: late ∧
      (start.run early).Begins index feed context source place deadline ∧
      ∀ memory, source = .memory memory →
        start.Recounts moves index place capacity memory.resources := by
  rcases begins_of_run new.tasks orderly found task with ⟨early, late, source, split, begins⟩
  refine ⟨early, late, source, split, begins, ?_⟩
  rintro memory rfl
  have chronicle := chronicle_of_orderly new limited orderly
  have applied := (encounters_of_soleUser new limited orderly sole).1
  rcases begins.opens new limited (split ▸ orderly) with
    ⟨watched, present, label, more, opening⟩
  rw [← split] at present opening
  have logged := chronicle.logged place watched present
  have within := logged.within
  rw [← opening, show Feed.opening _ = MemoryFeed.listed memory.resources ++ [.synced] from rfl,
    List.append_assoc] at within
  have told := logged.told
  rw [applied, full] at told
  have story := Watch.story_of_replay watched.feed capacity within
  rw [← told] at story
  constructor
  case ascending => exact (sorted.run early).lookup begins.known
  case synced =>
    intro before event after parts announced
    have untold {events : List (Nat × Event)}
        (silent : ∀ told ∈ events, told.2.kind ≠ .feedSynced) : event ∉ events :=
      fun member => silent event member announced
    have recounted : event ∉ MemoryFeed.recount capacity memory.resources :=
      untold fun _ => Watch.kind_of_mem_recount
    rcases story with ⟨-, part⟩ | ⟨-, later, all, silent⟩
    · exact absurd (part.subset (by simp [parts])) recounted
    · rw [all, List.append_cons_inj_of_notMem recounted (untold silent)] at parts
      exact ⟨parts.1.symm, by rw [← parts.2.1, label]; rfl⟩
  case counting =>
    intro silent
    rcases story with ⟨-, part⟩ | ⟨-, later, all, -⟩
    · exact part
    · exact absurd rfl (silent _ (by rw [all]; exact List.mem_append_right _ List.mem_cons_self))
  case returned =>
    intro answered
    rcases chronicle.tended.present index state place found (by rw [task]; rfl) with
      ⟨same, alsoPresent, suits⟩
    rw [present, Option.some.injEq] at alsoPresent
    subst alsoPresent
    have outcome : state.outcome = some (.registered (.ok ())) := by
      simpa [outcome?, found] using answered
    have isSynced := (suits feed context (place, deadline) task).2 outcome
    rw [logged.synced, decide_eq_true_eq] at isSynced
    rcases story with ⟨unmarked, -⟩ | ⟨-, later, all, -⟩
    · exact absurd isSynced unmarked
    · exact ⟨_, by rw [all]; exact List.mem_append_right _ List.mem_cons_self, rfl⟩

/-- A limiter that is set up anew, with a feed of jobs that were started earlier. -/
def restarted : System :=
  { limiters := [{ pool := .full 2, next := "end" }]
    feeds :=
      [("jobs", .memory (.ofResources
        [.running "d" "d", .running "a" "a", .completed "b" "b", .running "c" "c"]))] }

/-- The feed changes after the watch began and before the listener has its turn. -/
def restarting : List Move :=
  [.elsewhere .createContext, .start (.registration "jobs" ⟨⟨0, 0⟩, []⟩ none), .turn 0,
    .elsewhere (.applyResource "jobs" (.running "e" "e")),
    .elsewhere (.deleteResource "jobs" "a"),
    .elsewhere (.injectChange "jobs" (.deleted (.running "f" "f"))), .turn 1, .turn 0]

theorem recounts_restarted :
    (restarted.FeedsSorted ∧ restarted.SoleUser 0 restarting ∧
        (restarted.run restarting).outcome? 0 = some (.registered (.ok ()))) ∧
      ∃ early late source, restarting = early ++ .turn 0 :: late ∧
        (restarted.run early).Begins 0 "jobs" ⟨⟨0, 0⟩, []⟩ source 0 none ∧
        ∀ memory, source = .memory memory →
          restarted.Recounts restarting 0 0 2 memory.resources := by
  have new : restarted.IsNew :=
    { tasks := rfl
      watches := rfl
      streams := rfl
      cancellation := rfl
      names := by decide
      unwatched := by simp [restarted, Feed.held, MemoryFeed.ofResources] }
  have sorted : restarted.FeedsSorted := by
    simp only [FeedsSorted, restarted, List.forall_mem_singleton]
    exact MemoryFeed.ofResources_sorted _
  have sole : restarted.SoleUser 0 restarting := by decide +kernel
  have found : (restarted.run restarting).tasks[0]? =
      some ⟨.registration "jobs" ⟨⟨0, 0⟩, []⟩ (some (0, none)), false,
        some (.registered (.ok ()))⟩ := rfl
  exact ⟨⟨sorted, sole, rfl⟩,
    recounts_of_orderly new (by decide) rfl sorted (by decide +kernel) sole found rfl⟩

/-- Two tokens do not cover three running jobs, and the changes are told after the mark. -/
example : (restarted.gather (newsIn 0) restarting).map
      (fun told => (told.2.kind, told.2.resource, told.2.available)) =
    [(.resourceAdded, some "a", some 1), (.resourceAdded, some "b", some 1),
      (.resourceAdded, some "c", some 0), (.resourceAdded, some "d", some 0),
      (.feedSynced, none, some 0), (.resourceAdded, some "e", some 0),
      (.resourceDeleted, some "a", some 1), (.resourceDeleted, some "f", some 2)] := by
  decide +kernel

end Recounts

end System

end Admission
