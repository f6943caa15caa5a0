import Admission.Proofs.Following
import Admission.Proofs.Pictures

/-!
# A watch mirrors the feed

A watch of the cluster's feed is sent the resources that are there, in ascending order, then the
mark that all of them have been told, and then one change for every call, until its context is
cancelled or its reader leaves. Other watches make no difference to it.

The systems of this file have the cluster's feed and no other. While somebody watches it, the feed
has the watcher once as long as the watch is live; a watch that is not live any more never is again.
-/

namespace Admission

namespace Happening

/-- Whether the reader of a stream leaves. -/
def drops (stream : Nat) : Happening → Bool
  | dropReader other => other == stream
  | _ => false

/-- Whether a stream is emptied: its reader takes what is there, or leaves. -/
def empties (stream : Nat) : Happening → Bool
  | readStream other | dropReader other => other == stream
  | _ => false

variable {happening : Happening} {stream : Nat}

theorem tells_of_empties (empties : happening.empties stream = true)
    (resources : List JobResource) : happening.tells resources = none := by
  cases happening <;> first | rfl | cases empties

theorem empties_of_drops (drops : happening.drops stream = true) :
    happening.empties stream = true := by
  cases happening <;> first | exact drops | cases drops

theorem drops_of_not_empties (stays : happening.empties stream = false) :
    happening.drops stream = false := by
  cases happening <;> first | exact stays | rfl

end Happening

namespace Cancellation

theorem cancelled_subset_cancelToken (state : Cancellation) (token : Nat) :
    state.cancelled ⊆ (state.cancelToken token).1.cancelled := by
  rcases state.cancelToken_cases token with same | ⟨told, same, -⟩
  · rw [same]
    exact List.Subset.refl _
  · rw [same]
    exact List.subset_append_right told _

theorem cancelled_subset_cancel (state : Cancellation) (context : Context)
    (cause : Option String) : state.cancelled ⊆ (state.cancel context cause).1.cancelled := by
  cases cause with
  | none => exact state.cancelled_subset_cancelToken context.token
  | some cause =>
      have recorded : (state.recordCause context cause).cancelled = state.cancelled := by
        simp only [recordCause]
        split <;> rfl
      rw [← recorded]
      exact cancelled_subset_cancelToken _ context.token

end Cancellation

namespace System

/-- The items of a stream that nobody has read. -/
def unread (system : System) (stream : Nat) : List FeedItem :=
  (system.streams[stream]?.map (·.items)).getD []

/-- The items that a step puts into a stream. -/
def sentIn (stream : Nat) (before after : System) : List FeedItem :=
  (after.unread stream).drop (before.unread stream).length

/-- What happens until the context of a watch is cancelled or its reader leaves. -/
def heeded (watcher : Watcher) : System → List Happening → List Happening
  | _, [] => []
  | system, happening :: rest =>
      if system.isCancelled watcher.context || happening.drops watcher.stream then []
      else happening :: heeded watcher (system.undergo happening) rest

section Steps

variable {system : System} {watcher : Watcher} {feed : MemoryFeed} {stream : Stream}

/-! ### Contexts -/

/-- What is cancelled stays cancelled. -/
theorem undergo_cancelled_subset (system : System) (happening : Happening) :
    system.cancellation.cancelled ⊆ (system.undergo happening).cancellation.cancelled := by
  have sparing (spared : happening.cancels? = none) :
      system.cancellation.cancelled ⊆ (system.undergo happening).cancellation.cancelled := by
    have spares : SparesWards (fun _ => False) system (system.undergo happening) := by
      refine undergo_sparesWards system fun context cancels => ?_
      rw [spared] at cancels
      cases cancels
    exact spares.cancelled_subset
  cases happening with
  | cancel context cause =>
      simp only [undergo, cancel_cancellation]
      exact Cancellation.cancelled_subset_cancel _ context cause
  | cancelToken context =>
      simp only [undergo, cancelToken_cancellation]
      exact Cancellation.cancelled_subset_cancelToken _ context.token
  | _ => exact sparing rfl

theorem undergo_isCancelled {context : Context} (cancelled : system.isCancelled context = true)
    (happening : Happening) : (system.undergo happening).isCancelled context = true := by
  simp only [isCancelled, Cancellation.isCancelled, Cancellation.tokenCancelled,
    List.contains_iff_mem] at cancelled ⊢
  exact undergo_cancelled_subset system happening cancelled

/-! ### Streams -/

theorem unread_of_found {index : Nat} (found : system.streams[index]? = some stream) :
    system.unread index = stream.items := by
  simp [unread, found]

/-- What is delivered to a stream is added to its items, and it is closed if it is given up. -/
theorem deliver_found {index : Nat} (found : system.streams[index]? = some stream)
    (broadcast : Broadcast) :
    (system.deliver broadcast).streams[index]? =
      some
        { stream with
          items := stream.items ++
            (broadcast.told.filter fun entry => entry.1.stream == index).map
              fun entry => .event entry.2
          hasWriter := stream.hasWriter && !broadcast.givenUp.any (·.stream == index) } := by
  have left (givenUp : List Watcher) {before : System} {kept : Stream}
      (present : before.streams[index]? = some kept) :
      (givenUp.foldl (fun system watcher =>
        (system.tellStream watcher.stream Stream.endWriting).dropContext watcher.context)
          before).streams[index]? =
        some { kept with hasWriter := kept.hasWriter && !givenUp.any (·.stream == index) } := by
    induction givenUp generalizing before kept with
    | nil => simp [present]
    | cons watcher rest ih =>
        have stepped : ((before.tellStream watcher.stream Stream.endWriting).dropContext
            watcher.context).streams[index]? =
              some { kept with hasWriter := kept.hasWriter && !(watcher.stream == index) } := by
          by_cases own : watcher.stream = index
          · simp [Array.getElem?_modify, present, own, Stream.endWriting]
          · have apart := beq_eq_false_iff_ne.mpr own
            simp [Array.getElem?_modify, present, own, apart]
        rw [List.foldl_cons, ih stepped]
        simp [Bool.and_assoc]
  simp only [deliver, told_streams, left broadcast.givenUp found]
  rfl

/-! ### One watch -/

/-- The feed has a watcher, or the watch is not live any more. -/
structure Watched (system : System) (watcher : Watcher) (feed : MemoryFeed) (stream : Stream) : Prop
    extends system.HasFeed feed where
  found : system.streams[watcher.stream]? = some stream
  alone : feed.watchers.filter (fun other => other.stream == watcher.stream) = [watcher] ∨
    (feed.watchers.filter (fun other => other.stream == watcher.stream) = [] ∧
      system.isLive watcher = false)

theorem Watched.isLive_eq (watched : system.Watched watcher feed stream) :
    system.isLive watcher = (!system.isCancelled watcher.context && stream.hasReader) := by
  simp [isLive, watched.found]

/-- What happens to a watch: it is told what there is to tell if it is live. -/
structure Hears (system : System) (watcher : Watcher) (feed : MemoryFeed) (stream : Stream)
    (happening : Happening) (nextFeed : MemoryFeed) (nextStream : Stream) : Prop where
  watched : (system.undergo happening).Watched watcher nextFeed nextStream
  resources : nextFeed.resources = happening.leaves feed.resources
  items : nextStream.items =
    (if happening.empties watcher.stream then [] else stream.items) ++
      if system.isLive watcher then (happening.tells feed.resources).toList.map .event else []
  hasReader : nextStream.hasReader = (stream.hasReader && !happening.drops watcher.stream)
  /-- The feed gives up a watcher that is not live when there is something to tell. -/
  watchers : nextFeed.watchers.filter (fun other => other.stream == watcher.stream) =
    (feed.watchers.filter fun other => other.stream == watcher.stream).filter fun other =>
      (happening.tells feed.resources).isNone || system.isLive other
  hasWriter : nextStream.hasWriter =
    (stream.hasWriter &&
      (feed.watchers.filter fun other => other.stream == watcher.stream).all fun other =>
        (happening.tells feed.resources).isNone || system.isLive other)

theorem Hears.sent {happening : Happening} {nextFeed : MemoryFeed} {nextStream : Stream}
    (hears : Hears system watcher feed stream happening nextFeed nextStream) :
    nextStream.items.drop stream.items.length =
      if system.isLive watcher then (happening.tells feed.resources).toList.map .event else [] := by
  rw [hears.items]
  cases empties : happening.empties watcher.stream with
  | true => simp [Happening.tells_of_empties empties]
  | false => exact List.drop_left

namespace Watched

variable {next : System} {happening : Happening}

/-- Once the watch is not live, it stays so. -/
theorem isLive_of_undergo (watched : system.Watched watcher feed stream) {nextStream : Stream}
    (found : (system.undergo happening).streams[watcher.stream]? = some nextStream)
    (reading : nextStream.hasReader = true → stream.hasReader = true)
    (dead : system.isLive watcher = false) :
    (system.undergo happening).isLive watcher = false := by
  rw [watched.isLive_eq] at dead
  simp only [isLive, found, Option.map_some, Option.getD_some]
  cases cancelled : system.isCancelled watcher.context with
  | true => rw [undergo_isCancelled cancelled happening, Bool.not_true, Bool.false_and]
  | false =>
      have unread : stream.hasReader = false := by simpa [cancelled] using dead
      have gone : nextStream.hasReader = false := by
        cases still : nextStream.hasReader with
        | false => rfl
        | true => rw [reading still] at unread; cases unread
      rw [gone, Bool.and_false]

/-- A happening that leaves the feed as it is and tells nothing. -/
theorem hears_of_streams (watched : system.Watched watcher feed stream) {nextStream : Stream}
    (leaves : happening.leaves feed.resources = feed.resources)
    (tells : happening.tells feed.resources = none)
    (feeds : (system.undergo happening).feeds = system.feeds)
    (size : system.streams.size ≤ (system.undergo happening).streams.size)
    (found : (system.undergo happening).streams[watcher.stream]? = some nextStream)
    (items : nextStream.items = if happening.empties watcher.stream then [] else stream.items)
    (hasReader : nextStream.hasReader = (stream.hasReader && !happening.drops watcher.stream))
    (hasWriter : nextStream.hasWriter = stream.hasWriter) :
    Hears system watcher feed stream happening feed nextStream where
  watched :=
    { toHasFeed := watched.toHasFeed.congr feeds size
      found
      alone := by
        refine watched.alone.imp_right fun gone => ⟨gone.1, ?_⟩
        refine watched.isLive_of_undergo found (fun reading => ?_) gone.2
        rw [hasReader, Bool.and_eq_true] at reading
        exact reading.1 }
  resources := leaves.symm
  items := by simp [items, tells]
  hasReader
  watchers := by simp [tells]
  hasWriter := by simp [hasWriter, tells]

theorem hears_of_eq (watched : system.Watched watcher feed stream)
    (leaves : happening.leaves feed.resources = feed.resources)
    (tells : happening.tells feed.resources = none)
    (feeds : (system.undergo happening).feeds = system.feeds)
    (streams : (system.undergo happening).streams = system.streams)
    (stays : happening.empties watcher.stream = false) :
    Hears system watcher feed stream happening feed stream :=
  watched.hears_of_streams leaves tells feeds (by simp [streams]) (by rw [streams, watched.found])
    (by simp [stays]) (by simp [Happening.drops_of_not_empties stays]) rfl

/-- A call to another feed. -/
theorem hears_of_other (watched : system.Watched watcher feed stream)
    (call : happening.isCall = false)
    (feeds : (system.undergo happening).feeds = system.feeds)
    (streams : (system.undergo happening).streams = system.streams)
    (stays : happening.empties watcher.stream = false) :
    Hears system watcher feed stream happening feed stream :=
  watched.hears_of_eq (Happening.leaves_of_not_isCall call) (Happening.tells_of_not_isCall call)
    feeds streams stays

/-- A change is told to the watcher once, if the watch is live. -/
theorem hears_of_announce (watched : system.Watched watcher feed stream)
    (happening : Happening) {resources : List JobResource} {change : ResourceEvent}
    (announced : system.undergo happening = system.announce feed resources change)
    (sorted : MemoryFeed.Sorted resources)
    (leaves : happening.leaves feed.resources = resources)
    (tells : happening.tells feed.resources = some change)
    (stays : happening.empties watcher.stream = false) :
    ∃ nextStream, Hears system watcher feed stream happening
      { resources, watchers := feed.watchers.filter system.isLive } nextStream := by
  have kept : (feed.watchers.filter system.isLive).filter
      (fun other => other.stream == watcher.stream) =
        if system.isLive watcher then [watcher] else [] := by
    rw [List.filter_comm]
    rcases watched.alone with alone | ⟨none, dead⟩
    · rw [alone]
      cases live : system.isLive watcher <;> simp [live]
    · rw [none, dead]
      rfl
  have present : (system.setFeed clusterFeed (.memory
      ({ feed with resources }.broadcast system.isLive change).1)).streams[watcher.stream]? =
        some stream := watched.found
  have delivered := deliver_found present
    ({ feed with resources }.broadcast system.isLive change).2
  have told : (({ feed with resources } : MemoryFeed).broadcast system.isLive change).2.told.filter
      (fun entry => entry.1.stream == watcher.stream) =
        (if system.isLive watcher then [watcher] else []).map fun watcher => (watcher, change) := by
    simp only [MemoryFeed.broadcast]
    rw [List.filter_map, ← kept]
    rfl
  have later := (congrArg (·.streams[watcher.stream]?) announced).trans delivered
  refine ⟨_, ⟨?_, later, ?_⟩, leaves.symm, ?_, ?_, ?_, ?_⟩
  · rw [announced]
    exact watched.toHasFeed.announce sorted change
  · rw [kept]
    cases live : system.isLive watcher with
    | true => exact Or.inl rfl
    | false => exact Or.inr ⟨rfl, watched.isLive_of_undergo later id live⟩
  · rw [told, tells, stays]
    cases system.isLive watcher <;> rfl
  · simp [Happening.drops_of_not_empties stays]
  · rw [tells, List.filter_comm]
    rfl
  · rw [tells]
    simp [MemoryFeed.broadcast, List.any_filter, List.all_filter, List.not_any_eq_all_not,
      Bool.or_comm]

/-- A stream is emptied, and its reader may leave. -/
theorem hears_of_emptied (watched : system.Watched watcher feed stream) (index : Nat)
    (change : Stream → Stream) (emptied : (change stream).items = [])
    (hasWriter : (change stream).hasWriter = stream.hasWriter)
    (empties : happening.empties watcher.stream = (index == watcher.stream))
    (call : happening.isCall = false)
    (feeds : (system.undergo happening).feeds = system.feeds)
    (streams : (system.undergo happening).streams = system.streams.modify index change)
    (hasReader : (if index = watcher.stream then (change stream).hasReader else stream.hasReader) =
      (stream.hasReader && !happening.drops watcher.stream)) :
    ∃ nextFeed nextStream, Hears system watcher feed stream happening nextFeed nextStream := by
  by_cases same : index = watcher.stream
  · refine ⟨feed, change stream, watched.hears_of_streams (Happening.leaves_of_not_isCall call)
      (Happening.tells_of_not_isCall call) feeds (by simp [streams]) ?_ ?_ ?_ hasWriter⟩
    · simp [streams, Array.getElem?_modify, same, watched.found]
    · simp [emptied, empties, same]
    · simpa [same] using hasReader
  · refine ⟨feed, stream, watched.hears_of_streams (Happening.leaves_of_not_isCall call)
      (Happening.tells_of_not_isCall call) feeds (by simp [streams]) ?_ ?_ ?_ rfl⟩
    · simp [streams, Array.getElem?_modify, same, watched.found]
    · simp [empties, same]
    · simpa [same] using hasReader

/-- Somebody else watches the feed on a stream of its own. -/
theorem hears_of_watchFeed (watched : system.Watched watcher feed stream) (context : Context) :
    Hears system watcher feed stream (.watchFeed clusterFeed context)
      (feed.addWatcher ⟨context, system.streams.size⟩) stream := by
  have inside := (Array.getElem?_eq_some_iff.mp watched.found).1
  have apart : (system.streams.size == watcher.stream) = false :=
    beq_eq_false_iff_ne.mpr (Nat.ne_of_gt inside)
  have same : (feed.addWatcher ⟨context, system.streams.size⟩).watchers.filter
      (fun other => other.stream == watcher.stream) =
        feed.watchers.filter (fun other => other.stream == watcher.stream) := by
    rw [MemoryFeed.addWatcher, List.filter_append, List.filter_cons_of_neg (by simp [apart]),
      List.filter_nil, List.append_nil]
  have tells : (Happening.watchFeed clusterFeed context).tells feed.resources = none := rfl
  refine ⟨?_, rfl, by simp [Happening.empties, tells], by simp [Happening.drops],
    by simp [same, tells], by simp [tells]⟩
  · have found : (system.undergo (.watchFeed clusterFeed context)).streams[watcher.stream]? =
        some stream := by
      simp only [System.undergo, System.watchFeed, watched.feeds, List.lookup_cons, BEq.rfl,
        setFeed_frame, holdContext_frame, newStream_frame]
      rw [Array.getElem?_push, if_neg (Nat.ne_of_lt inside), watched.found]
    refine ⟨watched.toHasFeed.watchFeed context, found, ?_⟩
    rw [same]
    exact watched.alone.imp_right fun gone =>
      ⟨gone.1, watched.isLive_of_undergo found (fun reading => reading) gone.2⟩

/-- Whatever happens, the watch is told what there is to tell as long as it is live. -/
theorem undergo (watched : system.Watched watcher feed stream) (happening : Happening) :
    ∃ nextFeed nextStream, Hears system watcher feed stream happening nextFeed nextStream := by
  cases happening with
  | applyResource name resource =>
      by_cases same : name = clusterFeed
      · subst same
        have sorted := MemoryFeed.insert_sorted resource watched.sorted
        rcases watched.applyResource_eq resource with ⟨change, announced, present⟩
        have tells : (Happening.applyResource clusterFeed resource).tells feed.resources =
            some change := by
          simp only [Happening.tells, if_true]
          rcases present with ⟨previous, found, rfl⟩ | ⟨absent, rfl⟩
          · rw [show Picture.ofResources feed.resources resource.uid = some previous from found]
          · rw [show Picture.ofResources feed.resources resource.uid = none from absent]
        rcases watched.hears_of_announce (.applyResource clusterFeed resource) announced sorted
          (by simp [Happening.leaves]) tells rfl with ⟨nextStream, hears⟩
        exact ⟨_, nextStream, hears⟩
      · refine ⟨feed, stream, watched.hears_of_other ?_ ?_ ?_ rfl⟩ <;>
          simp [System.undergo, Happening.isCall, applyResource, System.memoryFeed?,
            watched.lookup_other same, same]
  | deleteResource name uid =>
      by_cases same : name = clusterFeed
      · subst same
        rcases watched.deleteResource_eq uid with
          ⟨absent, feeds, streams⟩ | ⟨previous, present, announced⟩
        · have missing : Picture.ofResources feed.resources uid = none := absent
          refine ⟨feed, stream, watched.hears_of_eq ?_ ?_ feeds streams rfl⟩
          · simpa [Happening.leaves] using Picture.delete_of_absent missing
          · simp [Happening.tells, missing]
        · have sorted := MemoryFeed.delete_sorted uid watched.sorted
          have tells : (Happening.deleteResource clusterFeed uid).tells feed.resources =
              some (.deleted previous) := by
            simp only [Happening.tells, if_true]
            rw [show Picture.ofResources feed.resources uid = some previous from present]
            rfl
          rcases watched.hears_of_announce (.deleteResource clusterFeed uid) announced sorted
            (by simp [Happening.leaves]) tells rfl with ⟨nextStream, hears⟩
          exact ⟨_, nextStream, hears⟩
      · refine ⟨feed, stream, watched.hears_of_other ?_ ?_ ?_ rfl⟩ <;>
          simp [System.undergo, Happening.isCall, System.deleteResource, System.memoryFeed?,
            watched.lookup_other same, same]
  | injectChange name change =>
      by_cases same : name = clusterFeed
      · subst same
        rcases watched.hears_of_announce (.injectChange clusterFeed change)
          (watched.injectChange_eq change) watched.sorted rfl (by simp [Happening.tells]) rfl with
          ⟨nextStream, hears⟩
        exact ⟨_, nextStream, hears⟩
      · refine ⟨feed, stream, watched.hears_of_other ?_ ?_ ?_ rfl⟩ <;>
          simp [System.undergo, Happening.isCall, System.injectChange, System.memoryFeed?,
            watched.lookup_other same, same]
  | watchFeed name context =>
      by_cases same : name = clusterFeed
      · subst same
        exact ⟨_, stream, watched.hears_of_watchFeed context⟩
      · refine ⟨feed, stream, watched.hears_of_other rfl ?_ ?_ rfl⟩ <;>
          simp [System.undergo, System.watchFeed, watched.lookup_other same]
  | readStream index =>
      exact watched.hears_of_emptied index (fun stream => stream.takeAll.1) rfl rfl rfl rfl rfl rfl
        (by simp [Happening.drops, Stream.takeAll])
  | dropReader index =>
      refine watched.hears_of_emptied index Stream.endReading rfl rfl rfl rfl rfl rfl ?_
      by_cases same : index = watcher.stream <;> simp [Happening.drops, Stream.endReading, same]
  | sendItem name item =>
      refine ⟨feed, stream, watched.hears_of_other rfl ?_ ?_ rfl⟩ <;>
        simp [System.undergo, watched.sendItem_eq]
  | closeFeed name =>
      refine ⟨feed, stream, watched.hears_of_other rfl ?_ ?_ rfl⟩ <;>
        simp [System.undergo, watched.closeFeed_eq]
  | _ =>
      exact ⟨feed, stream, watched.hears_of_other rfl (by simp [System.undergo])
        (by simp [System.undergo]) rfl⟩

end Watched

end Steps

/-! ### Runs -/

section Runs

variable {system : System} {watcher : Watcher} {feed : MemoryFeed} {stream : Stream}

theorem HasFeed.run (has : system.HasFeed feed) (happenings : List Happening) :
    ∃ later, (system.run (happenings.map .elsewhere)).HasFeed later := by
  induction happenings generalizing system feed with
  | nil => exact ⟨feed, has⟩
  | cons happening rest ih =>
      rcases has.undergo happening with ⟨next, kept⟩
      exact ih kept

theorem run_isCancelled {context : Context} (cancelled : system.isCancelled context = true)
    (happenings : List Happening) :
    (system.run (happenings.map .elsewhere)).isCancelled context = true := by
  induction happenings generalizing system with
  | nil => exact cancelled
  | cons happening rest ih => exact ih (undergo_isCancelled cancelled happening)

/-- A watch that is live in the end has been live all the time. -/
theorem heeded_eq_self {happenings : List Happening}
    (reading : ∀ happening ∈ happenings, happening.drops watcher.stream = false)
    (live : (system.run (happenings.map .elsewhere)).isCancelled watcher.context = false) :
    heeded watcher system happenings = happenings := by
  induction happenings generalizing system with
  | nil => rfl
  | cons happening rest ih =>
      have uncancelled : system.isCancelled watcher.context = false := by
        cases cancelled : system.isCancelled watcher.context with
        | false => rfl
        | true => rw [run_isCancelled cancelled] at live; cases live
      have stays := reading happening List.mem_cons_self
      simp only [heeded, uncancelled, stays, Bool.or_false, Bool.false_eq_true, if_false]
      exact congrArg (happening :: ·)
        (ih (fun other member => reading other (List.mem_cons_of_mem happening member)) live)

theorem heeded_subset (watcher : Watcher) (system : System) (happenings : List Happening) :
    heeded watcher system happenings ⊆ happenings := by
  induction happenings generalizing system with
  | nil => exact List.Subset.refl _
  | cons happening rest ih =>
      simp only [heeded]
      split
      · exact List.nil_subset _
      · exact List.cons_subset_cons happening (ih _)

theorem HasFeed.deleteResource_snd (has : system.HasFeed feed) (uid : String) :
    (system.deleteResource clusterFeed uid).2 = feed.get? uid := by
  simp only [deleteResource, has.memoryFeed?, MemoryFeed.delete]
  cases feed.get? uid <;> rfl

namespace Watched

/-- The feed has the resources that the calls leave. -/
theorem run (watched : system.Watched watcher feed stream) (happenings : List Happening) :
    (system.run (happenings.map .elsewhere)).cluster.resources =
      happenings.foldl (fun resources happening => happening.leaves resources) feed.resources := by
  induction happenings generalizing system feed stream with
  | nil => simp [watched.cluster_eq]
  | cons happening rest ih =>
      rcases watched.undergo happening with ⟨nextFeed, nextStream, hears⟩
      rw [List.foldl_cons, ← hears.resources]
      exact ih hears.watched

/-- Nothing is sent on a watch that is not live. -/
theorem sent_of_dead (watched : system.Watched watcher feed stream)
    (dead : system.isLive watcher = false) (happenings : List Happening) :
    system.collect (sentIn watcher.stream) (happenings.map .elsewhere) = [] := by
  induction happenings generalizing system feed stream with
  | nil => rfl
  | cons happening rest ih =>
      rcases watched.undergo happening with ⟨nextFeed, nextStream, hears⟩
      have still := watched.isLive_of_undergo hears.watched.found
        (fun reading => by simp_all [hears.hasReader]) dead
      have sent := hears.sent
      rw [dead] at sent
      simp only [List.map_cons, collect, perform, ih hears.watched still, List.append_nil, sentIn,
        unread_of_found watched.found, unread_of_found hears.watched.found]
      exact sent

/-- On a watch that is live, everything is sent that is told until it is not live any more. -/
theorem sent_of_live (watched : system.Watched watcher feed stream)
    (reading : stream.hasReader = true) (happenings : List Happening) :
    system.collect (sentIn watcher.stream) (happenings.map .elsewhere) =
      (Happening.told feed.resources (heeded watcher system happenings)).map .event := by
  induction happenings generalizing system feed stream with
  | nil => rfl
  | cons happening rest ih =>
      cases cancelled : system.isCancelled watcher.context with
      | true =>
          have dead : system.isLive watcher = false := by simp [watched.isLive_eq, cancelled]
          rw [watched.sent_of_dead dead]
          simp [heeded, cancelled, Happening.told]
      | false =>
          have live : system.isLive watcher = true := by
            simp [watched.isLive_eq, cancelled, reading]
          rcases watched.undergo happening with ⟨nextFeed, nextStream, hears⟩
          have sent : sentIn watcher.stream system (system.undergo happening) =
              (happening.tells feed.resources).toList.map .event := by
            have told := hears.sent
            rw [live] at told
            rw [sentIn, unread_of_found watched.found, unread_of_found hears.watched.found]
            exact told
          have hasReader := hears.hasReader
          simp only [List.map_cons, collect, perform, sent, heeded, cancelled, Bool.false_or]
          cases drops : happening.drops watcher.stream with
          | true =>
              rw [reading, drops] at hasReader
              have dead : (system.undergo happening).isLive watcher = false := by
                rw [hears.watched.isLive_eq, hasReader, Bool.not_true, Bool.and_false,
                  Bool.and_false]
              have silent : happening.tells feed.resources = none :=
                Happening.tells_of_empties (Happening.empties_of_drops drops) _
              rw [hears.watched.sent_of_dead dead, silent]
              rfl
          | false =>
              rw [reading, drops] at hasReader
              rw [ih hears.watched hasReader, hears.resources]
              simp [Happening.told]

end Watched

end Runs

end System

/-- A watch that begins is the only one of its stream. -/
theorem System.HasFeed.alone_addWatcher {system : System} {feed : MemoryFeed}
    (has : system.HasFeed feed) (context : Context) :
    (feed.addWatcher ⟨context, system.streams.size⟩).watchers.filter
      (fun other => other.stream == system.streams.size) = [⟨context, system.streams.size⟩] := by
  have others : feed.watchers.filter (fun other => other.stream == system.streams.size) = [] := by
    apply List.filter_eq_nil_iff.mpr
    intro watcher member same
    have inside := has.streamed watcher member
    rw [beq_iff_eq.mp same] at inside
    exact Nat.lt_irrefl _ inside
  rw [MemoryFeed.addWatcher, List.filter_append, others]
  simp

/-! ### The whole watch -/

/-- A course of happenings around the beginning of a watch of the cluster's feed. -/
structure Vigil where
  /-- What there is besides the cluster's feed. -/
  start : System
  /-- What the cluster's feed has at first. -/
  resources : List JobResource
  before : List Happening
  /-- The context of the watch. -/
  context : Context
  after : List Happening

namespace Vigil

variable (vigil : Vigil)

/-- The system in which the watch begins. -/
def opened : System :=
  { vigil.start with
      feeds := [(System.clusterFeed, .memory (.ofResources vigil.resources))] }.run
    (vigil.before.map .elsewhere)

/-- Where the items of the watch go. -/
def stream : Nat :=
  vigil.opened.streams.size

/-- The system right after the beginning of the watch. -/
def begun : System :=
  vigil.opened.perform (.elsewhere (.watchFeed System.clusterFeed vigil.context))

def closed : System :=
  vigil.begun.run (vigil.after.map .elsewhere)

/-- The items that are sent on the watch. -/
def sent : List FeedItem :=
  vigil.opened.collect (System.sentIn vigil.stream)
    (.elsewhere (.watchFeed System.clusterFeed vigil.context) :: vigil.after.map .elsewhere)

/-- What the feed has when the watch begins. -/
def snapshot : List JobResource :=
  vigil.opened.cluster.resources

/-- What happens while the watch is live. -/
def heeded : List Happening :=
  System.heeded ⟨vigil.context, vigil.stream⟩ vigil.begun vigil.after

/-- A watch mirrors the feed. -/
structure Mirrors : Prop where
  /-- The watch succeeds. -/
  opens : (vigil.opened.watchFeed System.clusterFeed vigil.context).2 =
    .ok (MemoryFeed.name, vigil.stream)
  /-- It is sent what was there, then one mark, and then what each call tells while it is live. -/
  sent : vigil.sent =
    (vigil.snapshot.map fun resource => .event (.added resource true)) ++
      .synced :: (Happening.told vigil.snapshot vigil.heeded).map .event
  ascending : vigil.snapshot.Pairwise fun first second => first.uid < second.uid
  /-- The calls leave in the feed what they should, and a deletion returns what it takes out. -/
  stored : ∀ early, early <+: vigil.after →
    (vigil.begun.run (early.map .elsewhere)).cluster.resources =
      early.foldl (fun resources happening => happening.leaves resources) vigil.snapshot
  deleted : ∀ early uid, early ++ [.deleteResource System.clusterFeed uid] <+: vigil.after →
    ((vigil.begun.run (early.map .elsewhere)).deleteResource System.clusterFeed uid).2 =
      Picture.ofResources
        (early.foldl (fun resources happening => happening.leaves resources) vigil.snapshot) uid
  /-- Other watches make no difference, nor does anything else. -/
  independent : ∀ other : Vigil, other.snapshot = vigil.snapshot →
    other.heeded.filter Happening.isCall = vigil.heeded.filter Happening.isCall →
    other.sent = vigil.sent
  /-- What is sent fits the picture that it leaves. -/
  fits : (∀ happening ∈ vigil.after, happening.InjectsNoise) →
    Picture.blank.FitsAll vigil.sent
  /-- While the watch is live, that picture is the feed. -/
  shows : (∀ happening ∈ vigil.after, happening.InjectsNoise) →
    (∀ happening ∈ vigil.after, happening.drops vigil.stream = false) →
    vigil.closed.isCancelled vigil.context = false →
    vigil.sent.foldl Picture.see Picture.blank =
      Picture.ofResources vigil.closed.cluster.resources

theorem opened_hasFeed : ∃ feed, vigil.opened.HasFeed feed :=
  System.HasFeed.run
    { feeds := rfl
      sorted := MemoryFeed.ofResources_sorted vigil.resources
      streamed := fun _ member => by cases member }
    vigil.before

section Opened

variable {vigil : Vigil} {feed : MemoryFeed}

theorem snapshot_eq (has : vigil.opened.HasFeed feed) : vigil.snapshot = feed.resources := by
  rw [snapshot, has.cluster_eq]

/-- The watch begins with a stream of its own. -/
theorem begun_watched (has : vigil.opened.HasFeed feed) :
    vigil.begun.Watched ⟨vigil.context, vigil.stream⟩
      (feed.addWatcher ⟨vigil.context, vigil.stream⟩) { items := feed.replay } where
  toHasFeed := has.watchFeed vigil.context
  found := by
    simp [begun, stream, System.perform, System.undergo, System.watchFeed, has.feeds]
  alone := Or.inl (has.alone_addWatcher vigil.context)

/-- The watch is sent what is there, and then what comes after. -/
theorem sent_begun (has : vigil.opened.HasFeed feed) :
    vigil.sent = feed.replay ++
      vigil.begun.collect (System.sentIn vigil.stream) (vigil.after.map .elsewhere) := by
  have first : System.sentIn vigil.stream vigil.opened vigil.begun = feed.replay := by
    rw [System.sentIn, System.unread_of_found (begun_watched has).found]
    simp [System.unread, stream]
  rw [← first]
  rfl

theorem sent_eq (has : vigil.opened.HasFeed feed) :
    vigil.sent = feed.replay ++ (Happening.told feed.resources vigil.heeded).map .event := by
  rw [sent_begun has]
  exact congrArg (feed.replay ++ ·) ((begun_watched has).sent_of_live rfl vigil.after)

end Opened

/-- A watch mirrors the feed, whatever happens before it and after it. -/
theorem mirrors : vigil.Mirrors := by
  rcases vigil.opened_hasFeed with ⟨feed, has⟩
  have watched := begun_watched has
  have snapshot := snapshot_eq has
  have sent := sent_eq has
  have stored (early : List Happening) :
      (vigil.begun.run (early.map .elsewhere)).cluster.resources =
        early.foldl (fun resources happening => happening.leaves resources) vigil.snapshot := by
    rw [snapshot]
    exact watched.run early
  have fits (noise : ∀ happening ∈ vigil.heeded, happening.InjectsNoise) :=
    Happening.fitsAll_told noise feed.resources
  have replayed : feed.replay.foldl Picture.see Picture.blank =
      Picture.ofResources feed.resources := by
    rw [MemoryFeed.replay, List.foldl_append, Picture.foldl_replay has.sorted]
    funext uid
    exact Option.or_none
  constructor
  case opens => simp [System.watchFeed, has.feeds, stream]
  case sent =>
    rw [sent, snapshot, MemoryFeed.replay, List.append_assoc]
    rfl
  case ascending =>
    rw [snapshot]
    exact has.sorted
  case stored => exact fun early _ => stored early
  case deleted =>
    intro early uid _
    rcases watched.toHasFeed.run early with ⟨later, kept⟩
    rw [kept.deleteResource_snd, ← stored early, kept.cluster_eq]
    rfl
  case independent =>
    intro other sameSnapshot sameCalls
    rcases other.opened_hasFeed with ⟨otherFeed, otherHas⟩
    have sameTold : Happening.told other.snapshot other.heeded =
        Happening.told vigil.snapshot vigil.heeded := by
      rw [← Happening.told_filter_isCall, sameCalls, Happening.told_filter_isCall, sameSnapshot]
    have sameResources : otherFeed.resources = feed.resources := by
      rw [← snapshot_eq otherHas, sameSnapshot, snapshot]
    rw [snapshot_eq otherHas, snapshot, sameResources] at sameTold
    rw [sent_eq otherHas, sent, sameResources, sameTold, MemoryFeed.replay, MemoryFeed.replay,
      sameResources]
  case fits =>
    intro noise
    rw [sent]
    refine Picture.fitsAll_append.mpr ⟨?_, ?_⟩
    · exact Picture.fitsAll_append.mpr
        ⟨Picture.fitsAll_replay has.sorted fun _ _ => rfl, trivial, trivial⟩
    · rw [replayed]
      exact (fits fun happening heeded => noise happening (System.heeded_subset _ _ _ heeded)).1
  case shows =>
    intro noise reading live
    have all : vigil.heeded = vigil.after := System.heeded_eq_self reading live
    rw [sent, List.foldl_append, replayed, closed, stored vigil.after, snapshot, all]
    rw [all] at fits
    exact (fits noise).2

/-- What is applied after the context of the watch is cancelled is not sent any more. -/
example :
    Vigil.sent
      { start := { cancellation := Cancellation.empty.create.1 }
        resources := [.running "b" "b", .running "a" "a"]
        before := []
        context := ⟨⟨0, 0⟩, []⟩
        after :=
          [.deleteResource "cluster" "b", .watchFeed "cluster" ⟨⟨0, 0⟩, []⟩,
            .cancel ⟨⟨0, 0⟩, []⟩ none, .applyResource "cluster" (.running "c" "c")] } =
      [.event (.added (.running "a" "a") true), .event (.added (.running "b" "b") true), .synced,
        .event (.deleted (.running "b" "b"))] := by
  decide +kernel

end Vigil

end Admission
