import Admission.Proofs.Contexts
import Admission.Proofs.Course

/-!
# Following the cluster's feed

The systems of this file have the cluster's feed and no other. A watch follows the feed if the feed
tells it every change: its stream has a writer and a reader, and it is told each change once because
it is one watcher among the others and its context is not cancelled.

Whatever the others do, a change of the feed and what is told of it belong together: the number of
unfinished resources goes down by those of which an item tells that they ended.
-/

namespace Admission

namespace System

variable {system next : System} {watch : Watch} {feed : MemoryFeed} {stream : Stream}

/-! ### Telling a change -/

theorem told_streams (system : System) (told : List (Watcher × ResourceEvent)) (index : Nat) :
    (told.foldl (fun system entry =>
        system.tellStream entry.1.stream (·.write (.event entry.2))) system).streams[index]? =
      system.streams[index]?.map fun stream =>
        { stream with
          items := stream.items ++
            (told.filter fun entry => entry.1.stream == index).map
              fun entry => .event entry.2 } := by
  induction told generalizing system with
  | nil => cases found : system.streams[index]? <;> simp [found]
  | cons entry rest ih =>
      rw [List.foldl_cons, ih]
      simp only [tellStream_frame, Array.getElem?_modify]
      by_cases same : entry.1.stream = index
      · cases system.streams[index]? <;> simp [same, Stream.write]
      · simp [same]

/-- A stream that is not given up has all that was told to it. -/
theorem deliver_streams (system : System) {broadcast : Broadcast} {index : Nat}
    (kept : ∀ watcher ∈ broadcast.givenUp, watcher.stream ≠ index) :
    (system.deliver broadcast).streams[index]? =
      system.streams[index]?.map fun stream =>
        { stream with
          items := stream.items ++
            (broadcast.told.filter fun entry => entry.1.stream == index).map
              fun entry => .event entry.2 } := by
  simp only [deliver, told_streams]
  apply congrArg (Option.map _)
  apply List.foldlRecOn (motive := fun later : System =>
    later.streams[index]? = system.streams[index]?)
  · rfl
  · intro later same watcher member
    have apart := kept watcher member
    simp only [dropContext_frame, tellStream_frame, Array.getElem?_modify, apart, if_false, same]

/-- The resources of the cluster's feed are replaced, and its watchers are told of it. -/
def announce (system : System) (feed : MemoryFeed) (resources : List JobResource)
    (change : ResourceEvent) : System :=
  (system.setFeed clusterFeed
      (.memory ({ feed with resources }.broadcast system.isLive change).1)).deliver
    ({ feed with resources }.broadcast system.isLive change).2

/-- The system has the cluster's feed only, with its resources in order, and there is a stream for
every watcher. -/
structure HasFeed (system : System) (feed : MemoryFeed) : Prop where
  feeds : system.feeds = [(clusterFeed, .memory feed)]
  sorted : MemoryFeed.Sorted feed.resources
  streamed : ∀ watcher ∈ feed.watchers, watcher.stream < system.streams.size

namespace HasFeed

theorem congr (has : system.HasFeed feed) (feeds : next.feeds = system.feeds)
    (streams : system.streams.size ≤ next.streams.size) : next.HasFeed feed where
  feeds := feeds.trans has.feeds
  sorted := has.sorted
  streamed := fun watcher member => Nat.lt_of_lt_of_le (has.streamed watcher member) streams

theorem memoryFeed? (has : system.HasFeed feed) : system.memoryFeed? clusterFeed = some feed := by
  simp [System.memoryFeed?, has.feeds]

theorem lookup_other (has : system.HasFeed feed) {name : String} (other : name ≠ clusterFeed) :
    system.feeds.lookup name = none := by
  have unequal : (name == clusterFeed) = false := beq_eq_false_iff_ne.mpr other
  simp [has.feeds, List.lookup_cons, unequal]

theorem cluster_eq (has : system.HasFeed feed) : system.cluster = feed := by
  simp [cluster, has.memoryFeed?]

theorem setFeed (has : system.HasFeed feed) (other : MemoryFeed) :
    (system.setFeed clusterFeed (.memory other)).feeds = [(clusterFeed, .memory other)] := by
  simp [System.setFeed, has.feeds]

theorem announce (has : system.HasFeed feed) {resources : List JobResource}
    (sorted : MemoryFeed.Sorted resources) (change : ResourceEvent) :
    (system.announce feed resources change).HasFeed
      { resources, watchers := feed.watchers.filter system.isLive } where
  feeds := by
    simp only [System.announce, deliver_frame]
    exact has.setFeed _
  sorted := sorted
  streamed := by
    intro watcher member
    simp only [System.announce, deliver_frame, setFeed_frame]
    exact has.streamed watcher (List.mem_filter.mp member).1

theorem applyResource_eq (has : system.HasFeed feed) (resource : JobResource) :
    ∃ change, system.applyResource clusterFeed resource =
        system.announce feed (MemoryFeed.insert resource feed.resources) change ∧
      ((∃ previous, feed.get? resource.uid = some previous ∧
          change = .updated previous resource) ∨
        (feed.get? resource.uid = none ∧ change = .added resource false)) := by
  simp only [applyResource, has.memoryFeed?, MemoryFeed.apply]
  cases present : feed.get? resource.uid with
  | none => exact ⟨_, rfl, Or.inr ⟨rfl, rfl⟩⟩
  | some previous => exact ⟨_, rfl, Or.inl ⟨previous, rfl, rfl⟩⟩

theorem deleteResource_eq (has : system.HasFeed feed) (uid : String) :
    (feed.get? uid = none ∧ (system.deleteResource clusterFeed uid).1.feeds = system.feeds ∧
        (system.deleteResource clusterFeed uid).1.streams = system.streams) ∨
      ∃ previous, feed.get? uid = some previous ∧
        (system.deleteResource clusterFeed uid).1 =
          system.announce feed (feed.resources.filter fun resource => resource.uid != uid)
            (.deleted previous) := by
  simp only [deleteResource, has.memoryFeed?, MemoryFeed.delete]
  cases present : feed.get? uid with
  | none =>
      refine Or.inl ⟨rfl, ?_, rfl⟩
      simp only [deliver_frame]
      rw [has.setFeed, has.feeds]
  | some previous => exact Or.inr ⟨previous, rfl, rfl⟩

theorem injectChange_eq (has : system.HasFeed feed) (change : ResourceEvent) :
    system.injectChange clusterFeed change = system.announce feed feed.resources change := by
  simp only [injectChange, has.memoryFeed?, MemoryFeed.inject]
  rfl

/-- A further watcher has a stream of its own. -/
theorem watchFeed (has : system.HasFeed feed) (context : Context) :
    (system.watchFeed clusterFeed context).1.HasFeed
      (feed.addWatcher ⟨context, system.streams.size⟩) where
  feeds := by
    simp only [System.watchFeed, has.feeds, List.lookup_cons, BEq.rfl]
    exact HasFeed.setFeed (has.congr rfl (by simp)) _
  sorted := has.sorted
  streamed := by
    intro watcher member
    simp only [System.watchFeed, has.feeds, List.lookup_cons, BEq.rfl, setFeed_frame,
      holdContext_frame, newStream_frame, Array.size_push]
    rcases List.mem_append.mp member with before | new
    · have := has.streamed watcher before
      omega
    · rw [List.mem_singleton.mp new]
      simp

/-- There is no scripted feed. -/
theorem sendItem_eq (has : system.HasFeed feed) (name : String) (item : FeedItem) :
    (system.sendItem name item).1 = system := by
  by_cases same : name = clusterFeed
  · simp [sendItem, same, has.feeds]
  · simp [sendItem, has.lookup_other same]

theorem closeFeed_eq (has : system.HasFeed feed) (name : String) :
    system.closeFeed name = system := by
  by_cases same : name = clusterFeed
  · simp [closeFeed, same, has.feeds]
  · simp [closeFeed, has.lookup_other same]

/-- Whatever happens outside, the feed remains the only one, and in order. -/
theorem undergo (has : system.HasFeed feed) (happening : Happening) :
    ∃ later, (system.undergo happening).HasFeed later := by
  have unchanged {next : System} (feeds : next.feeds = system.feeds)
      (streams : next.streams = system.streams) : ∃ later, next.HasFeed later :=
    ⟨feed, has.congr feeds (by simp [streams])⟩
  cases happening with
  | applyResource name resource =>
      by_cases same : name = clusterFeed
      · subst same
        rcases has.applyResource_eq resource with ⟨change, told, -⟩
        simp only [System.undergo, told]
        exact ⟨_, has.announce (MemoryFeed.insert_sorted resource has.sorted) change⟩
      · refine unchanged ?_ ?_ <;>
          simp [System.undergo, applyResource, System.memoryFeed?, has.lookup_other same]
  | deleteResource name uid =>
      by_cases same : name = clusterFeed
      · subst same
        rcases has.deleteResource_eq uid with ⟨-, feeds, streams⟩ | ⟨previous, -, told⟩
        · exact unchanged feeds streams
        · simp only [System.undergo, told]
          exact ⟨_, has.announce (MemoryFeed.delete_sorted uid has.sorted) _⟩
      · refine unchanged ?_ ?_ <;>
          simp [System.undergo, deleteResource, System.memoryFeed?, has.lookup_other same]
  | injectChange name change =>
      by_cases same : name = clusterFeed
      · subst same
        simp only [System.undergo, has.injectChange_eq]
        exact ⟨_, has.announce has.sorted change⟩
      · refine unchanged ?_ ?_ <;>
          simp [System.undergo, injectChange, System.memoryFeed?, has.lookup_other same]
  | watchFeed name context =>
      by_cases same : name = clusterFeed
      · subst same
        exact ⟨_, has.watchFeed context⟩
      · refine unchanged ?_ ?_ <;> simp [System.undergo, System.watchFeed, has.lookup_other same]
  | readStream index => exact ⟨feed, has.congr rfl (by simp [System.undergo])⟩
  | dropReader index => exact ⟨feed, has.congr rfl (by simp [System.undergo])⟩
  | sendItem name item =>
      refine unchanged ?_ ?_ <;> simp [System.undergo, has.sendItem_eq]
  | closeFeed name =>
      refine unchanged ?_ ?_ <;> simp [System.undergo, has.closeFeed_eq]
  | _ => exact unchanged (by simp [System.undergo]) (by simp [System.undergo])

end HasFeed

/-! ### One watch -/

/-- A watch follows the feed: it is one of the watchers, and its stream has both of its ends. -/
structure Follows (system : System) (watch : Watch) (feed : MemoryFeed) (stream : Stream) : Prop
    extends system.HasFeed feed where
  alone : feed.watchers.filter (fun watcher => watcher.stream == watch.stream) =
    [⟨watch.context, watch.stream⟩]
  found : system.streams[watch.stream]? = some stream
  hasWriter : stream.hasWriter = true
  hasReader : stream.hasReader = true

/-- A watch still follows a feed that has changed, and as many unfinished resources fewer are in it
as the watch was told have ended. -/
def FollowsOn (watch : Watch) (feed : MemoryFeed) (stream : Stream) (next : System) : Prop :=
  ∃ later changes, next.Follows watch later { stream with items := stream.items ++ changes } ∧
    MemoryFeed.unfinished later.resources + changes.countP FeedItem.endsJob =
      MemoryFeed.unfinished feed.resources ∧
    ∀ item ∈ changes, item.claims = false

namespace Follows

theorem congr (follows : system.Follows watch feed stream) (feeds : next.feeds = system.feeds)
    (streams : next.streams = system.streams) : next.Follows watch feed stream where
  toHasFeed := follows.toHasFeed.congr feeds (by simp [streams])
  alone := follows.alone
  found := by rw [streams, follows.found]
  hasWriter := follows.hasWriter
  hasReader := follows.hasReader

theorem on_of_follows (follows : next.Follows watch feed stream) :
    FollowsOn watch feed stream next :=
  ⟨feed, [], by simpa using follows, rfl, List.forall_mem_nil _⟩

/-- Streams of others may change. -/
theorem of_streams (follows : system.Follows watch feed stream) (feeds : next.feeds = system.feeds)
    (size : next.streams.size = system.streams.size)
    (same : next.streams[watch.stream]? = system.streams[watch.stream]?) :
    next.Follows watch feed stream where
  toHasFeed := follows.toHasFeed.congr feeds (by simp [size])
  alone := follows.alone
  found := by rw [same, follows.found]
  hasWriter := follows.hasWriter
  hasReader := follows.hasReader

theorem isLive (follows : system.Follows watch feed stream)
    (uncancelled : system.isCancelled watch.context = false) :
    system.isLive ⟨watch.context, watch.stream⟩ = true := by
  simp [System.isLive, uncancelled, follows.found, follows.hasReader]

/-- The watch is not given up. -/
theorem alone_live (follows : system.Follows watch feed stream)
    (uncancelled : system.isCancelled watch.context = false) :
    (feed.watchers.filter system.isLive).filter (fun watcher => watcher.stream == watch.stream) =
      [⟨watch.context, watch.stream⟩] := by
  rw [List.filter_comm, follows.alone]
  simp [follows.isLive uncancelled]

theorem not_givenUp (follows : system.Follows watch feed stream)
    (uncancelled : system.isCancelled watch.context = false) :
    ∀ watcher ∈ feed.watchers.filter (fun watcher => !system.isLive watcher),
      watcher.stream ≠ watch.stream := by
  intro watcher member same
  rcases List.mem_filter.mp member with ⟨watches, dead⟩
  have alone : watcher ∈ feed.watchers.filter (fun watcher => watcher.stream == watch.stream) :=
    List.mem_filter.mpr ⟨watches, by simpa using same⟩
  rw [follows.alone] at alone
  rw [List.mem_singleton.mp alone, follows.isLive uncancelled] at dead
  cases dead

/-- The watch is told every change once. -/
theorem announce (follows : system.Follows watch feed stream)
    (uncancelled : system.isCancelled watch.context = false) {resources : List JobResource}
    (sorted : MemoryFeed.Sorted resources) (change : ResourceEvent) :
    (system.announce feed resources change).Follows watch
      { resources, watchers := feed.watchers.filter system.isLive }
      { stream with items := stream.items ++ [.event change] } where
  toHasFeed := follows.toHasFeed.announce sorted change
  alone := follows.alone_live uncancelled
  found := by
    simp only [System.announce, MemoryFeed.broadcast]
    rw [deliver_streams _ (follows.not_givenUp uncancelled)]
    have told : (((feed.watchers.filter system.isLive).map fun watcher => (watcher, change)).filter
        fun entry => entry.1.stream == watch.stream) =
          [((⟨watch.context, watch.stream⟩ : Watcher), change)] := by
      rw [List.filter_map]
      exact congrArg (List.map fun watcher => (watcher, change)) (follows.alone_live uncancelled)
    simp only [setFeed_frame, follows.found, told]
    rfl
  hasWriter := follows.hasWriter
  hasReader := follows.hasReader

/-- A resource that is there is changed, and not from finished to unfinished. -/
theorem applyResource_present (follows : system.Follows watch feed stream)
    (uncancelled : system.isCancelled watch.context = false) {resource previous : JobResource}
    (present : feed.get? resource.uid = some previous)
    (forwards : previous.isFinished = true → resource.isFinished = true) :
    FollowsOn watch feed stream (system.applyResource clusterFeed resource) := by
  rcases follows.applyResource_eq resource with ⟨change, told, ⟨other, found, rfl⟩ | ⟨absent, -⟩⟩
  · rw [present] at found
    cases found
    have counted := MemoryFeed.unfinished_insert_of_present follows.sorted present
    have sorted := MemoryFeed.insert_sorted resource follows.sorted
    rw [told]
    refine ⟨_, _, follows.announce uncancelled sorted _, ?_, ?_⟩
    · rw [FeedItem.countP_endsJob_singleton, FeedItem.endsJob]
      cases before : previous.isFinished with
      | true =>
          rw [before, forwards before] at counted
          rw [Bool.not_true, Bool.false_and]
          exact counted
      | false =>
          rw [before] at counted
          cases after : resource.isFinished with
          | true =>
              rw [after] at counted
              exact counted
          | false =>
              rw [after] at counted
              exact Nat.add_right_cancel counted
    · intro item member
      rw [List.mem_singleton.mp member]
      rfl
  · rw [present] at absent
    cases absent

/-- An unfinished resource of a new identifier is put in. -/
theorem applyResource_absent (follows : system.Follows watch feed stream)
    (uncancelled : system.isCancelled watch.context = false) {resource : JobResource}
    (absent : feed.get? resource.uid = none) (unfinished : resource.isFinished = false) :
    ∃ later, (system.applyResource clusterFeed resource).Follows watch later
        { stream with items := stream.items ++ [.event (.added resource false)] } ∧
      MemoryFeed.unfinished later.resources = MemoryFeed.unfinished feed.resources + 1 := by
  rcases follows.applyResource_eq resource with ⟨change, told, ⟨other, found, -⟩ | ⟨-, rfl⟩⟩
  · rw [absent] at found
    cases found
  · have counted := MemoryFeed.unfinished_insert_of_absent absent
    have sorted := MemoryFeed.insert_sorted resource follows.sorted
    rw [unfinished] at counted
    rw [told]
    exact ⟨_, follows.announce uncancelled sorted _, counted⟩

theorem deleteResource (follows : system.Follows watch feed stream)
    (uncancelled : system.isCancelled watch.context = false) (uid : String) :
    FollowsOn watch feed stream (system.deleteResource clusterFeed uid).1 := by
  rcases follows.deleteResource_eq uid with ⟨-, feeds, streams⟩ | ⟨previous, present, told⟩
  · exact (follows.congr feeds streams).on_of_follows
  · have counted := MemoryFeed.unfinished_delete follows.sorted present
    have sorted := MemoryFeed.delete_sorted uid follows.sorted
    rw [told]
    refine ⟨_, _, follows.announce uncancelled sorted _, ?_, ?_⟩
    · rw [FeedItem.countP_endsJob_singleton]
      exact counted
    · intro item member
      rw [List.mem_singleton.mp member]
      rfl

theorem injectChange (follows : system.Follows watch feed stream)
    (uncancelled : system.isCancelled watch.context = false) (kind : NotificationKind)
    (reason : String) :
    FollowsOn watch feed stream (system.injectChange clusterFeed (.unrecognized kind reason)) := by
  rw [follows.injectChange_eq]
  refine ⟨_, _, follows.announce uncancelled follows.sorted _, rfl, ?_⟩
  intro item member
  rw [List.mem_singleton.mp member]
  rfl

/-- Somebody else watches the feed on a stream of its own. -/
theorem watchFeed (follows : system.Follows watch feed stream) (context : Context) :
    (system.watchFeed clusterFeed context).1.Follows watch
      (feed.addWatcher ⟨context, system.streams.size⟩) stream where
  toHasFeed := follows.toHasFeed.watchFeed context
  alone := by
    have inside := (Array.getElem?_eq_some_iff.mp follows.found).1
    have apart : (system.streams.size == watch.stream) = false :=
      beq_eq_false_iff_ne.mpr (Nat.ne_of_gt inside)
    simp only [MemoryFeed.addWatcher, List.filter_append, follows.alone]
    rw [List.filter_cons_of_neg (by simp [apart]), List.filter_nil, List.append_nil]
  found := by
    have inside := (Array.getElem?_eq_some_iff.mp follows.found).1
    simp only [System.watchFeed, follows.feeds, List.lookup_cons, BEq.rfl, setFeed_frame,
      holdContext_frame, newStream_frame]
    rw [Array.getElem?_push, if_neg (Nat.ne_of_lt inside), follows.found]
  hasWriter := follows.hasWriter
  hasReader := follows.hasReader

/-- What is allowed outside does not stop the watch from following the feed. -/
theorem undergo (follows : system.Follows watch feed stream) (member : watch ∈ system.watches)
    (uncancelled : system.isCancelled watch.context = false) {happening : Happening}
    (allowed : system.AllowsHappening happening) :
    FollowsOn watch feed stream (system.undergo happening) := by
  have unchanged {next : System} (feeds : next.feeds = system.feeds)
      (streams : next.streams = system.streams) : FollowsOn watch feed stream next :=
    (follows.congr feeds streams).on_of_follows
  have others {index : Nat} (change : Stream → Stream) (apart : index ≠ watch.stream)
      {next : System} (feeds : next.feeds = system.feeds)
      (streams : next.streams = system.streams.modify index change) :
      FollowsOn watch feed stream next := by
    refine (follows.of_streams feeds (by simp [streams]) ?_).on_of_follows
    rw [streams, Array.getElem?_modify, if_neg apart]
  cases happening with
  | applyResource name resource =>
      by_cases same : name = clusterFeed
      · rcases allowed same with ⟨previous, present, forwards⟩
        rw [follows.cluster_eq] at present
        subst same
        exact follows.applyResource_present uncancelled present forwards
      · refine unchanged ?_ ?_ <;>
          simp [System.undergo, applyResource, System.memoryFeed?, follows.lookup_other same]
  | deleteResource name uid =>
      by_cases same : name = clusterFeed
      · subst same
        exact follows.deleteResource uncancelled uid
      · refine unchanged ?_ ?_ <;>
          simp [System.undergo, System.deleteResource, System.memoryFeed?,
            follows.lookup_other same]
  | injectChange name change =>
      by_cases same : name = clusterFeed
      · rcases allowed same with ⟨kind, reason, rfl⟩
        subst same
        exact follows.injectChange uncancelled kind reason
      · refine unchanged ?_ ?_ <;>
          simp [System.undergo, System.injectChange, System.memoryFeed?, follows.lookup_other same]
  | watchFeed name context =>
      by_cases same : name = clusterFeed
      · subst same
        refine ⟨feed.addWatcher ⟨context, system.streams.size⟩, [], ?_, rfl, List.forall_mem_nil _⟩
        simpa [System.undergo] using follows.watchFeed context
      · refine unchanged ?_ ?_ <;>
          simp [System.undergo, System.watchFeed, follows.lookup_other same]
  | readStream index =>
      exact others (fun stream => stream.takeAll.1) (allowed watch member) rfl rfl
  | dropReader index => exact others Stream.endReading (allowed watch member) rfl rfl
  | sendItem name item => refine unchanged ?_ ?_ <;> simp [System.undergo, follows.sendItem_eq]
  | closeFeed name => refine unchanged ?_ ?_ <;> simp [System.undergo, follows.closeFeed_eq]
  | _ => exact unchanged (by simp [System.undergo]) (by simp [System.undergo])

end Follows

end System

end Admission
