import Admission.Proofs.Beginnings

/-!
# What is sent on a watch in a run

In every run of a system that has the cluster's feed and no other, what is sent on a watch fits the
picture that the items before it have left, and while the watch is live this picture is the feed.
That is what a watch from outside is sent; here it is shown of the watches that registrations begin,
whatever tasks do in between.
-/

namespace Admission

/-- Whether a move tells the watchers of a feed nothing else than what becomes of its resources,
but for notifications that make no sense. -/
def Move.InjectsNoise : Move → Prop
  | .elsewhere happening => happening.InjectsNoise
  | _ => True

/-- The watcher that a feed in memory has for a watch. -/
def Watch.watcher (watched : Watch) : Watcher :=
  ⟨watched.context, watched.stream⟩

namespace System

/-- What was sent on a watch fits the picture that it leaves, and this picture is the feed while the
watch is live. -/
structure Reflected (system : System) (watcher : Watcher) (sent : List FeedItem) : Prop where
  watched : ∃ stream, system.Watched watcher system.cluster stream
  fits : Picture.blank.FitsAll sent
  shows : system.isLive watcher = true →
    sent.foldl Picture.see Picture.blank = Picture.ofResources system.cluster.resources

/-- A step in which nothing is read from a watch, and which is reflected in what is sent. -/
structure Reflects (watcher : Watcher) (system next : System) : Prop where
  grows : system.unread watcher.stream <+: next.unread watcher.stream
  reflected : ∀ sent, system.Reflected watcher sent →
    next.Reflected watcher (sent ++ sentIn watcher.stream system next)

/-- The feeds stay the same, and the reader of a stream may only leave. -/
structure Fades (stream : Nat) (system next : System) : Prop where
  feeds : next.feeds = system.feeds
  reads : ∀ before, system.streams[stream]? = some before →
    ∃ after, next.streams[stream]? = some after ∧
      (after.hasReader = true → before.hasReader = true)

/-- Several steps of which a watch has seen all, or in which it begins. -/
def Sees (place : Nat) (system next : System) : Prop :=
  ∀ watched, next.watches[place]? = some watched →
    (system.watches[place]? = some watched ∧ Reflects watched.watcher system next) ∨
      (system.watches[place]? = none ∧
        next.Reflected watched.watcher (next.unread watched.watcher.stream))

section Steps

variable {system used next : System} {watcher : Watcher} {sent : List FeedItem} {feed : MemoryFeed}
  {stream place : Nat}

theorem sentIn_trans (first : system.unread stream <+: used.unread stream)
    (second : used.unread stream <+: next.unread stream) :
    sentIn stream system next = sentIn stream system used ++ sentIn stream used next := by
  rcases first with ⟨some, first⟩
  rcases second with ⟨more, second⟩
  simp [sentIn, ← second, ← first]

theorem sentIn_eq_nil (shrinks : (next.unread stream).length ≤ (system.unread stream).length) :
    sentIn stream system next = [] :=
  List.drop_eq_nil_of_le shrinks

theorem cluster_congr (feeds : next.feeds = system.feeds) : next.cluster = system.cluster := by
  simp only [cluster, memoryFeed?, feeds]

theorem Fades.of_same (feeds : next.feeds = system.feeds)
    (same : next.streams[stream]? = system.streams[stream]?) : Fades stream system next where
  feeds
  reads := fun before found => ⟨before, same.trans found, id⟩

theorem Fades.of_modify (change : Stream → Stream) (feeds : next.feeds = system.feeds)
    (streams : next.streams = system.streams.modify stream change)
    (reads : ∀ before : Stream, (change before).hasReader = true → before.hasReader = true) :
    Fades stream system next where
  feeds
  reads := fun before found =>
    ⟨change before, by simp [streams, Array.getElem?_modify, found], reads before⟩

theorem Fades.trans (first : Fades stream system used) (second : Fades stream used next) :
    Fades stream system next where
  feeds := second.feeds.trans first.feeds
  reads := by
    intro before found
    rcases first.reads before found with ⟨between, foundBetween, earlier⟩
    rcases second.reads between foundBetween with ⟨after, foundAfter, later⟩
    exact ⟨after, foundAfter, earlier ∘ later⟩

/-- What was sent is still reflected when the watch may only have ended. -/
theorem Reflected.fade (reflected : system.Reflected watcher sent)
    (cancelled : system.cancellation.cancelled ⊆ next.cancellation.cancelled)
    (size : system.streams.size ≤ next.streams.size) (fades : Fades watcher.stream system next) :
    next.Reflected watcher sent := by
  rcases reflected.watched with ⟨before, watched⟩
  rcases fades.reads before watched.found with ⟨after, found, reading⟩
  have live (lives : next.isLive watcher = true) : system.isLive watcher = true := by
    simp only [isLive, found, watched.found, Option.map_some, Option.getD_some, Bool.and_eq_true,
      Bool.not_eq_true'] at lives ⊢
    refine ⟨?_, reading lives.2⟩
    cases before : system.isCancelled watcher.context with
    | false => rfl
    | true =>
        have still : next.isCancelled watcher.context = true :=
          Cancellation.tokenCancelled_iff.mpr
            (cancelled (Cancellation.tokenCancelled_iff.mp before))
        rw [still] at lives
        exact lives.1
  have same := cluster_congr fades.feeds
  refine ⟨⟨after, ?_⟩, reflected.fits, fun lives => ?_⟩
  · rw [same]
    refine { toHasFeed := watched.toHasFeed.congr fades.feeds size, found, alone := ?_ }
    refine watched.alone.imp_right fun gone => ⟨gone.1, ?_⟩
    exact Bool.eq_false_iff.mpr fun lives => Bool.eq_false_iff.mp gone.2 (live lives)
  · rw [same]
    exact reflected.shows (live lives)

theorem Reflects.of_same
    (cancelled : system.cancellation.cancelled ⊆ next.cancellation.cancelled)
    (size : system.streams.size ≤ next.streams.size) (feeds : next.feeds = system.feeds)
    (same : next.streams[watcher.stream]? = system.streams[watcher.stream]?) :
    Reflects watcher system next := by
  have unread : next.unread watcher.stream = system.unread watcher.stream := by
    simp only [System.unread, same]
  refine ⟨unread ▸ List.prefix_refl _, fun sent reflected => ?_⟩
  rw [sentIn_eq_nil (Nat.le_of_eq (congrArg List.length unread)), List.append_nil]
  exact reflected.fade cancelled size (.of_same feeds same)

theorem Reflects.refl (watcher : Watcher) (system : System) : Reflects watcher system system :=
  .of_same (List.Subset.refl _) (Nat.le_refl _) rfl rfl

theorem Reflects.trans (first : Reflects watcher system used)
    (second : Reflects watcher used next) : Reflects watcher system next where
  grows := first.grows.trans second.grows
  reflected := by
    intro sent reflected
    rw [sentIn_trans first.grows second.grows, ← List.append_assoc]
    exact second.reflected _ (first.reflected sent reflected)

/-- What a call tells is sent while the watch is live. -/
theorem Reflects.undergo (happening : Happening) (noise : happening.InjectsNoise)
    (grows : system.unread watcher.stream <+: (system.undergo happening).unread watcher.stream) :
    Reflects watcher system (system.undergo happening) := by
  refine ⟨grows, fun sent reflected => ?_⟩
  rcases reflected.watched with ⟨stream, watched⟩
  rcases watched.undergo happening with ⟨nextFeed, nextStream, hears⟩
  have cluster : (system.undergo happening).cluster = nextFeed := hears.watched.cluster_eq
  have told : sentIn watcher.stream system (system.undergo happening) =
      if system.isLive watcher then
        (happening.tells system.cluster.resources).toList.map .event else [] := by
    rw [sentIn, unread_of_found watched.found, unread_of_found hears.watched.found, hears.sent]
  have reading : nextStream.hasReader = true → stream.hasReader = true := fun reads => by
    rw [hears.hasReader, Bool.and_eq_true] at reads
    exact reads.1
  rw [told]
  cases live : system.isLive watcher with
  | false =>
      have dead := watched.isLive_of_undergo hears.watched.found reading live
      simp only [Bool.false_eq_true, if_false, List.append_nil]
      refine ⟨⟨nextStream, cluster ▸ hears.watched⟩, reflected.fits, fun lives => ?_⟩
      rw [dead] at lives
      cases lives
  | true =>
      have shown := reflected.shows live
      simp only [if_true]
      cases tells : happening.tells system.cluster.resources with
      | none =>
          simp only [Option.toList_none, List.map_nil, List.append_nil]
          refine ⟨⟨nextStream, cluster ▸ hears.watched⟩, reflected.fits, fun _ => ?_⟩
          rw [cluster, hears.resources, Happening.ofResources_leaves_of_silent tells]
          exact shown
      | some change =>
          rcases Happening.fits_tells noise tells with ⟨fits, seen⟩
          refine ⟨⟨nextStream, cluster ▸ hears.watched⟩, ?_, fun _ => ?_⟩
          · refine Picture.fitsAll_append.mpr ⟨reflected.fits, ?_, trivial⟩
            rw [shown]
            exact fits
          · rw [cluster, hears.resources, List.foldl_append, shown]
            exact seen

/-! ### Several steps -/

theorem Sees.refl (place : Nat) (system : System) : Sees place system system :=
  fun _ present => Or.inl ⟨present, .refl _ system⟩

theorem Sees.of_reflects (watches : next.watches[place]? = system.watches[place]?)
    (reflects : ∀ watched, system.watches[place]? = some watched →
      Reflects watched.watcher system next) : Sees place system next := by
  intro watched present
  rw [watches] at present
  exact Or.inl ⟨present, reflects watched present⟩

theorem Sees.of_same (persists : system.Persists next) (watches : next.watches = system.watches)
    (feeds : next.feeds = system.feeds) (streams : next.streams = system.streams) :
    Sees place system next :=
  .of_reflects (by rw [watches]) fun _ _ =>
    .of_same persists.cancelled persists.size feeds (by rw [streams])

theorem Sees.trans (first : Sees place system used) (second : Sees place used next)
    (persists : system.Persists used) : Sees place system next := by
  intro watched present
  rcases second watched present with ⟨between, later⟩ | ⟨absent, begun⟩
  · rcases first watched between with ⟨before, earlier⟩ | ⟨absent, begun⟩
    · exact Or.inl ⟨before, earlier.trans later⟩
    · have reflected := later.reflected _ begun
      rcases later.grows with ⟨more, grown⟩
      rw [sentIn, ← grown, List.drop_left, grown] at reflected
      exact Or.inr ⟨absent, reflected⟩
  · refine Or.inr ⟨?_, begun⟩
    cases before : system.watches[place]? with
    | none => rfl
    | some earlier =>
        rcases persists.watches place earlier before with ⟨later, found, -⟩
        rw [absent] at found
        cases found

/-- A watch begins with all that is there. -/
theorem reflected_of_watchFeed (has : system.HasFeed feed) (context : Context) :
    (system.watchFeed clusterFeed context).1.Reflected ⟨context, system.streams.size⟩
      ((system.watchFeed clusterFeed context).1.unread system.streams.size) := by
  have begun := has.watchFeed context
  have unread : (system.watchFeed clusterFeed context).1.unread system.streams.size =
      feed.replay := by simp [System.unread, System.watchFeed, has.feeds]
  have replayed : feed.replay.foldl Picture.see Picture.blank =
      Picture.ofResources feed.resources := by
    rw [MemoryFeed.replay, List.foldl_append, Picture.foldl_replay has.sorted]
    funext uid
    exact Option.or_none
  rw [unread]
  refine ⟨⟨{ items := feed.replay }, ?_⟩, ?_, fun _ => ?_⟩
  · rw [begun.cluster_eq]
    refine { toHasFeed := begun, found := ?_, alone := Or.inl (has.alone_addWatcher context) }
    simp [System.watchFeed, has.feeds]
  · exact Picture.fitsAll_append.mpr
      ⟨Picture.fitsAll_replay has.sorted fun _ _ => rfl, trivial, trivial⟩
  · rw [begun.cluster_eq]
    exact replayed

end Steps

/-! ### Turns -/

section Turns

variable {system next : System} {index place : Nat} {feed : MemoryFeed} {watched : Watch}
  {state : TaskState}

/-- The cluster's feed remains the only one. -/
theorem Proceeds.hasFeed (proceeds : Proceeds index system next) (has : system.HasFeed feed) :
    ∃ later, next.HasFeed later := by
  induction proceeds with
  | unchanged => exact ⟨feed, has⟩
  | same _ same before =>
      rcases before with ⟨later, kept⟩
      exact ⟨later, kept.congr same.feeds (Nat.le_of_eq (congrArg Array.size same.streams.symm))⟩
  | applyResource _ name resource before =>
      rcases before with ⟨later, kept⟩
      exact kept.undergo (.applyResource name resource)
  | attend _ _ _ _ _ _ _ _ change _ feeds _ streams _ before =>
      rcases before with ⟨later, kept⟩
      exact ⟨later, kept.congr feeds (by simp [streams])⟩
  | refuse _ _ _ _ watching before =>
      rcases before with ⟨later, kept⟩
      rw [watchFeed_of_refused watching]
      exact ⟨later, kept.congr (by simp) (by simp)⟩
  | @begin used after state name own context stream _ _ _ _ watching deadline before =>
      rcases before with ⟨later, kept⟩
      have child : ({ used with
          cancellation := (used.cancellation.child context).1 } : System).HasFeed later :=
        kept.congr rfl (Nat.le_refl _)
      rcases child.undergo (.watchFeed name (used.cancellation.child context).2) with
        ⟨latest, opened⟩
      rw [undergo, watching] at opened
      exact ⟨latest, opened.congr (by simp [withListener]) (by simp)⟩
  | _ =>
      rename_i before
      rcases before with ⟨later, kept⟩
      exact ⟨later, kept.congr (by simp) (by simp)⟩

/-- A registration begins a watch, and all other watches see it. -/
theorem begin_sees (has : system.HasFeed feed) {name own : String} {context : Context}
    {stream : Nat} {after : System}
    (watching : { system with cancellation := (system.cancellation.child context).1 }.watchFeed name
      (system.cancellation.child context).2 = (after, .ok (own, stream)))
    (deadline : Option Nat) :
    Sees place system (after.withListener index name context
      ⟨own, (system.cancellation.child context).2, stream, false, false⟩ deadline) := by
  let made : System := { system with cancellation := (system.cancellation.child context).1 }
  let child : Context := (system.cancellation.child context).2
  let watch : Watch := ⟨own, child, stream, false, false⟩
  let begun : System := after.withListener index name context watch deadline
  have childHas : made.HasFeed feed := has.congr rfl (Nat.le_refl _)
  have clusterWatched : name = clusterFeed := by
    by_contra other
    simp [System.watchFeed, has.lookup_other other] at watching
  subst clusterWatched
  have opened : (made.watchFeed clusterFeed child).1 = after := congrArg Prod.fst watching
  have stays : after.cancellation.cancelled ⊆ begun.cancellation.cancelled := by
    have spares : SparesWards (fun _ => False) after after := .of_eq rfl
    rw [(withListener_frame _ _ _ _ _ _).2.2]
    exact (spares.holdContext child).cancelled_subset
  have feeds : begun.feeds = after.feeds := by simp [begun, withListener]
  have streams : begun.streams = after.streams := (withListener_frame _ _ _ _ _ _).2.1
  have size := Nat.le_of_eq (congrArg Array.size streams.symm)
  have watches : begun.watches = system.watches.push watch :=
    (withListener_frame _ _ _ _ _ _).1.trans (by rw [(watchChild_frame watching).2])
  intro watched present
  rw [show (after.withListener _ _ _ _ _).watches = _ from watches, Array.getElem?_push] at present
  split at present
  · rename_i last
    cases present
    have reflected := reflected_of_watchFeed childHas child
    rw [opened, ← (watchFeed_stream watching).1] at reflected
    refine Or.inr ⟨by simp [last], ?_⟩
    have same : begun.unread stream = after.unread stream := by simp only [System.unread, streams]
    rw [show (begun.unread watch.watcher.stream) = _ from same]
    exact reflected.fade stays size (.of_same feeds (by rw [streams]))
  · have derived : SparesWards (fun _ => False) system made :=
      Cancellation.Reaches.child .unchanged context
    have first : Reflects watched.watcher system made :=
      .of_same derived.cancelled_subset (Nat.le_refl _) rfl rfl
    have told : Reflects watched.watcher made (made.undergo (.watchFeed clusterFeed child)) :=
      .undergo (.watchFeed clusterFeed child) trivial
        ((StreamsGrow.watchFeed made clusterFeed child).unread _)
    rw [undergo, opened] at told
    exact Or.inl ⟨present, first.trans (told.trans (.of_same stays size feeds (by rw [streams])))⟩

/-- Whoever does not listen to a watch lets it see all. -/
theorem Proceeds.sees (proceeds : Proceeds index system next) (tended : system.Tended [])
    (has : system.HasFeed feed)
    (deaf : ∀ state, system.tasks[index]? = some state → state.task ≠ .listening place) :
    Sees place system next := by
  induction proceeds with
  | unchanged => exact .refl place system
  | same proceeds same before =>
      exact before.trans (.of_same (.of_sameWork same) same.watches same.feeds same.streams)
        proceeds.persists
  | finish proceeds found unfinished outcome _ before =>
      exact before.trans (.of_same (finish_persists found unfinished outcome) (by simp) (by simp)
        (by simp)) proceeds.persists
  | goOn proceeds found unfinished advances unregistered before =>
      have step : Proceeds index _ _ := .goOn .unchanged found unfinished advances unregistered
      exact before.trans (.of_same step.persists rfl rfl rfl) proceeds.persists
  | @applyResource used proceeds name resource before =>
      have grows := (StreamsGrow.applyResource used name resource).unread
      exact before.trans (.of_reflects (by simp) fun watched _ =>
        .undergo (.applyResource name resource) trivial (grows _)) proceeds.persists
  | @cancel used proceeds context cause before =>
      exact before.trans (.of_same (undergo_persists used (.cancel context cause)) (by simp)
        (by simp) (by simp)) proceeds.persists
  | @attend used after state watch watched proceeds found unfinished task present update kept
      synced change tasks feeds cancellation streams watches before =>
      have other : watch ≠ place := by
        rintro rfl
        rcases proceeds.listens found task with ⟨earlier, original, listens⟩
        exact deaf earlier original listens
      have step : Proceeds index used after := .attend .unchanged found unfinished task present
        update kept synced change tasks feeds cancellation streams watches
      refine before.trans (.of_reflects ?_ fun own foundOwn => ?_) proceeds.persists
      · rw [watches, Array.getElem?_modify, if_neg other]
      · have apart : watched.stream ≠ own.stream := fun same =>
          other ((proceeds.tended tended).apart watch place watched own present foundOwn same)
        refine .of_same step.persists.cancelled step.persists.size feeds ?_
        rw [streams, Array.getElem?_modify, Watch.watcher, if_neg apart]
  | refuse proceeds found unfinished task watching before =>
      have step : Proceeds index _ _ := .refuse .unchanged found unfinished task watching
      have same := watchFeed_of_refused watching
      subst same
      exact before.trans (.of_same step.persists rfl rfl rfl) proceeds.persists
  | begin proceeds found unfinished task watching deadline before =>
      rcases proceeds.hasFeed has with ⟨feed, kept⟩
      exact before.trans (begin_sees kept watching deadline) proceeds.persists

end Turns

/-! ### Runs -/

section Runs

variable {start system : System} {moves : List Move} {move : Move} {index place : Nat}
  {feed : MemoryFeed} {watched : Watch}

/-- The listener of a watch leaves the feeds as they are. -/
theorem turn_fades (present : system.watches[place]? = some watched)
    (hears : system.heardBy index = some place) :
    Fades watched.stream system (system.turn index) := by
  rcases heardBy_eq_some.mp hears with ⟨state, found, unfinished, unmarked, task⟩
  have turned : system.turn index = system.listen index place := by
    simp [turn, found, unfinished, unmarked, task]
  have attended : Fades watched.stream system (system.attended place watched) :=
    .of_modify (fun stream => (stream.take turnLimit).1) (by simp [System.attended])
      (by simp [System.attended]) fun _ => id
  have ends (next : System) : Fades watched.stream next (next.endListening index place watched) :=
    .of_modify Stream.endReading (by simp [endListening]) (by simp [endListening])
      (by simp [Stream.endReading])
  rw [turned, listen_eq present]
  split
  · exact ends system
  · split
    · exact attended.trans (.of_same (by simp) (by simp))
    · split
      · exact attended
      · exact attended.trans (ends _)

theorem perform_hasFeed (has : system.HasFeed feed) (move : Move) :
    ∃ later, (system.perform move).HasFeed later := by
  cases move with
  | turn index => exact (turn_proceeds system index).hasFeed has
  | drop index => exact (dropNow_proceeds system index).hasFeed has
  | elsewhere happening => exact has.undergo happening
  | abort index => exact ⟨feed, has.congr (by simp [perform]) (by simp [perform])⟩
  | start task => exact ⟨feed, has.congr (by simp [perform]) (by simp [perform])⟩
  | tryAcquire place => exact ⟨feed, has.congr rfl (Nat.le_refl _)⟩
  | tryRelease place =>
      exact ⟨feed, has.congr (by simp [perform, tryRelease]) (by simp [perform, tryRelease])⟩
  | reconcile change =>
      exact ⟨feed, has.congr (by simp [perform, reconcile]) (by simp [perform, reconcile])⟩

/-- As long as its listener has no turn, a watch sees all that is sent on it. -/
theorem perform_sees (tended : system.Tended []) (has : system.HasFeed feed)
    (permitted : system.Permits move) (noise : move.InjectsNoise)
    (deaf : ∀ index, move = .turn index → system.heardBy index ≠ some place) :
    Sees place system (system.perform move) := by
  have persists := perform_persists system move
  have dropped (index : Nat) (task : Task)
      (persists : system.Persists (system.dropTask index task)) :
      Sees place system (system.dropTask index task) :=
    .of_same persists (by simp) (by simp) (by simp)
  cases move with
  | turn index =>
      rcases turn_cases_of_deaf (deaf index rfl) with same | ⟨state, -, -, drops⟩ | elsewhere
      · rw [perform, same]
        exact .refl place system
      · rw [perform, drops] at persists ⊢
        exact dropped index state.task persists
      · exact (turn_proceeds system index).sees tended has elsewhere
  | drop index =>
      rcases dropNow_cases system index with same | ⟨state, found, -, drops⟩
      · rw [perform, same]
        exact .refl place system
      · rw [perform, drops] at persists ⊢
        exact dropped index state.task persists
  | elsewhere happening =>
      refine .of_reflects (by simp [perform]) fun watched present => ?_
      exact Reflects.undergo happening noise ((undergo_untouched permitted).unread watched present)
  | abort index =>
      exact .of_same persists (by simp [perform]) (by simp [perform]) (by simp [perform])
  | start task =>
      exact .of_same persists (by simp [perform]) (by simp [perform]) (by simp [perform])
  | tryAcquire other => exact .of_same persists rfl rfl rfl
  | tryRelease other =>
      exact .of_same persists (by simp [perform, tryRelease]) (by simp [perform, tryRelease])
        (by simp [perform, tryRelease])
  | reconcile change =>
      exact .of_same persists (by simp [perform, reconcile]) (by simp [perform, reconcile])
        (by simp [perform, reconcile])

/-- In every run, what is sent on a watch reflects the feed. -/
theorem reflected_of_orderly (new : start.IsNew) (limited : 0 < start.limiters.length)
    (has : start.HasFeed feed) (orderly : start.Orderly moves)
    (noise : ∀ move ∈ moves, move.InjectsNoise) :
    (∃ later, (start.run moves).HasFeed later) ∧
      ∀ (place : Nat) (watched : Watch), (start.run moves).watches[place]? = some watched →
        (start.run moves).Reflected watched.watcher
          (start.collect (sentIn watched.stream) moves) := by
  induction moves using List.reverseRecOn with
  | nil =>
      refine ⟨⟨feed, has⟩, fun place watched present => ?_⟩
      rw [run_nil, new.watches] at present
      simp at present
  | append_singleton moves move ih =>
      rw [orderly_append] at orderly
      have chronicle := chronicle_of_orderly new limited orderly.1
      rcases ih orderly.1 fun other member => noise other (List.mem_append_left _ member) with
        ⟨⟨later, kept⟩, reflected⟩
      have ran : start.run (moves ++ [move]) = (start.run moves).perform move := run_append _ _ _
      have persists := perform_persists (start.run moves) move
      rw [ran]
      refine ⟨perform_hasFeed kept move, fun place watched present => ?_⟩
      rw [collect_concat]
      by_cases heard : ∃ index, move = .turn index ∧ (start.run moves).heardBy index = some place
      · rcases heard with ⟨index, rfl, hears⟩
        rcases heardBy_eq_some.mp hears with ⟨state, foundTask, -, -, task⟩
        rcases chronicle.tended.present index state place foundTask (by rw [task]; rfl) with
          ⟨earlier, found, -⟩
        rcases persists.watches place earlier found with ⟨same, foundLater, -, context, stream⟩
        rw [present, Option.some.injEq] at foundLater
        rw [← foundLater] at context stream
        have nothing : sentIn earlier.stream (start.run moves)
            ((start.run moves).perform (.turn index)) = [] :=
          sentIn_eq_nil (turn_hearing chronicle.tended chronicle.limited found hears).shrinks
        have watcher : watched.watcher = earlier.watcher := by
          rw [Watch.watcher, context, stream]
          rfl
        rw [watcher, stream, nothing, List.append_nil]
        exact (reflected place earlier found).fade persists.cancelled persists.size
          (turn_fades found hears)
      · have deaf (index : Nat) (turns : move = .turn index) :
            (start.run moves).heardBy index ≠ some place := fun hears =>
          heard ⟨index, turns, hears⟩
        have quiet := noise move (List.mem_append_right _ List.mem_cons_self)
        rcases perform_sees chronicle.tended kept orderly.2.1 quiet deaf watched present with
          ⟨before, reflects⟩ | ⟨absent, begun⟩
        · exact reflects.reflected _ (reflected place watched before)
        · have outside := persists.begun place watched absent present
          rw [chronicle.unopened watched.stream outside, List.nil_append, sentIn,
            unread_of_size_le outside]
          exact begun

end Runs

end System

end Admission
