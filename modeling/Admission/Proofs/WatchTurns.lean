import Admission.Proofs.Following
import Admission.Proofs.JobTurns
import Admission.Proofs.Proceeding

/-!
# What the turns of a watch do

A registration starts a watch and its listener in its first turn, and finds out in later ones
whether the listener has met the mark. The listener takes items out of the stream, one turn after
the other. Neither changes a resource of the feed, and as long as nobody cancels the context of the
watch, the watch goes on following the feed.
-/

namespace Admission

namespace System

variable {system : System} {index : Nat} {state : TaskState} {context : Context} {watch : Watch}
  {feed : MemoryFeed} {stream : Stream}

/-- A registration that does not fail goes on waiting, or succeeds because the mark was met. -/
theorem settleRegistration_cases (found : system.tasks[index]? = some state) {place : Nat}
    (foundWatch : system.watches[place]? = some watch) {deadline : Option Nat}
    (succeeds : ∀ error, (system.settleRegistration index context place deadline).outcome? index ≠
      some (.registered (.error error))) :
    system.settleRegistration index context place deadline = system ∨
      (watch.isSynced = true ∧
        system.SameFeeds (system.settleRegistration index context place deadline) ∧
        (system.settleRegistration index context place deadline).tasks =
          system.tasks.modify index fun state =>
            { state with outcome := some (.registered (.ok ())) }) := by
  simp only [settleRegistration, foundWatch] at succeeds ⊢
  split
  · exact Or.inl rfl
  · rename_i verdict
    refine Or.inr ⟨Registration.isSynced_of_verdict verdict, ?_, by simp⟩
    exact ((SameFeeds.refl system).note _).finish index _
  · rename_i error verdict
    have fails := succeeds error
    simp only [verdict] at fails
    exact absurd (finish_outcome? (by simpa using found) _) fails

/-! ### The first turn of a registration -/

/-- A registration has started its watch and its listener. -/
def withWatch (system : System) (index : Nat) (context : Context) (deadline : Option Nat) :
    System :=
  let (cancellation, own) := system.cancellation.child context
  let watching := ({ system with cancellation }.watchFeed clusterFeed own).1
  let watching :=
    { watching with
      watches := watching.watches.push
        ⟨MemoryFeed.name, own, system.streams.size, false, false⟩ }
  (((watching.holdContext own).setTask index
    (.registration clusterFeed context (some (system.watches.size, deadline)))).spawn
      (.listening system.watches.size)).1

theorem startRegistration_eq (has : system.HasFeed feed) (index : Nat) (context : Context) :
    ∃ deadline, system.startRegistration index clusterFeed context =
      (system.withWatch index context deadline).settleRegistration index context
        system.watches.size deadline := by
  simp only [startRegistration, withWatch, watchFeed, has.feeds, List.lookup_cons, BEq.rfl]
  exact ⟨_, rfl⟩

/-- The watch begins with the replay of the resources that are there. -/
theorem withWatch_follows (has : system.HasFeed feed) (unwatched : system.watches = #[])
    (index : Nat) (context : Context) (deadline : Option Nat) :
    ∃ watch, (system.withWatch index context deadline).watches = #[watch] ∧
      watch.isSynced = false ∧ watch.context = (system.cancellation.child context).2 ∧
      (system.withWatch index context deadline).Follows watch
        (feed.addWatcher ⟨watch.context, watch.stream⟩) { items := feed.replay } := by
  refine ⟨⟨MemoryFeed.name, (system.cancellation.child context).2, system.streams.size, false,
    false⟩, ?_, rfl, rfl, ?_⟩
  · simp [withWatch, unwatched]
  · have child : ({ system with
        cancellation := (system.cancellation.child context).1 } : System).HasFeed feed :=
      has.congr rfl (Nat.le_refl _)
    have watched := child.watchFeed (system.cancellation.child context).2
    have apart : feed.watchers.filter
        (fun watcher => watcher.stream == system.streams.size) = [] := by
      rw [List.filter_eq_nil_iff]
      intro watcher member same
      have inside := has.streamed watcher member
      rw [beq_iff_eq] at same
      omega
    refine ⟨watched.congr ?_ ?_, ?_, ?_, rfl, rfl⟩
    · simp [withWatch]
    · simp [withWatch]
    · simp only [MemoryFeed.addWatcher, List.filter_append, apart, List.nil_append]
      exact List.filter_cons_of_pos BEq.rfl
    · simp [withWatch, watchFeed, has.feeds]

theorem withWatch_frame (system : System) (index : Nat) (context : Context)
    (deadline : Option Nat) :
    (system.withWatch index context deadline).limiters = system.limiters ∧
      (system.withWatch index context deadline).tasks =
        (system.tasks.modify index fun state => { state with
          task := .registration clusterFeed context (some (system.watches.size, deadline)) }).push
          { task := .listening system.watches.size } := by
  simp [withWatch]

/-- The registration waits for its watch from then on. -/
theorem withWatch_registration (found : system.tasks[index]? = some state) (context : Context)
    (deadline : Option Nat) :
    (system.withWatch index context deadline).tasks[index]? =
      some { state with
        task := .registration clusterFeed context (some (system.watches.size, deadline)) } := by
  have inside := (Array.getElem?_eq_some_iff.mp found).1
  rw [(withWatch_frame system index context deadline).2, Array.getElem?_push, Array.size_modify,
    if_neg (Nat.ne_of_lt inside)]
  simp [Array.getElem?_modify, found]

/-- The watch has a context of its own under that of the registration. -/
theorem withWatch_reaches (has : system.HasFeed feed) (wards : Nat → Prop) (index : Nat)
    (context : Context) (deadline : Option Nat) :
    (system.cancellation.child context).1.Reaches wards
      (system.withWatch index context deadline).cancellation := by
  have held : (system.withWatch index context deadline).cancellation =
      ((system.cancellation.child context).1.clone (system.cancellation.child context).2).clone
        (system.cancellation.child context).2 := by
    simp only [withWatch, watchFeed, has.feeds, List.lookup_cons, BEq.rfl, spawn_frame,
      setTask_frame, holdContext, setFeed_frame, newStream_frame]
  rw [held]
  exact (Cancellation.Reaches.clone .unchanged _).clone _

/-! ### Turns of the listener -/

/-- What the listener of the only watch comes to in a turn. -/
def heard (system : System) (watch : Watch) (stream : Stream) : Pool × Bool × List Notice :=
  Watch.takeAll 0 0 watch.feed (system.pool 0) watch.isSynced (stream.items.take turnLimit)

/-- A mark that was met stays met. -/
theorem heard_isSynced (system : System) (watch : Watch) (stream : Stream)
    (synced : watch.isSynced = true) : (system.heard watch stream).2.1 = true := by
  rw [heard, synced, Watch.takeAll_isSynced, Bool.true_or]

/-- The listener goes on reading what the watch is told. -/
theorem listen_follows (follows : system.Follows watch feed stream)
    (watches : system.watches = #[watch])
    (uncancelled : system.isCancelled watch.context = false) (index : Nat) :
    (system.listen index 0).limiters = (system.setPool 0 (system.heard watch stream).1).limiters ∧
      (system.listen index 0).tasks = system.tasks ∧
      (system.listen index 0).watches =
        #[{ watch with isSynced := (system.heard watch stream).2.1 }] ∧
      (system.listen index 0).Follows { watch with isSynced := (system.heard watch stream).2.1 }
        feed { stream with items := stream.items.drop turnLimit } := by
  have first : system.watches[0]? = some watch := by simp [watches]
  have following {next : System} (feeds : next.feeds = system.feeds)
      (streams : next.streams = system.streams.modify watch.stream fun stream =>
        (stream.take turnLimit).1) :
      next.Follows { watch with isSynced := (system.heard watch stream).2.1 } feed
        { stream with items := stream.items.drop turnLimit } := by
    refine ⟨follows.toHasFeed.congr feeds (by simp [streams]), follows.alone, ?_,
      follows.hasWriter, follows.hasReader⟩
    simp [streams, Array.getElem?_modify, follows.found, Stream.take]
  simp only [listen, first, uncancelled, Bool.false_eq_true, if_false, follows.found,
    Option.getD_some]
  split
  · refine ⟨by simp [heard, Stream.take], by simp, by simp [watches, heard, Stream.take], ?_⟩
    exact following (by simp) (by simp)
  · rw [if_pos follows.hasWriter]
    refine ⟨by simp [heard, Stream.take], by simp, by simp [watches, heard, Stream.take], ?_⟩
    exact following (by simp) (by simp)

end System

end Admission
