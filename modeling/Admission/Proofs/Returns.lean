import Admission.Proofs.Reflections

/-!
# How often a token is given back for a resource

A listener takes no note of the resources that it is told of. It tries to give a token back whenever
a resource becomes finished, and whenever an unfinished one is taken out of the feed. From the time
that a resource is put into the feed until it is taken out, a token is thus given back for it once,
and once more each time that it is reopened: it was finished and is so no longer.

What is counted are the calls that the records of a run tell of. They are the calls that are made:
in every turn of the listener, they are all that happens to the pool.
-/

namespace Admission

namespace FeedItem

/-- Whether an item asks for a token to be given back for a resource. -/
def returnsFor (uid : String) : FeedItem → Bool
  | event change => Reconciler.demand change == .giveBack && change.uid? == some uid
  | synced => false

/-- Whether a resource was finished and is so no longer. -/
def reopens (uid : String) : FeedItem → Bool
  | event (.updated previous current) =>
      current.uid == uid && previous.isFinished && !current.isFinished
  | _ => false

/-- Whether a resource is taken out. -/
def deletes (uid : String) : FeedItem → Bool
  | event (.deleted lastKnown) => lastKnown.uid == uid
  | _ => false

end FeedItem

/-- A call that gives a token back for a resource is made where an item asks for it. -/
theorem Watch.calls_countP (uid : String) (entry : Pool × FeedItem) :
    (calls entry).countP (ReconcilerCall.releasesFor uid) = (entry.2.returnsFor uid).toNat := by
  rcases entry with ⟨pool, change | -⟩
  · simp only [calls, Reconciler.calls_eq, FeedItem.returnsFor]
    cases demanded : Reconciler.demand change with
    | claim => rfl
    | nothing => rfl
    | giveBack =>
        have about : ∃ other, change.uid? = some other := by
          cases change with
          | unrecognized kind reason => cases demanded
          | _ => exact ⟨_, rfl⟩
        rcases about with ⟨other, about⟩
        cases same : other == uid <;>
          simp [about, ReconcilerCall.releasesFor, same]
  · rfl

theorem Watch.flatMap_calls_countP (uid : String) (entries : List (Pool × FeedItem)) :
    (entries.flatMap calls).countP (ReconcilerCall.releasesFor uid) =
      (entries.map (·.2)).countP (FeedItem.returnsFor uid) := by
  induction entries with
  | nil => rfl
  | cons entry rest ih =>
      rw [List.flatMap_cons, List.countP_append, ih, calls_countP, List.map_cons,
        System.countP_cons_toNat, Nat.add_comm]

namespace Picture

/-- How often a token may be given back for a resource that is not reopened. -/
def owed (picture : Picture) (uid : String) : Nat :=
  match picture uid with
  | none => 1
  | some resource => (!resource.isFinished).toNat

section Owed

variable {picture : Picture} {item : FeedItem} {items : List FeedItem} {uid : String}

theorem owed_of_some {resource : JobResource} (shown : picture uid = some resource) :
    picture.owed uid = (!resource.isFinished).toNat := by
  rw [owed, shown]

theorem owed_le_one (picture : Picture) (uid : String) : picture.owed uid ≤ 1 := by
  rw [owed]
  split
  · exact Nat.le_refl 1
  · exact Bool.toNat_le _

theorem owed_update_of_ne {other : String} (apart : uid ≠ other) (shown : Option JobResource) :
    owed (Function.update picture other shown) uid = picture.owed uid := by
  rw [owed, owed, Function.update_of_ne apart]

/-- Nothing is given back for a resource where the change is about another one. -/
theorem owed_of_other (picture : Picture) {change : ResourceEvent}
    (other : change.uid? ≠ some uid) :
    (FeedItem.event change).returnsFor uid = false ∧
      (picture.see (.event change)).owed uid = picture.owed uid := by
  refine ⟨?_, ?_⟩
  · rw [FeedItem.returnsFor, beq_eq_false_iff_ne.mpr other, Bool.and_false]
  · cases change with
    | unrecognized kind reason => rfl
    | _ => exact owed_update_of_ne (fun same => other (congrArg some same.symm)) _

/-- A token that is given back was owed, or is owed again for a resource that is reopened. -/
theorem owed_see (fits : picture.Fits item) (stays : item.deletes uid = false) :
    (item.returnsFor uid).toNat + (picture.see item).owed uid ≤
      picture.owed uid + (item.reopens uid).toNat := by
  rcases item with change | -
  · by_cases about : change.uid? = some uid
    · cases change with
      | added resource initialList =>
          cases about
          have absent : picture.owed resource.uid = 1 := by
            rw [owed, show picture resource.uid = none from fits]
          have silent : (FeedItem.event (.added resource initialList)).returnsFor resource.uid =
              false := by
            simp only [FeedItem.returnsFor, Reconciler.demand]
            split <;> rfl
          rw [silent, absent, Bool.toNat_false]
          have once := owed_le_one (picture.see (.event (.added resource initialList))) resource.uid
          omega
      | updated previous current =>
          cases about
          have seen : (picture.see (.event (.updated previous current))).owed current.uid =
              (!current.isFinished).toNat := owed_of_some (Function.update_self ..)
          rw [seen, owed_of_some fits]
          cases before : previous.isFinished <;> cases after : current.isFinished <;>
            simp [FeedItem.returnsFor, FeedItem.reopens, Reconciler.demand, ResourceEvent.uid?,
              before, after]
      | deleted lastKnown =>
          cases about
          simp [FeedItem.deletes] at stays
      | unrecognized kind reason => cases about
    · have other := owed_of_other picture about
      rw [other.1, other.2, Bool.toNat_false]
      omega
  · exact Nat.le_of_eq (Nat.add_comm _ _)

theorem owed_of_deletes (fits : picture.Fits item) (deleted : item.deletes uid = true) :
    (item.returnsFor uid).toNat ≤ picture.owed uid := by
  rcases item with change | -
  · cases change with
    | deleted lastKnown =>
        have same : lastKnown.uid = uid := by simpa [FeedItem.deletes] using deleted
        subst same
        rw [owed_of_some fits]
        cases finished : lastKnown.isFinished with
        | false => exact Bool.toNat_le _
        | true => simp [FeedItem.returnsFor, Reconciler.demand, finished]
    | _ => cases deleted
  · cases deleted

/-- What is given back for a resource until it is taken out. -/
theorem countP_returnsFor_le (fits : picture.FitsAll items)
    (stays : ∀ item ∈ items.dropLast, item.deletes uid = false) :
    items.countP (FeedItem.returnsFor uid) ≤
      picture.owed uid + items.countP (FeedItem.reopens uid) := by
  induction items generalizing picture with
  | nil => exact Nat.zero_le _
  | cons item rest ih =>
      rw [System.countP_cons_toNat, System.countP_cons_toNat]
      cases deleted : item.deletes uid with
      | false =>
          have later := ih fits.2 fun other member => stays other ?_
          · have step := owed_see fits.1 deleted
            omega
          · cases rest with
            | nil => cases member
            | cons next others => exact List.mem_cons_of_mem item member
      | true =>
          -- Only the last item may take the resource out, and nothing is owed after it.
          have last : rest = [] := by
            cases rest with
            | nil => rfl
            | cons next others =>
                have kept := stays item List.mem_cons_self
                rw [deleted] at kept
                cases kept
          have step := owed_of_deletes fits.1 deleted
          rw [last, List.countP_nil, List.countP_nil]
          omega

end Owed

end Picture

namespace System

/-- What the reconciler of a watch calls in a run. -/
structure Returns (start : System) (place : Nat) (moves : List Move) : Prop where
  /-- The calls are made for the items that the listener applies. -/
  called : start.gather (callsIn place) moves =
    (start.gather (appliedIn place) moves).flatMap Watch.calls
  /-- In every turn of the listener, the calls are all that happens to the pool. -/
  served : ∀ early index late, moves = early ++ .turn index :: late →
    (start.run early).heardBy index = some place →
      ((start.run early).pool 0).Serves ((start.run early).callsIn place (.turn index))
        ((start.run (early ++ [.turn index])).pool 0)
  /-- Until a resource is taken out, a token is given back for it at most once more than it is
  reopened. -/
  bounded : ∀ (uid : String) (before life after : List (Pool × FeedItem)),
    start.gather (appliedIn place) moves = before ++ life ++ after →
    (∀ entry ∈ life.dropLast, entry.2.deletes uid = false) →
    (life.flatMap Watch.calls).countP (ReconcilerCall.releasesFor uid) ≤
      1 + life.countP fun entry => entry.2.reopens uid

section Returns

variable {start : System} {moves : List Move} {feed : MemoryFeed} {place : Nat}

/-- What a listener applies fits the picture that it leaves. -/
theorem fitsAll_applied (new : start.IsNew) (limited : 0 < start.limiters.length)
    (has : start.HasFeed feed) (orderly : start.Orderly moves)
    (noise : ∀ move ∈ moves, move.InjectsNoise) (place : Nat) :
    Picture.blank.FitsAll ((start.gather (appliedIn place) moves).map (·.2)) := by
  have chronicle := chronicle_of_orderly new limited orderly
  cases present : (start.run moves).watches[place]? with
  | none =>
      rw [(chronicle.unbegun place present).1]
      trivial
  | some watched =>
      have reflected := (reflected_of_orderly new limited has orderly noise).2 place watched present
      rcases (chronicle.logged place watched present).within with ⟨unread, complete⟩
      have fits := reflected.fits
      rw [← complete, Picture.fitsAll_append] at fits
      exact fits.1

theorem Chronicle.callsIn_eq (chronicle : Chronicle start moves) (place : Nat) (move : Move) :
    (start.run moves).callsIn place move =
      ((start.run moves).appliedIn place move).flatMap Watch.calls := by
  by_cases heard : ∃ index, move = .turn index ∧ (start.run moves).heardBy index = some place
  · rcases heard with ⟨index, rfl, hears⟩
    rcases watch_of_heard chronicle.tended hears with ⟨watched, present⟩
    exact callsIn_of_heard chronicle.tended chronicle.limited present hears
  · have deaf (index : Nat) (turns : move = .turn index) :
        (start.run moves).heardBy index ≠ some place := fun hears => heard ⟨index, turns, hears⟩
    rw [callsIn_of_deaf deaf, appliedIn_of_deaf deaf, List.flatMap_nil]

theorem calls_of_orderly (new : start.IsNew) (limited : 0 < start.limiters.length)
    (orderly : start.Orderly moves) (place : Nat) :
    start.gather (callsIn place) moves =
      (start.gather (appliedIn place) moves).flatMap Watch.calls := by
  induction moves using List.reverseRecOn with
  | nil => rfl
  | append_singleton moves move ih =>
      rw [orderly_append] at orderly
      have chronicle := chronicle_of_orderly new limited orderly.1
      rw [gather_concat, gather_concat, ih orderly.1, chronicle.callsIn_eq, List.flatMap_append]

/-- In a turn of the listener, the pool takes the calls that are made. -/
theorem Chronicle.serves (chronicle : Chronicle start moves) {index : Nat}
    (hears : (start.run moves).heardBy index = some place) :
    ((start.run moves).pool 0).Serves ((start.run moves).callsIn place (.turn index))
      (((start.run moves).turn index).pool 0) := by
  rcases watch_of_heard chronicle.tended hears with ⟨watched, present⟩
  rw [callsIn_of_heard chronicle.tended chronicle.limited present hears,
    (turn_hearing chronicle.tended chronicle.limited present hears).pool,
    appliedIn_of_heard hears present]
  split
  · exact .nil _
  · rw [Watch.encounters_items]
    exact Watch.encounters_serves _ _

/-- Until a resource is taken out, a token is given back for it at most once more than it is
reopened. -/
theorem returns_le_of_orderly (new : start.IsNew) (limited : 0 < start.limiters.length)
    (has : start.HasFeed feed) (orderly : start.Orderly moves)
    (noise : ∀ move ∈ moves, move.InjectsNoise) (place : Nat) : Returns start place moves where
  called := calls_of_orderly new limited orderly place
  served := by
    intro early index late split hears
    rw [split, orderly_append] at orderly
    have ran : start.run (early ++ [.turn index]) = (start.run early).turn index :=
      run_append _ _ _
    rw [ran]
    exact (chronicle_of_orderly new limited orderly.1).serves hears
  bounded := by
    intro uid before life after span stays
    have fits := fitsAll_applied new limited has orderly noise place
    rw [span, List.map_append, List.map_append, List.append_assoc, Picture.fitsAll_append,
      Picture.fitsAll_append] at fits
    have staysMapped : ∀ item ∈ (life.map (·.2)).dropLast, item.deletes uid = false := by
      intro item member
      rw [← List.map_dropLast] at member
      rcases List.mem_map.mp member with ⟨entry, among, rfl⟩
      exact stays entry among
    have counted := Picture.countP_returnsFor_le fits.2.1 staysMapped
    have once := Picture.owed_le_one ((before.map (·.2)).foldl Picture.see Picture.blank) uid
    rw [← Watch.flatMap_calls_countP, List.countP_map] at counted
    exact Nat.le_trans counted (Nat.add_le_add_right once _)

/-- A limiter, and the cluster's feed with a job that is running. -/
def withRunningJob : System :=
  { limiters := [{ pool := .full 2, next := "end" }]
    feeds := [(clusterFeed, .memory (.ofResources [.running "a" "a"]))] }

/-- The job is finished, reopened and finished again while it is watched. -/
def reopening : List Move :=
  [.elsewhere .createContext, .start (.registration clusterFeed ⟨⟨0, 0⟩, []⟩ none), .turn 0,
    .turn 1, .turn 0, .elsewhere (.applyResource clusterFeed (.completed "a" "a")),
    .elsewhere (.applyResource clusterFeed (.running "a" "a")), .turn 1,
    .elsewhere (.applyResource clusterFeed (.completed "a" "a")), .turn 1]

/-- What the listener then applies, each item to the pool that it finds. -/
def reopened : List (Pool × FeedItem) :=
  withRunningJob.gather (appliedIn 0) reopening

theorem withRunningJob_isNew : withRunningJob.IsNew where
  tasks := rfl
  watches := rfl
  streams := rfl
  cancellation := rfl
  names := by decide
  unwatched := by simp [withRunningJob, Feed.held, MemoryFeed.ofResources]

theorem withRunningJob_hasFeed : withRunningJob.HasFeed (.ofResources [.running "a" "a"]) where
  feeds := rfl
  sorted := MemoryFeed.ofResources_sorted _
  streamed := nofun

theorem reopening_quiet : ∀ move ∈ reopening, move.InjectsNoise := by
  simp [reopening, Move.InjectsNoise, Happening.InjectsNoise]

/-- A token is given back twice for a job that is reopened once. The pool does not take the second
one. -/
theorem returns_le_reopened :
    Returns withRunningJob 0 reopening ∧
      withRunningJob.gather (callsIn 0) reopening =
        [.tryAcquire "a" true, .tryRelease "a" true, .tryRelease "a" false] ∧
      (reopened.flatMap Watch.calls).countP (ReconcilerCall.releasesFor "a") = 2 ∧
      (reopened.countP fun entry => entry.2.reopens "a") = 1 :=
  ⟨returns_le_of_orderly withRunningJob_isNew (by decide) withRunningJob_hasFeed
    (by decide +kernel) reopening_quiet 0, by decide +kernel, by decide +kernel, by decide +kernel⟩

/-- A token may be given back more than once between the time that a resource is put into the feed
and its deletion. -/
theorem returned_twice :
    ¬∀ (start : System) (feed : MemoryFeed) (moves : List Move) (place : Nat) (pool : Pool)
      (resource : JobResource) (initialList : Bool) (before life after : List (Pool × FeedItem)),
      start.IsNew → 0 < start.limiters.length → start.HasFeed feed → start.Orderly moves →
      (∀ move ∈ moves, move.InjectsNoise) →
      start.gather (appliedIn place) moves =
        before ++ ((pool, .event (.added resource initialList)) :: life) ++ after →
      (∀ entry ∈ life.dropLast, entry.2.deletes resource.uid = false) →
      (life.flatMap Watch.calls).countP (ReconcilerCall.releasesFor resource.uid) ≤ 1 := by
  intro once
  have twice := once withRunningJob _ reopening 0 (.full 2) (.running "a" "a") true []
    reopened.tail [] withRunningJob_isNew (by decide) withRunningJob_hasFeed (by decide +kernel)
    reopening_quiet (by decide +kernel) (by decide +kernel)
  exact absurd twice (by decide +kernel)

end Returns

end System

end Admission
