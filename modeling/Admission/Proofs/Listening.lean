import Admission.Proofs.FeedChanges
import Admission.Proofs.Limiters

/-!
# What a listener has still to apply

The items of a stream that its listener has not read yet are changes of which the pool does not
know. Some of them will claim a token and some will give one back. `Balanced` says what the claimed
tokens amount to in the meantime: together with those that unread items will claim they are as many
as the tokens that belong to somebody and those that unread items will give back.

A stream begins with the replay of what was there when the watch began, and only the replay claims
tokens. Before the mark at its end is read nobody else uses the pool, so that every claim of the
replay finds a token.
-/

namespace Admission

namespace FeedItem

/-- Whether an item tells of an unfinished job that was there when the watch began. -/
def claims : FeedItem → Bool
  | event (.added resource initialList) => initialList && !resource.isFinished
  | _ => false

/-- Whether an item tells that an unfinished job finished or is gone. -/
def endsJob : FeedItem → Bool
  | event (.updated previous current) => !previous.isFinished && current.isFinished
  | event (.deleted lastKnown) => !lastKnown.isFinished
  | _ => false

theorem countP_endsJob_singleton (item : FeedItem) :
    [item].countP endsJob = item.endsJob.toNat := by
  rw [List.countP_singleton]
  cases item.endsJob <;> rfl

end FeedItem

namespace Reconciler

variable {change : ResourceEvent}

theorem demand_of_claims (claims : (FeedItem.event change).claims = true) :
    demand change = .claim := by
  cases change with
  | added resource initialList => exact if_pos claims
  | updated previous current => cases claims
  | deleted lastKnown => cases claims
  | unrecognized kind reason => cases claims

theorem demand_of_endsJob (ends : (FeedItem.event change).endsJob = true) :
    demand change = .giveBack := by
  cases change with
  | added resource initialList => cases ends
  | updated previous current => exact if_pos ends
  | deleted lastKnown =>
      have unfinished : lastKnown.isFinished = false := by simpa [FeedItem.endsJob] using ends
      simp [demand, unfinished]
  | unrecognized kind reason => cases ends

theorem demand_of_neither (noClaim : (FeedItem.event change).claims = false)
    (noEnd : (FeedItem.event change).endsJob = false) : demand change = .nothing := by
  cases change with
  | added resource initialList => exact if_neg (by simpa [FeedItem.claims] using noClaim)
  | updated previous current => exact if_neg (by simpa [FeedItem.endsJob] using noEnd)
  | deleted lastKnown =>
      have finished : lastKnown.isFinished = true := by simpa [FeedItem.endsJob] using noEnd
      simp [demand, finished]
  | unrecognized kind reason => rfl

end Reconciler

/-- A pool that nobody uses but a listener that has not met the mark yet. -/
structure Replaying (pool : Pool) (items : List FeedItem) : Prop where
  /-- No token is on its way to a waiter. -/
  noneHanded : pool.handed = []
  /-- There is a token for every claim. -/
  enough : pool.inUse + items.countP FeedItem.claims ≤ pool.capacity
  /-- Only what was there before the watch began stands in front of the mark, and nothing of that
  kind behind it. -/
  marked : ∃ replay later, items = replay ++ .synced :: later ∧
    (∀ item ∈ replay, ∃ resource, item = .event (.added resource true)) ∧
    ∀ item ∈ later, item.claims = false

/-- The claimed tokens, and those that unread items claim, are those that belong to somebody, and
those that unread items give back. -/
structure Balanced (owned : Nat) (pool : Pool) (isSynced : Bool) (items : List FeedItem) :
    Prop where
  sound : pool.Sound
  balance : pool.inUse + items.countP FeedItem.claims = owned + items.countP FeedItem.endsJob
  replayed : isSynced = true → ∀ item ∈ items, item.claims = false
  replaying : isSynced = false → Replaying pool items

namespace Balanced

variable {owned later : Nat} {pool used : Pool} {isSynced : Bool} {item : FeedItem}
  {items changes : List FeedItem}

theorem countP_claims_of_none (none : ∀ item ∈ items, item.claims = false) :
    items.countP FeedItem.claims = 0 := by
  rw [List.countP_eq_zero]
  intro item member claims
  rw [none item member] at claims
  cases claims

/-- After the mark, what is claimed belongs to somebody or is given back by an unread item. -/
theorem inUse_eq (balanced : Balanced owned pool true items) :
    pool.inUse = owned + items.countP FeedItem.endsJob := by
  have balance := balanced.balance
  rw [countP_claims_of_none (balanced.replayed rfl)] at balance
  exact balance

theorem inUse_le (balanced : Balanced owned pool isSynced items) : pool.inUse ≤ pool.capacity := by
  have conserved := balanced.sound.conserved
  omega

/-- The feed tells further changes, and after the mark others may use the pool, if what they claim
belongs to somebody. -/
theorem goOn (balanced : Balanced owned pool isSynced items) (reaches : pool.Reaches used)
    (unused : isSynced = false → used = pool) (noClaims : ∀ item ∈ changes, item.claims = false)
    (passed : used.inUse + owned = pool.inUse + later + changes.countP FeedItem.endsJob) :
    Balanced later used isSynced (items ++ changes) where
  sound := reaches.sound balanced.sound
  balance := by
    have balance := balanced.balance
    rw [List.countP_append, List.countP_append, countP_claims_of_none noClaims]
    omega
  replayed := by
    intro synced item member
    rcases List.mem_append.mp member with before | new
    · exact balanced.replayed synced item before
    · exact noClaims item new
  replaying := by
    intro notSynced
    have replaying := balanced.replaying notSynced
    rcases replaying.marked with ⟨replay, behind, split, front, back⟩
    rw [unused notSynced]
    refine ⟨replaying.noneHanded, ?_, replay, behind ++ changes, by simp [split], front, ?_⟩
    · rw [List.countP_append, countP_claims_of_none noClaims]
      exact replaying.enough
    · intro item member
      rcases List.mem_append.mp member with before | new
      · exact back item before
      · exact noClaims item new

/-- The first item is one of the replay or the mark, if the mark has not been read. -/
theorem head_of_replaying (replaying : Replaying pool (item :: items)) :
    (item = .synced ∧ ∀ other ∈ items, other.claims = false) ∨
      ∃ resource, item = .event (.added resource true) ∧
        ∃ replay behind, items = replay ++ .synced :: behind ∧
          (∀ other ∈ replay, ∃ resource, other = .event (.added resource true)) ∧
          ∀ other ∈ behind, other.claims = false := by
  rcases replaying.marked with ⟨replay, behind, split, front, back⟩
  cases replay with
  | nil =>
      rcases List.cons.inj split with ⟨rfl, rfl⟩
      exact Or.inl ⟨rfl, back⟩
  | cons first rest =>
      rcases List.cons.inj split with ⟨rfl, rfl⟩
      rcases front item List.mem_cons_self with ⟨resource, rfl⟩
      exact Or.inr ⟨resource, rfl, rest, behind, rfl,
        fun other member => front other (List.mem_cons_of_mem _ member), back⟩

/-- The mark opens the pool to others. -/
theorem take_synced (balanced : Balanced owned pool isSynced (.synced :: items)) :
    Balanced owned pool true items where
  sound := balanced.sound
  balance := by
    have balance := balanced.balance
    simpa [FeedItem.claims, FeedItem.endsJob] using balance
  replayed := by
    intro _ other member
    cases synced : isSynced with
    | true => exact balanced.replayed synced other (List.mem_cons_of_mem _ member)
    | false =>
        rcases head_of_replaying (balanced.replaying synced) with
          ⟨-, back⟩ | ⟨resource, impossible, -⟩
        · exact back other member
        · cases impossible
  replaying := by
    intro notSynced
    cases notSynced

/-- An item of the replay claims the token that is there for it. -/
theorem take_claim (balanced : Balanced owned pool isSynced (item :: items))
    (claims : item.claims = true) : Balanced owned pool.tryAcquire.2 isSynced items := by
  have notSynced : isSynced = false := by
    cases synced : isSynced with
    | true =>
        have none := balanced.replayed synced item List.mem_cons_self
        rw [claims] at none
        cases none
    | false => rfl
  have replaying := balanced.replaying notSynced
  rcases head_of_replaying replaying with ⟨rfl, -⟩ | ⟨resource, rfl, marked⟩
  · cases claims
  have conserved := balanced.sound.conserved
  have enough := replaying.enough
  rw [List.countP_cons_of_pos claims] at enough
  rw [replaying.noneHanded, List.length_nil] at conserved
  have taken : pool.tryAcquire.1 = true := by
    rw [Pool.tryAcquire_answer, decide_eq_true_iff]
    omega
  have claimed := pool.tryAcquire_inUse
  rw [taken, Bool.toNat_true] at claimed
  refine ⟨Pool.tryAcquire_sound balanced.sound, ?_, ?_, ?_⟩
  · have balance := balanced.balance
    rw [List.countP_cons_of_pos claims, List.countP_cons_of_neg (by simp [FeedItem.endsJob])]
      at balance
    omega
  · intro synced
    rw [notSynced] at synced
    cases synced
  · refine fun _ => ⟨?_, ?_, marked⟩
    · rw [(Pool.tryAcquire_frame pool).2.2, replaying.noneHanded]
    · rw [(Pool.tryAcquire_frame pool).1]
      omega

/-- An item that tells of a job that ended gives back the token that it stands for. -/
theorem take_giveBack (balanced : Balanced owned pool isSynced (item :: items))
    (ends : item.endsJob = true) : Balanced owned pool.tryRelease.2.1 isSynced items := by
  have synced : isSynced = true := by
    cases synced : isSynced with
    | true => rfl
    | false =>
        rcases head_of_replaying (balanced.replaying synced) with ⟨rfl, -⟩ | ⟨resource, rfl, -⟩
        · cases ends
        · cases ends
  subst synced
  have claimed := balanced.inUse_eq
  rw [List.countP_cons_of_pos ends] at claimed
  have none : ∀ other ∈ items, other.claims = false := fun other member =>
    balanced.replayed rfl other (List.mem_cons_of_mem _ member)
  refine ⟨Pool.tryRelease_sound balanced.sound, ?_, fun _ => none, ?_⟩
  · rw [(Pool.tryRelease_frame pool).2, countP_claims_of_none none]
    omega
  · intro notSynced
    cases notSynced

/-- An item that asks for nothing is read without further ado. -/
theorem take_nothing (balanced : Balanced owned pool isSynced (item :: items))
    (event : item ≠ .synced) (noClaim : item.claims = false) (noEnd : item.endsJob = false) :
    Balanced owned pool isSynced items where
  sound := balanced.sound
  balance := by
    have balance := balanced.balance
    rw [List.countP_cons_of_neg (by simp [noClaim]), List.countP_cons_of_neg (by simp [noEnd])]
      at balance
    exact balance
  replayed := fun synced other member =>
    balanced.replayed synced other (List.mem_cons_of_mem _ member)
  replaying := by
    intro notSynced
    have replaying := balanced.replaying notSynced
    rcases head_of_replaying replaying with ⟨mark, -⟩ | ⟨resource, -, marked⟩
    · exact absurd mark event
    · refine ⟨replaying.noneHanded, ?_, marked⟩
      have enough := replaying.enough
      rw [List.countP_cons_of_neg (by simp [noClaim])] at enough
      exact enough

/-- Whatever the listener finds first, the balance is kept. -/
theorem take (balanced : Balanced owned pool isSynced (item :: items)) (place index : Nat)
    (feed : String) :
    Balanced owned (Watch.take place index feed pool isSynced item).1
      (Watch.take place index feed pool isSynced item).2.1 items := by
  cases item with
  | synced =>
      have after := balanced.take_synced
      simp only [Watch.take]
      split <;> exact after
  | event change =>
      simp only [Watch.take, Reconciler.apply, Reconciler.settle]
      cases claims : (FeedItem.event change).claims with
      | true =>
          rw [Reconciler.demand_of_claims claims]
          exact balanced.take_claim claims
      | false =>
          cases ends : (FeedItem.event change).endsJob with
          | true =>
              rw [Reconciler.demand_of_endsJob ends]
              exact balanced.take_giveBack ends
          | false =>
              rw [Reconciler.demand_of_neither claims ends]
              exact balanced.take_nothing (by simp) claims ends

/-- The balance is kept along all that the listener reads in a turn. -/
theorem takeAll {unread : List FeedItem} (balanced : Balanced owned pool isSynced (items ++ unread))
    (place index : Nat) (feed : String) :
    Balanced owned (Watch.takeAll place index feed pool isSynced items).1
      (Watch.takeAll place index feed pool isSynced items).2.1 unread := by
  induction items generalizing pool isSynced with
  | nil => exact balanced
  | cons item rest ih => exact ih (balanced.take place index feed)

/-- A pool that nobody has used is balanced for the replay of a feed with no more unfinished jobs
than there are tokens. -/
theorem of_replay {capacity : Nat} (feed : MemoryFeed)
    (few : MemoryFeed.unfinished feed.resources ≤ capacity) :
    Balanced (MemoryFeed.unfinished feed.resources) (.full capacity) false feed.replay := by
  have claims : feed.replay.countP FeedItem.claims = MemoryFeed.unfinished feed.resources := by
    simp only [MemoryFeed.replay, List.countP_append, List.countP_map, MemoryFeed.unfinished]
    rfl
  have ends : feed.replay.countP FeedItem.endsJob = 0 := by
    rw [List.countP_eq_zero]
    intro item member
    rcases List.mem_append.mp member with replayed | mark
    · rcases List.mem_map.mp replayed with ⟨resource, -, rfl⟩
      simp [FeedItem.endsJob]
    · rw [List.mem_singleton.mp mark]
      simp [FeedItem.endsJob]
  refine ⟨Pool.full_sound capacity, ?_, ?_, fun _ => ⟨rfl, ?_, ?_⟩⟩
  · rw [claims, ends]
    exact Nat.zero_add _
  · intro synced
    cases synced
  · rw [claims]
    simpa [Pool.full] using few
  · refine ⟨_, [], rfl, ?_, List.forall_mem_nil _⟩
    intro item member
    rcases List.mem_map.mp member with ⟨resource, -, rfl⟩
    exact ⟨resource, rfl⟩

end Balanced

end Admission
