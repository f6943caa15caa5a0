import Admission.Pool
import Mathlib.Data.List.Nodup

/-!
# Sound pools

A token of a pool is in one of three places: it is available, it is claimed, or it was handed to a
waiter that has not had a turn since. A pool is sound if these three add up to its capacity, if no
token is available while somebody waits for one, and if nobody waits twice.

This file proves that every operation keeps a pool sound, and says for each operation what becomes
of the claimed tokens, of the queue and of those who were handed a token. Later files use these
facts and do not look into the operations again.
-/

namespace Admission

namespace Pool

/-- Every token is in one place, none is idle while somebody waits, and nobody waits twice. -/
structure Sound (pool : Pool) : Prop where
  /-- The tokens available, claimed and handed over are all tokens. -/
  conserved : pool.available + pool.inUse + pool.handed.length = pool.capacity
  /-- No token is available while somebody waits for one. -/
  noneIdle : pool.queue ≠ [] → pool.available = 0
  /-- A waiter stands in the queue or was handed a token, and only once. -/
  distinct : (pool.queue ++ pool.handed).Nodup

theorem full_sound (capacity : Nat) : (full capacity).Sound where
  conserved := by simp [full]
  noneIdle := by simp [full]
  distinct := by simp [full]

/-- A pool that was set up has all its tokens, and it can be set up for every capacity that is
positive and not too large to be counted. -/
theorem create_eq_full {capacity : Nat} (positive : 1 ≤ capacity)
    (countable : capacity ≤ maxCapacity) : create capacity = .ok (full capacity) := by
  have notZero : capacity ≠ 0 := by omega
  have notLarger : ¬maxCapacity < capacity := by omega
  simp [create, notZero, notLarger]

theorem eq_full_of_create {capacity : Nat} {pool : Pool} (created : create capacity = .ok pool) :
    pool = full capacity := by
  simp only [create] at created
  split at created
  · cases created
  · split at created
    · cases created
    · exact (Except.ok.inj created).symm

theorem le_maxCapacity_of_create {capacity : Nat} {pool : Pool}
    (created : create capacity = .ok pool) : capacity ≤ maxCapacity := by
  simp only [create] at created
  split at created
  · cases created
  · split at created
    · cases created
    · omega

/-! ### Claiming at once -/

theorem tryAcquire_answer (pool : Pool) :
    (pool.tryAcquire).1 = decide (0 < pool.available) := by
  by_cases none : pool.available = 0
  · simp [tryAcquire, none]
  · simp [tryAcquire, none, Nat.pos_of_ne_zero none]

theorem tryAcquire_inUse (pool : Pool) :
    (pool.tryAcquire).2.inUse = pool.inUse + (pool.tryAcquire).1.toNat := by
  simp only [tryAcquire]
  split <;> simp

@[simp]
theorem tryAcquire_frame (pool : Pool) :
    (pool.tryAcquire).2.capacity = pool.capacity ∧
      (pool.tryAcquire).2.queue = pool.queue ∧ (pool.tryAcquire).2.handed = pool.handed := by
  simp only [tryAcquire]
  split <;> simp

theorem tryAcquire_sound {pool : Pool} (sound : pool.Sound) : (pool.tryAcquire).2.Sound := by
  simp only [tryAcquire]
  split
  · exact sound
  · rename_i some
    have conserved := sound.conserved
    refine ⟨?_, ?_, sound.distinct⟩
    · simp only
      omega
    · intro waiting
      have := sound.noneIdle waiting
      omega

/-! ### Handing on -/

@[simp]
theorem handOn_frame (pool : Pool) :
    pool.handOn.1.capacity = pool.capacity ∧ pool.handOn.1.inUse = pool.inUse := by
  simp only [handOn]
  split <;> simp

/-- The waiter that is handed the token leaves the head of the queue and joins those who were
handed one. -/
theorem handOn_moves (pool : Pool) :
    pool.queue = pool.handOn.2.toList ++ pool.handOn.1.queue ∧
      pool.handOn.1.handed = pool.handed ++ pool.handOn.2.toList := by
  simp only [handOn]
  split
  · rename_i empty
    simp [empty]
  · rename_i first rest waiting
    simp [waiting]

/-- A token that is in no place makes the pool sound once it is handed on. -/
theorem handOn_sound {pool : Pool}
    (loose : pool.available + pool.inUse + pool.handed.length + 1 = pool.capacity)
    (noneIdle : pool.queue ≠ [] → pool.available = 0)
    (distinct : (pool.queue ++ pool.handed).Nodup) : pool.handOn.1.Sound := by
  simp only [handOn]
  split
  · rename_i empty
    refine ⟨?_, ?_, distinct⟩
    · simp only
      omega
    · intro waiting
      exact absurd empty waiting
  · rename_i first rest waiting
    refine ⟨?_, ?_, ?_⟩
    · simp only [List.length_append, List.length_singleton]
      omega
    · intro _
      exact noneIdle (by simp [waiting])
    · rw [waiting] at distinct
      have rotated : (rest ++ pool.handed ++ [first]).Perm (first :: (rest ++ pool.handed)) :=
        List.perm_append_singleton first (rest ++ pool.handed)
      rw [← List.append_assoc]
      exact rotated.nodup_iff.mpr distinct

/-! ### Giving back -/

theorem tryRelease_answer (pool : Pool) :
    (pool.tryRelease).1 = decide (0 < pool.inUse) := by
  by_cases none : pool.inUse = 0
  · simp [tryRelease, none]
  · simp [tryRelease, none, Nat.pos_of_ne_zero none]

@[simp]
theorem tryRelease_frame (pool : Pool) :
    (pool.tryRelease).2.1.capacity = pool.capacity ∧
      (pool.tryRelease).2.1.inUse = pool.inUse - 1 := by
  simp only [tryRelease]
  split
  · rename_i none
    simp [none]
  · simp

theorem tryRelease_moves (pool : Pool) :
    pool.queue = (pool.tryRelease).2.2.toList ++ (pool.tryRelease).2.1.queue ∧
      (pool.tryRelease).2.1.handed = pool.handed ++ (pool.tryRelease).2.2.toList := by
  simp only [tryRelease]
  split
  · simp
  · exact handOn_moves { pool with inUse := pool.inUse - 1 }

theorem tryRelease_sound {pool : Pool} (sound : pool.Sound) : (pool.tryRelease).2.1.Sound := by
  simp only [tryRelease]
  split
  · exact sound
  · rename_i claimed
    have conserved := sound.conserved
    refine handOn_sound ?_ sound.noneIdle sound.distinct
    simp only
    omega

/-! ### Giving up -/

@[simp]
theorem withdraw_frame (pool : Pool) (waiter : Nat) :
    (pool.withdraw waiter).1.capacity = pool.capacity ∧
      (pool.withdraw waiter).1.inUse = pool.inUse := by
  simp only [withdraw]
  split <;> simp

/-- A waiter that was handed a token passes it on. -/
theorem withdraw_of_mem_handed {pool : Pool} {waiter : Nat} (handed : waiter ∈ pool.handed) :
    pool.queue = (pool.withdraw waiter).2.toList ++ (pool.withdraw waiter).1.queue ∧
      (pool.withdraw waiter).1.handed =
        pool.handed.erase waiter ++ (pool.withdraw waiter).2.toList := by
  simp only [withdraw, handed, if_true]
  exact handOn_moves { pool with handed := pool.handed.erase waiter }

/-- A waiter that was not handed a token leaves the queue. -/
theorem withdraw_of_not_mem_handed {pool : Pool} {waiter : Nat}
    (notHanded : waiter ∉ pool.handed) :
    pool.withdraw waiter = ({ pool with queue := pool.queue.erase waiter }, none) := by
  simp [withdraw, notHanded]

theorem erase_handed_distinct {pool : Pool} (sound : pool.Sound) (waiter : Nat) :
    (pool.queue ++ pool.handed.erase waiter).Nodup :=
  (List.Sublist.append_left List.erase_sublist _).nodup sound.distinct

theorem withdraw_sound {pool : Pool} (sound : pool.Sound) (waiter : Nat) :
    (pool.withdraw waiter).1.Sound := by
  have conserved := sound.conserved
  by_cases handed : waiter ∈ pool.handed
  · have length := List.length_erase_of_mem handed
    have positive := List.length_pos_of_mem handed
    simp only [withdraw, handed, if_true]
    refine handOn_sound ?_ sound.noneIdle (erase_handed_distinct sound waiter)
    simp only [length]
    omega
  · rw [withdraw_of_not_mem_handed handed]
    refine ⟨conserved, ?_, ?_⟩
    · intro waiting
      apply sound.noneIdle
      intro empty
      exact waiting (by simp [empty])
    · exact (List.Sublist.append_right List.erase_sublist _).nodup sound.distinct

/-- Those who wait after somebody gave up waited before. -/
theorem withdraw_waiting {pool : Pool} (sound : pool.Sound) {waiter other : Nat}
    (waiting : other ∈ (pool.withdraw waiter).1.queue ++ (pool.withdraw waiter).1.handed) :
    other ∈ pool.queue ++ pool.handed ∧ other ≠ waiter := by
  have distinct := List.nodup_append.mp sound.distinct
  by_cases handed : waiter ∈ pool.handed
  · obtain ⟨queue, handedAfter⟩ := withdraw_of_mem_handed handed
    have notQueued : waiter ∉ pool.queue := by
      intro queued
      exact distinct.2.2 waiter queued waiter handed rfl
    have either : other ∈ pool.queue ∨ other ∈ pool.handed.erase waiter := by
      rw [handedAfter] at waiting
      rw [queue]
      simp only [List.mem_append] at waiting ⊢
      tauto
    rcases either with queued | stillHanded
    · refine ⟨List.mem_append_left _ queued, ?_⟩
      rintro rfl
      exact notQueued queued
    · refine ⟨List.mem_append_right _ (List.mem_of_mem_erase stillHanded), ?_⟩
      rintro rfl
      exact distinct.2.1.not_mem_erase stillHanded
  · rw [withdraw_of_not_mem_handed handed] at waiting
    rcases List.mem_append.mp waiting with queued | stillHanded
    · refine ⟨List.mem_append_left _ (List.mem_of_mem_erase queued), ?_⟩
      rintro rfl
      exact distinct.1.not_mem_erase queued
    · refine ⟨List.mem_append_right _ stillHanded, ?_⟩
      rintro rfl
      exact handed stillHanded

/-! ### Claiming after a wait -/

/-- What a waiter can find at its turn. -/
theorem claim_cases (pool : Pool) (waiter : Nat) :
    (waiter ∈ pool.handed ∧ pool.claim waiter = (.acquired,
        { pool with handed := pool.handed.erase waiter, inUse := pool.inUse + 1 })) ∨
      (waiter ∉ pool.handed ∧ waiter ∈ pool.queue ∧ pool.claim waiter = (.pending, pool)) ∨
      (waiter ∉ pool.handed ∧ waiter ∉ pool.queue ∧ pool.available = 0 ∧
        pool.claim waiter = (.pending, { pool with queue := pool.queue ++ [waiter] })) ∨
      (waiter ∉ pool.handed ∧ waiter ∉ pool.queue ∧ pool.available ≠ 0 ∧
        pool.claim waiter = (.acquired,
          { pool with available := pool.available - 1, inUse := pool.inUse + 1 })) := by
  by_cases handed : waiter ∈ pool.handed
  · exact Or.inl ⟨handed, by simp [claim, handed]⟩
  · refine Or.inr ?_
    by_cases queued : waiter ∈ pool.queue
    · exact Or.inl ⟨handed, queued, by simp [claim, handed, queued]⟩
    · refine Or.inr ?_
      by_cases none : pool.available = 0
      · exact Or.inl ⟨handed, queued, none, by simp [claim, handed, queued, none]⟩
      · exact Or.inr ⟨handed, queued, none, by simp [claim, handed, queued, none]⟩

@[simp]
theorem claim_capacity (pool : Pool) (waiter : Nat) :
    (pool.claim waiter).2.capacity = pool.capacity := by
  rcases pool.claim_cases waiter with ⟨-, eq⟩ | ⟨-, -, eq⟩ | ⟨-, -, -, eq⟩ | ⟨-, -, -, eq⟩ <;>
    rw [eq]

theorem claim_inUse (pool : Pool) (waiter : Nat) :
    (pool.claim waiter).2.inUse =
      pool.inUse + if (pool.claim waiter).1 = .acquired then 1 else 0 := by
  rcases pool.claim_cases waiter with ⟨-, eq⟩ | ⟨-, -, eq⟩ | ⟨-, -, -, eq⟩ | ⟨-, -, -, eq⟩ <;>
    simp [eq]

theorem claim_sound {pool : Pool} (sound : pool.Sound) (waiter : Nat) :
    (pool.claim waiter).2.Sound := by
  have conserved := sound.conserved
  rcases pool.claim_cases waiter with ⟨handed, eq⟩ | ⟨-, -, eq⟩ | ⟨notHanded, notQueued, none, eq⟩ |
    ⟨-, -, some, eq⟩
  · have length := List.length_erase_of_mem handed
    have positive := List.length_pos_of_mem handed
    rw [eq]
    refine ⟨?_, sound.noneIdle, erase_handed_distinct sound waiter⟩
    simp only [length]
    omega
  · rw [eq]
    exact sound
  · rw [eq]
    refine ⟨conserved, fun _ => none, ?_⟩
    have fresh : waiter ∉ pool.queue ++ pool.handed := by
      simp [notQueued, notHanded]
    have moved : (pool.queue ++ [waiter] ++ pool.handed).Perm
        (waiter :: (pool.queue ++ pool.handed)) := by
      simp
    exact moved.nodup_iff.mpr (List.nodup_cons.mpr ⟨fresh, sound.distinct⟩)
  · rw [eq]
    refine ⟨?_, ?_, sound.distinct⟩
    · simp only
      omega
    · intro waiting
      exact absurd (sound.noneIdle waiting) some

theorem claim_answer (pool : Pool) (waiter : Nat) :
    (pool.claim waiter).1 = .pending ∨ (pool.claim waiter).1 = .acquired := by
  rcases pool.claim_cases waiter with ⟨-, eq⟩ | ⟨-, -, eq⟩ | ⟨-, -, -, eq⟩ | ⟨-, -, -, eq⟩ <;>
    simp [eq]

/-- Only a waiter that was handed a token, or one that finds no queue, claims one. -/
theorem claim_acquired_of_sound {pool : Pool} (sound : pool.Sound) {waiter : Nat}
    (acquired : (pool.claim waiter).1 = .acquired) :
    waiter ∈ pool.handed ∨ pool.queue = [] := by
  rcases pool.claim_cases waiter with ⟨handed, -⟩ | ⟨-, -, eq⟩ | ⟨-, -, -, eq⟩ | ⟨-, -, some, -⟩
  · exact Or.inl handed
  · simp [eq] at acquired
  · simp [eq] at acquired
  · right
    by_contra waiting
    exact some (sound.noneIdle waiting)

/-- A turn of a waiter hands no token to anybody. -/
theorem claim_handed (pool : Pool) (waiter : Nat) :
    (pool.claim waiter).2.handed ⊆ pool.handed := by
  rcases pool.claim_cases waiter with ⟨-, eq⟩ | ⟨-, -, eq⟩ | ⟨-, -, -, eq⟩ | ⟨-, -, -, eq⟩ <;>
    rw [eq]
  · exact List.erase_subset
  · exact List.Subset.refl _
  · exact List.Subset.refl _
  · exact List.Subset.refl _

/-- Those who wait after somebody had a turn waited before, or found no token. -/
theorem claim_waiting {pool : Pool} (sound : pool.Sound) {waiter other : Nat}
    (waiting : other ∈ (pool.claim waiter).2.queue ++ (pool.claim waiter).2.handed) :
    (other ∈ pool.queue ++ pool.handed ∧ other ≠ waiter) ∨
      (other = waiter ∧ (pool.claim waiter).1 = .pending) := by
  have distinct := List.nodup_append.mp sound.distinct
  by_cases same : other = waiter
  · subst other
    rcases pool.claim_cases waiter with ⟨handed, eq⟩ | ⟨-, -, eq⟩ | ⟨-, -, -, eq⟩ |
      ⟨notHanded, notQueued, -, eq⟩
    · rw [eq] at waiting
      rcases List.mem_append.mp waiting with queued | stillHanded
      · exact absurd rfl (distinct.2.2 waiter queued waiter handed)
      · exact absurd stillHanded distinct.2.1.not_mem_erase
    · exact Or.inr ⟨rfl, by rw [eq]⟩
    · exact Or.inr ⟨rfl, by rw [eq]⟩
    · rw [eq] at waiting
      simp [notHanded, notQueued] at waiting
  · refine Or.inl ⟨?_, same⟩
    rcases pool.claim_cases waiter with ⟨-, eq⟩ | ⟨-, -, eq⟩ | ⟨-, -, -, eq⟩ | ⟨-, -, -, eq⟩
    · simpa [eq, List.mem_erase_of_ne same] using waiting
    · simpa [eq] using waiting
    · simpa [eq, same] using waiting
    · simpa [eq] using waiting

theorem turn_inUse (pool : Pool) (waiter : Nat) (isCanceled isStale : Bool) :
    (pool.turn waiter isCanceled isStale).2.1.inUse =
      pool.inUse +
        if (pool.turn waiter isCanceled isStale).1 = .acquired then 1 else 0 := by
  cases isCanceled <;> cases isStale <;> simp [turn, claim_inUse]

/-! ### Pools in use -/

/-- What becomes of a pool that is used by calls, turns and waiters that give up. -/
inductive Reaches (pool : Pool) : Pool → Prop where
  | unused : Reaches pool pool
  | tryAcquire {used : Pool} (before : Reaches pool used) : Reaches pool used.tryAcquire.2
  | tryRelease {used : Pool} (before : Reaches pool used) : Reaches pool used.tryRelease.2.1
  | withdraw {used : Pool} (before : Reaches pool used) (waiter : Nat) :
      Reaches pool (used.withdraw waiter).1
  | claim {used : Pool} (before : Reaches pool used) (waiter : Nat) :
      Reaches pool (used.claim waiter).2

namespace Reaches

variable {pool used last : Pool}

theorem turn (before : pool.Reaches used) (waiter : Nat) (isCanceled isStale : Bool) :
    pool.Reaches (used.turn waiter isCanceled isStale).2.1 := by
  cases isCanceled
  · cases isStale
    · exact before.claim waiter
    · exact before.withdraw waiter
  · exact before.withdraw waiter

theorem trans (before : pool.Reaches used) (after : used.Reaches last) : pool.Reaches last := by
  induction after with
  | unused => exact before
  | tryAcquire _ ih => exact ih.tryAcquire
  | tryRelease _ ih => exact ih.tryRelease
  | withdraw _ waiter ih => exact ih.withdraw waiter
  | claim _ waiter ih => exact ih.claim waiter

/-- Use keeps a pool sound. -/
theorem sound (reaches : pool.Reaches used) (initially : pool.Sound) : used.Sound := by
  induction reaches with
  | unused => exact initially
  | tryAcquire _ ih => exact tryAcquire_sound ih
  | tryRelease _ ih => exact tryRelease_sound ih
  | withdraw _ waiter ih => exact withdraw_sound ih waiter
  | claim _ waiter ih => exact claim_sound ih waiter

/-- Use changes no capacity. -/
theorem capacity (reaches : pool.Reaches used) : used.capacity = pool.capacity := by
  induction reaches with
  | unused => rfl
  | tryAcquire _ ih => simp [ih]
  | tryRelease _ ih => simp [ih]
  | withdraw _ waiter ih => simp [ih]
  | claim _ waiter ih => simp [ih]

end Reaches

end Pool

end Admission
