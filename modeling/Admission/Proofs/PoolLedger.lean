import Admission.Proofs.PoolCalls

/-!
# The ledger of a pool

A token of a pool that is shared by direct calls and by waits is available, claimed, or on its way
to a waiter, and a waiter that a token is on its way to may still give up. This file proves that the
three always add up to the capacity, and that the claimed tokens are those that calls and waits have
claimed, less those that calls gave back.
-/

namespace Admission

namespace System

variable {system : System} {capacity : Nat}

/-- Where the tokens of the first pool are after a run, and who claimed them. -/
structure Ledger (capacity : Nat) (system : System) (moves : List Move) : Prop where
  /-- Every token is available, claimed, or on its way to a waiter. -/
  conserved : ((system.run moves).pool 0).available + ((system.run moves).pool 0).inUse +
    ((system.run moves).pool 0).handed.length = capacity
  /-- A token is on its way to one waiter only. -/
  once : ((system.run moves).pool 0).handed.Nodup
  /-- A waiter to which a token is on its way has not ended. -/
  underway : ∀ waiter ∈ ((system.run moves).pool 0).handed,
    (system.run moves).wait? waiter = some none
  bounded : ((system.run moves).pool 0).available + ((system.run moves).pool 0).inUse ≤ capacity
  exact_iff : ((system.run moves).pool 0).available + ((system.run moves).pool 0).inUse = capacity ↔
    ((system.run moves).pool 0).handed = []
  notAbove : ((system.run moves).pool 0).available ≤ capacity
  /-- What was claimed and not given back is in use. -/
  balanced : ((system.run moves).pool 0).inUse + system.tally (givesBack 0) moves =
    system.tally (takes 0) moves + (system.run moves).acquired
  tryRelease_iff : ((system.run moves).tryRelease 0).2 = true ↔
    0 < ((system.run moves).pool 0).inUse
  tryAcquire_iff : ((system.run moves).tryAcquire 0).2 = true ↔
    0 < ((system.run moves).pool 0).available

/-- A step claims a token for each wait that it ends with one. -/
theorem WaiterStep.inUse {next : System} (step : WaiterStep system next) :
    (next.pool 0).inUse + system.acquired = (system.pool 0).inUse + next.acquired := by
  cases step with
  | quiet pool waits acquired => rw [pool, acquired]
  | began index fresh pool waits acquired => rw [pool, acquired]
  | waited index pending refused pool waits acquired =>
      rw [pool, acquired, Pool.claim_inUse, refused]
      rfl
  | claimed index pending granted pool waits acquired =>
      rw [pool, acquired, Pool.claim_inUse, granted, if_pos rfl]
      omega
  | gaveUp index outcome isGivenUp pending pool waits acquired wakes =>
      rw [pool, acquired, (Pool.withdraw_frame _ _).2]

/-- Only a direct call of the first pool claims one of its tokens or gives one back. -/
theorem takes_givesBack_of_other (system : System) {move : Move} (notTaken : move ≠ .tryAcquire 0)
    (notGiven : move ≠ .tryRelease 0) :
    system.takes 0 move = false ∧ system.givesBack 0 move = false := by
  cases move with
  | tryAcquire place =>
      have apart : place ≠ 0 := fun same => notTaken (by rw [same])
      simp [takes, givesBack, apart]
  | tryRelease place =>
      have apart : place ≠ 0 := fun same => notGiven (by rw [same])
      simp [takes, givesBack, apart]
  | _ => simp [takes, givesBack]

theorem tryRelease_balance (pool : Pool) :
    (pool.tryRelease).2.1.inUse + (pool.tryRelease).1.toNat = pool.inUse := by
  rw [Pool.tryRelease_answer, (Pool.tryRelease_frame pool).2]
  by_cases none : pool.inUse = 0
  · simp [none]
  · simp [Nat.pos_of_ne_zero none]
    omega

/-- A permitted move claims or gives back what the ledger says. -/
theorem perform_inUse {move : Move} (permitted : move.keepsToWaiting)
    (kept : system.KeptToWaiting) :
    ((system.perform move).pool 0).inUse + (system.givesBack 0 move).toNat + system.acquired =
      (system.pool 0).inUse + (system.takes 0 move).toNat + (system.perform move).acquired := by
  by_cases taken : move = .tryAcquire 0
  · subst taken
    have counted := Pool.tryAcquire_inUse (system.pool 0)
    rw [tryAcquire_pool kept.ready, directCall_acquired system (Or.inl rfl)]
    simp only [takes, givesBack, tryAcquire, BEq.rfl, Bool.true_and, Bool.toNat_false]
    omega
  · by_cases given : move = .tryRelease 0
    · subst given
      have counted := tryRelease_balance (system.pool 0)
      rw [tryRelease_pool kept.ready, directCall_acquired system (Or.inr rfl)]
      simp only [takes, givesBack, tryRelease, BEq.rfl, Bool.true_and, Bool.toNat_false]
      omega
    · obtain ⟨notTaken, notGiven⟩ := takes_givesBack_of_other system taken given
      rcases WaiterStep.of_move kept.ready kept.keeps permitted with step | rfl | rfl
      · have counted := step.inUse
        rw [notTaken, notGiven, Bool.toNat_false]
        omega
      · exact absurd rfl taken
      · exact absurd rfl given

theorem run_inUse {moves : List Move} (permitted : ∀ move ∈ moves, move.keepsToWaiting)
    (kept : system.KeptToWaiting) :
    ((system.run moves).pool 0).inUse + system.tally (givesBack 0) moves + system.acquired =
      (system.pool 0).inUse + system.tally (takes 0) moves + (system.run moves).acquired := by
  induction moves generalizing system with
  | nil => simp [tally]
  | cons move rest ih =>
      have allowed : move.keepsToWaiting := permitted move (by simp)
      have step := perform_inUse allowed kept
      have later := ih (fun other other_mem => permitted other (by simp [other_mem]))
        (perform_keptToWaiting allowed kept)
      simp only [tally, run_cons]
      omega

/-- A pool that was set up for a capacity and is used by direct calls and by waits keeps all its
tokens, and its claimed tokens are those that its ledger says were claimed. -/
theorem ledger_of_keptToWaiting (positive : 1 ≤ capacity)
    (countable : capacity ≤ Pool.maxCapacity) :
    ∃ pool, Pool.create capacity = .ok pool ∧
      ∀ (system : System) (limiter : Limiter) (others : List Limiter) (moves : List Move),
        system.limiters = limiter :: others → limiter.pool = pool → system.tasks = #[] →
        (∀ move ∈ moves, move.keepsToWaiting = true) → Ledger capacity system moves := by
  refine ⟨.full capacity, Pool.create_eq_full positive countable, ?_⟩
  intro system limiter others moves limiters pool idle permitted
  have ready : 0 < system.limiters.length := by simp [limiters]
  have unused : system.pool 0 = .full capacity := by simp [System.pool, limiters, pool]
  have initially := keptToWaiting_of_unused ready unused idle
  have kept := run_keptToWaiting permitted initially
  have capacityToo : ((system.run moves).pool 0).capacity = capacity := by
    rw [((run_reaches system moves).pool ready).capacity, unused]
    rfl
  have conserved := kept.sound.conserved
  rw [capacityToo] at conserved
  refine ⟨conserved, ?_, ?_, ?_, ?_, ?_, ?_, ?_, ?_⟩
  · exact (List.nodup_append.mp kept.sound.distinct).2.1
  · intro waiter handed
    exact kept.pending waiter (List.mem_append_right _ handed)
  · omega
  · rw [← List.length_eq_zero_iff]
    omega
  · omega
  · have counted := run_inUse permitted initially
    have nobody : system.acquired = 0 := by simp [acquired, idle]
    have nothing : (system.pool 0).inUse = 0 := by rw [unused]; rfl
    omega
  · simp [tryRelease, Pool.tryRelease_answer]
  · simp [tryAcquire, Pool.tryAcquire_answer]

/-- One token is taken and given back while two wait for it, and the first waiter is dropped before
it claims the token. -/
def passedOn : List Move :=
  [.elsewhere .createContext, .elsewhere (.createSignal false), .tryAcquire 0,
    .start (.acquisition ⟨⟨0, 0⟩, []⟩ 0), .turn 0, .start (.acquisition ⟨⟨0, 0⟩, []⟩ 0), .turn 1,
    .tryRelease 0, .drop 0]

theorem ledger_passedOn :
    Ledger 1 (single (.full 1)) passedOn ∧
      ((single (.full 1)).run passedOn).pool 0 =
        { capacity := 1, available := 0, inUse := 0, queue := [], handed := [1] } := by
  obtain ⟨pool, created, ledger⟩ :=
    ledger_of_keptToWaiting (by decide : 1 ≤ 1) (by decide : 1 ≤ Pool.maxCapacity)
  have full : Pool.full 1 = pool := by
    have made : Pool.create 1 = .ok (.full 1) := rfl
    rw [made] at created
    exact Except.ok.inj created
  exact ⟨ledger (single (.full 1)) _ [] passedOn rfl full rfl (by decide), by decide⟩

end System

end Admission
