import Admission.Proofs.Hearings

/-!
# Miscounts

A pool may start with fewer or more claimed tokens than it should. As long as nobody waits for a
token, the changes that are applied to it move the count of claimed tokens along a walk: each of
them moves it by one token at most, and the walk is held between none of the tokens and all of them.

Two walks that are moved by the same changes never pass each other and never get further apart, for
where one of them is held at a bound the other one can only come nearer. A miscount therefore never
grows.
-/

namespace Admission

/-- What a change adds to the claimed tokens. -/
def ResourceEvent.weight : ResourceEvent → Int
  | .added resource initialList => if initialList && !resource.isFinished then 1 else 0
  | .updated previous current => if !previous.isFinished && current.isFinished then -1 else 0
  | .deleted lastKnown => if lastKnown.isFinished then 0 else -1
  | .unrecognized _ _ => 0

namespace Pool

/-- A pool that nobody waits for, with some of its tokens claimed. -/
def holding (capacity inUse : Nat) : Pool :=
  { capacity, available := capacity - inUse, inUse, queue := [], handed := [] }

/-- A step of the walk, which is held between none of the tokens and all of them. -/
def walk (capacity inUse : Nat) (change : ResourceEvent) : Nat :=
  min capacity (inUse + change.weight).toNat

section Walking

variable {capacity inUse fewer more : Nat}

theorem full_eq_holding (capacity : Nat) : full capacity = holding capacity 0 := rfl

theorem tryAcquire_holding (within : inUse ≤ capacity) :
    (holding capacity inUse).tryAcquire.2 = holding capacity (min capacity (inUse + 1)) := by
  by_cases exhausted : capacity - inUse = 0
  · have all : min capacity (inUse + 1) = inUse := by omega
    simp only [tryAcquire, holding, exhausted, if_true, all]
  · have some : min capacity (inUse + 1) = inUse + 1 := by omega
    have left : capacity - (inUse + 1) = capacity - inUse - 1 := by omega
    simp only [tryAcquire, holding, exhausted, if_false, some, left]

theorem tryRelease_holding (within : inUse ≤ capacity) :
    (holding capacity inUse).tryRelease.2.1 = holding capacity (inUse - 1) := by
  by_cases free : inUse = 0
  · subst free
    rfl
  · have left : capacity - (inUse - 1) = capacity - inUse + 1 := by omega
    simp only [tryRelease, holding, free, if_false, handOn, left]

theorem walk_le (capacity inUse : Nat) (change : ResourceEvent) :
    walk capacity inUse change ≤ capacity :=
  Nat.min_le_left _ _

theorem walk_of_weight_zero {change : ResourceEvent} (still : change.weight = 0)
    (within : inUse ≤ capacity) : walk capacity inUse change = inUse := by
  rw [walk, still]
  omega

/-- Neither bound lets one walk pass another, or takes it further away. -/
theorem walk_near (capacity : Nat) (order : fewer ≤ more) (change : ResourceEvent) :
    walk capacity fewer change ≤ walk capacity more change ∧
      walk capacity more change - walk capacity fewer change ≤ more - fewer := by
  simp only [walk]
  generalize change.weight = weight
  omega

theorem foldl_walk_le (within : inUse ≤ capacity) (changes : List ResourceEvent) :
    changes.foldl (walk capacity) inUse ≤ capacity :=
  List.foldlRecOn (motive := fun count => count ≤ capacity) changes _ within
    fun count _ change _ => walk_le capacity count change

theorem foldl_walk_near (capacity : Nat) (order : fewer ≤ more) (changes : List ResourceEvent) :
    changes.foldl (walk capacity) fewer ≤ changes.foldl (walk capacity) more ∧
      changes.foldl (walk capacity) more - changes.foldl (walk capacity) fewer ≤ more - fewer := by
  induction changes generalizing fewer more with
  | nil => exact ⟨order, Nat.le_refl _⟩
  | cons change rest ih =>
      have step := walk_near capacity order change
      have later := ih step.1
      exact ⟨later.1, Nat.le_trans later.2 step.2⟩

end Walking

end Pool

namespace Reconciler

/-- A change that is applied to a pool that nobody waits for is a step of the walk. -/
theorem apply_holding {capacity inUse : Nat} (within : inUse ≤ capacity) (place : Nat)
    (change : ResourceEvent) :
    (apply place (.holding capacity inUse) change).1 =
      .holding capacity (Pool.walk capacity inUse change) := by
  have stays (still : change.weight = 0) : Pool.holding capacity inUse =
      .holding capacity (Pool.walk capacity inUse change) := by
    rw [Pool.walk_of_weight_zero still within]
  have claims (weight : change.weight = 1) : (Pool.holding capacity inUse).tryAcquire.2 =
      .holding capacity (Pool.walk capacity inUse change) := by
    rw [Pool.tryAcquire_holding within, Pool.walk, weight]
    rfl
  have givesBack (weight : change.weight = -1) : (Pool.holding capacity inUse).tryRelease.2.1 =
      .holding capacity (Pool.walk capacity inUse change) := by
    have fewer : min capacity ((inUse : Int) + -1).toNat = inUse - 1 := by omega
    rw [Pool.tryRelease_holding within, Pool.walk, weight, fewer]
  simp only [apply, settle]
  cases change with
  | added resource initialList =>
      by_cases counts : (initialList && !resource.isFinished) = true
      · simpa only [demand, counts, if_true] using claims (if_pos counts)
      · simpa only [demand, counts, Bool.false_eq_true, if_false] using stays (if_neg counts)
  | updated previous current =>
      by_cases finishes : (!previous.isFinished && current.isFinished) = true
      · simpa only [demand, finishes, if_true] using givesBack (if_pos finishes)
      · simpa only [demand, finishes, Bool.false_eq_true, if_false] using stays (if_neg finishes)
  | deleted lastKnown =>
      by_cases finished : lastKnown.isFinished = true
      · simpa only [demand, finished, if_true] using stays (if_pos finished)
      · simpa only [demand, finished, Bool.false_eq_true, if_false]
          using givesBack (if_neg finished)
  | unrecognized kind reason => exact stays rfl

/-- Every change but an unrecognized one is told with the tokens available. -/
theorem eventOf_available (available : Nat) (change : ResourceEvent) :
    (eventOf available change).available =
      if change.isRecognized then some available else none := by
  cases change <;> rfl

end Reconciler

namespace System

/-- The system after changes were applied to its first limiter directly, and nothing else was
done. -/
def reconciled (system : System) (changes : List ResourceEvent) : System :=
  system.run (changes.map .reconcile)

/-- How many tokens of the first limiter are then claimed. -/
def count (system : System) (changes : List ResourceEvent) : Nat :=
  ((system.reconciled changes).pool 0).inUse

/-- What becomes of a pool to which only changes are applied. -/
structure Walks (start : System) (capacity inUse : Nat) (changes : List ResourceEvent) : Prop where
  /-- The claimed tokens follow the walk, all others are available, and nobody waits. -/
  follows : ∀ early, early <+: changes →
    (start.reconciled early).pool 0 =
      .holding capacity (early.foldl (Pool.walk capacity) inUse)
  /-- One event is published for each change, with the tokens available after it. -/
  told : ∀ early change, early ++ [change] <+: changes →
    ∃ event, (start.reconciled (early ++ [change])).news =
        (start.reconciled early).news ++ [(0, event)] ∧
      event = Reconciler.eventOf (capacity - start.count (early ++ [change])) change ∧
      event.available = if change.isRecognized then
        some (capacity - start.count (early ++ [change])) else none
  /-- A pool that starts with more claimed tokens never has fewer, and comes no further away. -/
  nearer : ∀ (other : System) (more : Nat), inUse ≤ more → more ≤ capacity →
    0 < other.limiters.length → other.pool 0 = .holding capacity more →
    ∀ early late, changes = early ++ late →
      start.count changes ≤ other.count changes ∧
        other.count changes - start.count changes ≤ other.count early - start.count early ∧
        (other.count early = start.count early → other.count changes = start.count changes)

section Walks

variable {start : System} {capacity inUse : Nat}

theorem reconciled_append (system : System) (early late : List ResourceEvent) :
    system.reconciled (early ++ late) = (system.reconciled early).reconciled late := by
  rw [reconciled, List.map_append, run_append]
  rfl

theorem reconcile_pool {system : System} (limited : 0 < system.limiters.length)
    (change : ResourceEvent) :
    (system.reconcile change).pool 0 = (Reconciler.apply 0 (system.pool 0) change).1 := by
  simp only [reconcile, noteAll_pool]
  exact pool_setPool limited _ 0

theorem reconcile_news (system : System) (change : ResourceEvent) :
    (system.reconcile change).news =
      system.news ++ Watch.tells (system.pool 0, .event change) := by
  simp only [reconcile, noteAll_news, Reconciler.apply_news]
  rfl

/-- The pool is where the walk is. -/
theorem reconciled_pool (within : inUse ≤ capacity) (limited : 0 < start.limiters.length)
    (counted : start.pool 0 = .holding capacity inUse) (changes : List ResourceEvent) :
    (start.reconciled changes).pool 0 =
      .holding capacity (changes.foldl (Pool.walk capacity) inUse) := by
  induction changes generalizing start inUse with
  | nil => exact counted
  | cons change rest ih =>
      have stepped : (start.reconcile change).pool 0 =
          .holding capacity (Pool.walk capacity inUse change) := by
        rw [reconcile_pool limited, counted, Reconciler.apply_holding within]
      refine ih (Pool.walk_le capacity inUse change) ?_ stepped
      rw [(perform_reaches start (.reconcile change)).length]
      exact limited

theorem count_eq (within : inUse ≤ capacity) (limited : 0 < start.limiters.length)
    (counted : start.pool 0 = .holding capacity inUse) (changes : List ResourceEvent) :
    start.count changes = changes.foldl (Pool.walk capacity) inUse := by
  rw [count, reconciled_pool within limited counted]
  rfl

/-- A miscount never grows. -/
theorem walks_of_holding (within : inUse ≤ capacity) (limited : 0 < start.limiters.length)
    (counted : start.pool 0 = .holding capacity inUse) (changes : List ResourceEvent) :
    start.Walks capacity inUse changes where
  follows := fun early _ => reconciled_pool within limited counted early
  told := by
    intro early change _
    have reached := reconciled_pool within limited counted early
    have below := Pool.foldl_walk_le within early
    have after : start.count (early ++ [change]) =
        Pool.walk capacity (early.foldl (Pool.walk capacity) inUse) change := by
      rw [count_eq within limited counted, List.foldl_append]
      rfl
    refine ⟨_, ?_, rfl, Reconciler.eventOf_available _ change⟩
    rw [reconciled_append, after]
    change ((start.reconciled early).reconcile change).news = _
    rw [reconcile_news, reached, Watch.tells, Reconciler.apply_holding below]
    rfl
  nearer := by
    intro other more order below otherLimited otherCounted early late split
    have halfway := Pool.foldl_walk_near capacity order early
    have apart := Pool.foldl_walk_near capacity halfway.1 late
    rw [← List.foldl_append, ← List.foldl_append, ← split] at apart
    simp only [count_eq within limited counted, count_eq below otherLimited otherCounted]
    exact ⟨apart.1, apart.2, by omega⟩

/-- A token that nobody holds is given back, more jobs are counted than there are tokens, and a
notification is ignored. -/
theorem walks_clamped :
    (1 ≤ 2 ∧ 0 < (single (.holding 2 1)).limiters.length ∧
        (single (.holding 2 1)).pool 0 = .holding 2 1) ∧
      (single (.holding 2 1)).Walks 2 1
        [.deleted (.running "a" "a"), .deleted (.running "b" "b"),
          .added (.running "c" "c") true, .added (.running "d" "d") true,
          .added (.running "e" "e") true, .unrecognized .update "no job",
          .updated (.running "c" "c") (.completed "c" "c")] :=
  ⟨⟨by decide, by decide, rfl⟩, walks_of_holding (by decide) (by decide) rfl _⟩

/-- Two pools that begin with none and with all of their tokens claimed have met after two
deletions, and go on together. -/
example : [0, 2].map (fun inUse =>
      [ResourceEvent.deleted (.running "a" "a"), .deleted (.running "b" "b"),
        .added (.running "c" "c") true].foldl (Pool.walk 2) inUse) = [1, 1] := by
  decide

end Walks

end System

end Admission
