import Admission.Proofs.PoolCalls

/-!
# The queue of a pool

Waiters are served in the order in which they came, except for those that give up. This file
proves it for every run that keeps to waiting, from the lists of those who joined the queue and of
those who were handed a token. A waiter that was handed a token and gives up passes it on to the
next one, so that no token is idle while somebody waits, however many give up one after the other.
-/

namespace Admission

namespace Pool

def joined (before after : Pool) : List Nat :=
  after.queue.filter (· ∉ before.queue)

/-- Those who were handed a token. -/
def served (before after : Pool) : List Nat :=
  after.handed.filter (· ∉ before.handed)

variable {before after : Pool}

theorem joined_of_subset (subset : after.queue ⊆ before.queue) : before.joined after = [] := by
  simp only [joined, List.filter_eq_nil_iff]
  intro waiter queued
  simp [subset queued]

theorem served_of_subset (subset : after.handed ⊆ before.handed) : before.served after = [] := by
  simp only [served, List.filter_eq_nil_iff]
  intro waiter handed
  simp [subset handed]

/-- A token is handed to the head of the queue. -/
theorem served_of_moved (sound : before.Sound) {kept : List Nat} {woken : Option Nat}
    (queue : before.queue = woken.toList ++ after.queue)
    (handed : after.handed = kept ++ woken.toList) (subset : kept ⊆ before.handed) :
    before.served after = woken.toList := by
  have noneKept : kept.filter (· ∉ before.handed) = [] := by
    rw [List.filter_eq_nil_iff]
    intro waiter member
    simp [subset member]
  have distinct := (List.nodup_append.mp sound.distinct).2.2
  have allNew : woken.toList.filter (· ∉ before.handed) = woken.toList := by
    rw [List.filter_eq_self]
    intro waiter member
    have queued : waiter ∈ before.queue := by
      rw [queue]
      exact List.mem_append_left _ member
    have notHanded : waiter ∉ before.handed := fun alsoHanded =>
      distinct waiter queued waiter alsoHanded rfl
    simp [notHanded]
  rw [served, handed, List.filter_append, noneKept, allNew, List.nil_append]

theorem joined_of_moved {woken : Option Nat} (queue : before.queue = woken.toList ++ after.queue) :
    before.joined after = [] := by
  apply joined_of_subset
  rw [queue]
  exact List.subset_append_right _ _

end Pool

namespace System

variable {system next : System} {entered served : List Nat}

/-- Whether a waiter gave up. -/
def hasGivenUp (system : System) (waiter : Nat) : Bool :=
  (system.wait? waiter).join.any Outcome.isGivenUp

theorem hasGivenUp_of_pending {waiter : Nat} (pending : system.wait? waiter = some none) :
    system.hasGivenUp waiter = false := by
  simp [hasGivenUp, pending]

/-- A wait that has ended stays as it is when another one changes. -/
theorem wait?_of_other {index : Nat} {became : Option (Option Outcome)}
    (running : ∀ outcome, system.wait? index ≠ some (some outcome))
    (waits : ∀ waiter, next.wait? waiter = if waiter = index then became else system.wait? waiter)
    {waiter : Nat} {outcome : Outcome} (past : system.wait? waiter = some (some outcome)) :
    next.wait? waiter = some (some outcome) := by
  have apart : waiter ≠ index := by
    rintro rfl
    exact running outcome past
  rw [waits, if_neg apart, past]

/-- Who has joined the queue of the first pool and who was handed one of its tokens agree with the
system: those who were served, followed by those who wait, are those who joined, less those who gave
up before they were served. -/
structure ServedInOrder (entered served : List Nat) (system : System) : Prop where
  kept : system.KeptToWaiting
  once : entered.Nodup
  handedServed : ∀ waiter ∈ (system.pool 0).handed, waiter ∈ served
  servedHanded : ∀ waiter ∈ served, waiter ∈ (system.pool 0).handed ∨
    ∃ outcome, system.wait? waiter = some (some outcome)
  order : entered.filter (fun waiter => decide (waiter ∈ served) || !system.hasGivenUp waiter) =
    served ++ (system.pool 0).queue

namespace ServedInOrder

/-- A waiter in the queue was not handed a token. -/
theorem not_mem_served_of_pending (ordered : ServedInOrder entered served system) {waiter : Nat}
    (pending : system.wait? waiter = some none) (notHanded : waiter ∉ (system.pool 0).handed) :
    waiter ∉ served := by
  intro member
  rcases ordered.servedHanded waiter member with handed | ⟨outcome, ended⟩
  · exact notHanded handed
  · rw [pending] at ended
    cases ended

/-- Nothing changes for the queue if nobody joins it, leaves it, is served or gives up. -/
theorem of_unmoved (ordered : ServedInOrder entered served system) (kept : next.KeptToWaiting)
    (queue : (next.pool 0).queue = (system.pool 0).queue)
    (subset : (next.pool 0).handed ⊆ (system.pool 0).handed)
    (left : ∀ waiter ∈ (system.pool 0).handed, waiter ∈ (next.pool 0).handed ∨
      ∃ outcome, next.wait? waiter = some (some outcome))
    (ended : ∀ waiter outcome, system.wait? waiter = some (some outcome) →
      next.wait? waiter = some (some outcome))
    (givenUp : ∀ waiter, next.hasGivenUp waiter = system.hasGivenUp waiter) :
    ServedInOrder (entered ++ (system.pool 0).joined (next.pool 0))
      (served ++ (system.pool 0).served (next.pool 0)) next := by
  have nobodyJoined : (system.pool 0).joined (next.pool 0) = [] :=
    Pool.joined_of_subset (by rw [queue]; exact List.Subset.refl _)
  rw [nobodyJoined, Pool.served_of_subset subset, List.append_nil, List.append_nil]
  refine ⟨kept, ordered.once, ?_, ?_, ?_⟩
  · intro waiter handed
    exact ordered.handedServed waiter (subset handed)
  · intro waiter member
    rcases ordered.servedHanded waiter member with handed | ⟨outcome, past⟩
    · exact left waiter handed
    · exact Or.inr ⟨outcome, ended waiter outcome past⟩
  · simp only [givenUp, queue]
    exact ordered.order

theorem of_stayed (ordered : ServedInOrder entered served system) (kept : next.KeptToWaiting)
    (queue : (next.pool 0).queue = (system.pool 0).queue)
    (handed : (next.pool 0).handed = (system.pool 0).handed)
    (ended : ∀ waiter outcome, system.wait? waiter = some (some outcome) →
      next.wait? waiter = some (some outcome))
    (givenUp : ∀ waiter, next.hasGivenUp waiter = system.hasGivenUp waiter) :
    ServedInOrder (entered ++ (system.pool 0).joined (next.pool 0))
      (served ++ (system.pool 0).served (next.pool 0)) next := by
  refine ordered.of_unmoved kept queue ?_ ?_ ended givenUp
  · rw [handed]
    exact List.Subset.refl _
  · intro waiter handedBefore
    rw [handed]
    exact Or.inl handedBefore

/-- A token that comes back, or is passed on by a waiter that gives up, goes to the head of the
queue. -/
theorem of_handed (ordered : ServedInOrder entered served system) (kept : next.KeptToWaiting)
    {held : List Nat} {woken : Option Nat}
    (queue : (system.pool 0).queue = woken.toList ++ (next.pool 0).queue)
    (handed : (next.pool 0).handed = held ++ woken.toList)
    (subset : held ⊆ (system.pool 0).handed)
    (left : ∀ waiter ∈ (system.pool 0).handed, waiter ∈ held ∨
      ∃ outcome, next.wait? waiter = some (some outcome))
    (ended : ∀ waiter outcome, system.wait? waiter = some (some outcome) →
      next.wait? waiter = some (some outcome))
    (givenUp : ∀ waiter, waiter ∉ (system.pool 0).handed →
      next.hasGivenUp waiter = system.hasGivenUp waiter) :
    ServedInOrder (entered ++ (system.pool 0).joined (next.pool 0))
      (served ++ (system.pool 0).served (next.pool 0)) next := by
  rw [Pool.joined_of_moved queue, List.append_nil,
    Pool.served_of_moved ordered.kept.sound queue handed subset]
  refine ⟨kept, ordered.once, ?_, ?_, ?_⟩
  · intro waiter member
    rw [handed] at member
    rcases List.mem_append.mp member with still | now
    · exact List.mem_append_left _ (ordered.handedServed waiter (subset still))
    · exact List.mem_append_right _ now
  · intro waiter member
    rw [handed]
    rcases List.mem_append.mp member with before | now
    · rcases ordered.servedHanded waiter before with handedBefore | ⟨outcome, past⟩
      · rcases left waiter handedBefore with still | past
        · exact Or.inl (List.mem_append_left _ still)
        · exact Or.inr past
      · exact Or.inr ⟨outcome, ended waiter outcome past⟩
    · exact Or.inl (List.mem_append_right _ now)
  · rw [List.append_assoc, ← queue, ← ordered.order]
    apply List.filter_congr
    intro waiter _
    -- Only those who were handed a token before and the head of the queue are concerned, and
    -- both count as served.
    by_cases handedBefore : waiter ∈ (system.pool 0).handed
    · have already := ordered.handedServed waiter handedBefore
      simp [already]
    · rw [givenUp waiter handedBefore]
      by_cases now : waiter ∈ woken.toList
      · have queued : waiter ∈ (system.pool 0).queue ++ (system.pool 0).handed := by
          rw [queue]
          exact List.mem_append_left _ (List.mem_append_left _ now)
        simp [hasGivenUp_of_pending (ordered.kept.pending waiter queued)]
      · simp [now]

/-- A waiter that finds no token joins the end of the queue. -/
theorem of_joined (ordered : ServedInOrder entered served system) (kept : next.KeptToWaiting)
    {index : Nat} (pending : next.wait? index = some none)
    (notHanded : index ∉ (system.pool 0).handed) (notQueued : index ∉ (system.pool 0).queue)
    (queue : (next.pool 0).queue = (system.pool 0).queue ++ [index])
    (handed : (next.pool 0).handed = (system.pool 0).handed)
    (waits : ∀ waiter, next.wait? waiter = system.wait? waiter) :
    ServedInOrder (entered ++ (system.pool 0).joined (next.pool 0))
      (served ++ (system.pool 0).served (next.pool 0)) next := by
  have noneServed : (system.pool 0).served (next.pool 0) = [] :=
    Pool.served_of_subset (by rw [handed]; exact List.Subset.refl _)
  have oneJoined : (system.pool 0).joined (next.pool 0) = [index] := by
    have others : (system.pool 0).queue.filter (· ∉ (system.pool 0).queue) = [] := by
      rw [List.filter_eq_nil_iff]
      intro waiter queued
      simp [queued]
    rw [Pool.joined, queue, List.filter_append, others]
    simp [notQueued]
  have givenUp : ∀ waiter, next.hasGivenUp waiter = system.hasGivenUp waiter := by
    intro waiter
    simp only [hasGivenUp, waits]
  have stays : system.hasGivenUp index = false := by
    rw [← givenUp]
    exact hasGivenUp_of_pending pending
  have fresh : index ∉ entered := by
    intro earlier
    have counts : index ∈ entered.filter
        (fun waiter => decide (waiter ∈ served) || !system.hasGivenUp waiter) := by
      rw [List.mem_filter]
      exact ⟨earlier, by simp [stays]⟩
    rw [ordered.order] at counts
    rcases List.mem_append.mp counts with member | queued
    · rw [waits] at pending
      exact ordered.not_mem_served_of_pending pending notHanded member
    · exact notQueued queued
  rw [noneServed, oneJoined, List.append_nil]
  refine ⟨kept, ?_, ?_, ?_, ?_⟩
  · rw [List.nodup_append]
    refine ⟨ordered.once, List.nodup_singleton index, ?_⟩
    intro earlier member later same equal
    rw [List.mem_singleton.mp same] at equal
    rw [equal] at member
    exact fresh member
  · intro waiter member
    rw [handed] at member
    exact ordered.handedServed waiter member
  · intro waiter member
    rw [handed, waits]
    exact ordered.servedHanded waiter member
  · rw [List.filter_append, queue, ← List.append_assoc, ← ordered.order]
    simp only [givenUp]
    simp [stays]

/-- A waiter that was not handed a token gives up and leaves the queue. -/
theorem of_left (ordered : ServedInOrder entered served system) (kept : next.KeptToWaiting)
    {index : Nat} {outcome : Outcome} (isGivenUp : outcome.isGivenUp = true)
    (pending : system.wait? index = some none) (notHanded : index ∉ (system.pool 0).handed)
    (queue : (next.pool 0).queue = (system.pool 0).queue.erase index)
    (handed : (next.pool 0).handed = (system.pool 0).handed)
    (waits : ∀ waiter, next.wait? waiter =
      if waiter = index then some (some outcome) else system.wait? waiter) :
    ServedInOrder (entered ++ (system.pool 0).joined (next.pool 0))
      (served ++ (system.pool 0).served (next.pool 0)) next := by
  have noneServed : (system.pool 0).served (next.pool 0) = [] :=
    Pool.served_of_subset (by rw [handed]; exact List.Subset.refl _)
  have noneJoined : (system.pool 0).joined (next.pool 0) = [] :=
    Pool.joined_of_subset (by rw [queue]; exact List.erase_subset)
  have notServed := ordered.not_mem_served_of_pending pending notHanded
  have distinct : (system.pool 0).queue.Nodup :=
    (List.nodup_append.mp ordered.kept.sound.distinct).1
  rw [noneServed, noneJoined, List.append_nil, List.append_nil]
  refine ⟨kept, ordered.once, ?_, ?_, ?_⟩
  · intro waiter member
    rw [handed] at member
    exact ordered.handedServed waiter member
  · intro waiter member
    have apart : waiter ≠ index := by
      rintro rfl
      exact notServed member
    rw [handed, waits, if_neg apart]
    exact ordered.servedHanded waiter member
  · have leaves : ∀ waiter ∈ entered,
        (decide (waiter ∈ served) || !next.hasGivenUp waiter) =
          (decide (waiter ≠ index) && (decide (waiter ∈ served) || !system.hasGivenUp waiter)) := by
      intro waiter _
      by_cases same : waiter = index
      · subst same
        simp [hasGivenUp, waits, isGivenUp, notServed]
      · simp [hasGivenUp, waits, same]
    have servedStay : served.filter (fun waiter => decide (waiter ≠ index)) = served := by
      rw [List.filter_eq_self]
      intro waiter member
      rw [decide_eq_true_eq]
      rintro rfl
      exact notServed member
    have queueLeaves : (system.pool 0).queue.filter (fun waiter => decide (waiter ≠ index)) =
        (next.pool 0).queue := by
      rw [queue, distinct.erase_eq_filter]
      apply List.filter_congr
      intro waiter _
      by_cases same : waiter = index <;> simp [same]
    calc entered.filter (fun waiter => decide (waiter ∈ served) || !next.hasGivenUp waiter)
        = entered.filter (fun waiter => decide (waiter ≠ index) &&
            (decide (waiter ∈ served) || !system.hasGivenUp waiter)) := List.filter_congr leaves
      _ = (served ++ (system.pool 0).queue).filter (fun waiter => decide (waiter ≠ index)) := by
          rw [← ordered.order, List.filter_filter]
      _ = served ++ (next.pool 0).queue := by
          rw [List.filter_append, servedStay, queueLeaves]

theorem of_waited (ordered : ServedInOrder entered served system) (kept : next.KeptToWaiting)
    {index : Nat} (pending : system.wait? index = some none)
    (refused : ((system.pool 0).claim index).1 = .pending)
    (pool : next.pool 0 = ((system.pool 0).claim index).2)
    (waits : ∀ waiter, next.wait? waiter = system.wait? waiter) :
    ServedInOrder (entered ++ (system.pool 0).joined (next.pool 0))
      (served ++ (system.pool 0).served (next.pool 0)) next := by
  rcases (system.pool 0).claim_cases index with ⟨-, claims⟩ | ⟨-, -, claims⟩ |
    ⟨notHanded, notQueued, -, claims⟩ | ⟨-, -, -, claims⟩
  · simp [claims] at refused
  · rw [claims] at pool
    apply ordered.of_stayed kept (by rw [pool]) (by rw [pool])
    · intro waiter outcome past
      rw [waits, past]
    · intro waiter
      simp only [hasGivenUp, waits]
  · rw [claims] at pool
    exact ordered.of_joined kept (by rw [waits, pending]) notHanded notQueued (by rw [pool])
      (by rw [pool]) waits
  · simp [claims] at refused

theorem of_claimed (ordered : ServedInOrder entered served system) (kept : next.KeptToWaiting)
    {index : Nat} (pending : system.wait? index = some none)
    (granted : ((system.pool 0).claim index).1 = .acquired)
    (pool : next.pool 0 = ((system.pool 0).claim index).2)
    (waits : ∀ waiter, next.wait? waiter =
      if waiter = index then some (some .acquired) else system.wait? waiter) :
    ServedInOrder (entered ++ (system.pool 0).joined (next.pool 0))
      (served ++ (system.pool 0).served (next.pool 0)) next := by
  have givenUp : ∀ waiter, next.hasGivenUp waiter = system.hasGivenUp waiter := by
    intro waiter
    by_cases same : waiter = index
    · subst same
      simp [hasGivenUp, waits, pending, Outcome.isGivenUp]
    · simp [hasGivenUp, waits, same]
  have past : ∀ waiter outcome, system.wait? waiter = some (some outcome) →
      next.wait? waiter = some (some outcome) := by
    intro waiter outcome past
    exact wait?_of_other (by simp [pending]) waits past
  rcases (system.pool 0).claim_cases index with ⟨handed, claims⟩ | ⟨-, -, claims⟩ |
    ⟨-, -, -, claims⟩ | ⟨-, -, -, claims⟩
  · -- the waiter was handed the token, and is no longer among those who were
    rw [claims] at pool
    refine ordered.of_unmoved kept (by rw [pool]) (by rw [pool]; exact List.erase_subset)
      ?_ past givenUp
    intro waiter handedBefore
    by_cases same : waiter = index
    · exact Or.inr ⟨.acquired, by rw [waits, if_pos same]⟩
    · left
      rw [pool]
      exact (List.mem_erase_of_ne same).mpr handedBefore
  · simp [claims] at granted
  · simp [claims] at granted
  · rw [claims] at pool
    exact ordered.of_stayed kept (by rw [pool]) (by rw [pool]) past givenUp

theorem of_gaveUp (ordered : ServedInOrder entered served system) (kept : next.KeptToWaiting)
    {index : Nat} {outcome : Outcome} (isGivenUp : outcome.isGivenUp = true)
    (pending : system.wait? index = some none)
    (pool : next.pool 0 = ((system.pool 0).withdraw index).1)
    (waits : ∀ waiter, next.wait? waiter =
      if waiter = index then some (some outcome) else system.wait? waiter) :
    ServedInOrder (entered ++ (system.pool 0).joined (next.pool 0))
      (served ++ (system.pool 0).served (next.pool 0)) next := by
  by_cases handed : index ∈ (system.pool 0).handed
  · rcases Pool.withdraw_of_mem_handed handed with ⟨queue, handedAfter⟩
    rw [← pool] at queue handedAfter
    apply ordered.of_handed kept queue handedAfter List.erase_subset
    · intro waiter handedBefore
      by_cases same : waiter = index
      · exact Or.inr ⟨outcome, by rw [waits, if_pos same]⟩
      · exact Or.inl ((List.mem_erase_of_ne same).mpr handedBefore)
    · intro waiter earlier past
      exact wait?_of_other (by simp [pending]) waits past
    · intro waiter notHanded
      have apart : waiter ≠ index := by
        rintro rfl
        exact notHanded handed
      simp [hasGivenUp, waits, apart]
  · rw [Pool.withdraw_of_not_mem_handed handed] at pool
    exact ordered.of_left kept isGivenUp pending handed (by rw [pool]) (by rw [pool]) waits

theorem of_step (ordered : ServedInOrder entered served system) (kept : next.KeptToWaiting)
    (step : WaiterStep system next) :
    ServedInOrder (entered ++ (system.pool 0).joined (next.pool 0))
      (served ++ (system.pool 0).served (next.pool 0)) next := by
  cases step with
  | quiet pool waits acquired =>
      apply ordered.of_stayed kept (by rw [pool]) (by rw [pool])
      · intro waiter outcome past
        rw [waits, past]
      · intro waiter
        simp only [hasGivenUp, waits]
  | began index fresh pool waits acquired =>
      apply ordered.of_stayed kept (by rw [pool]) (by rw [pool])
      · intro waiter outcome past
        exact wait?_of_other (by simp [fresh]) waits past
      · intro waiter
        by_cases same : waiter = index
        · subst same
          simp [hasGivenUp, waits, fresh]
        · simp [hasGivenUp, waits, same]
  | waited index pending refused pool waits acquired =>
      exact ordered.of_waited kept pending refused pool waits
  | claimed index pending granted pool waits acquired =>
      exact ordered.of_claimed kept pending granted pool waits
  | gaveUp index outcome isGivenUp pending pool waits acquired wakes =>
      exact ordered.of_gaveUp kept isGivenUp pending pool waits

theorem of_move (ordered : ServedInOrder entered served system) {move : Move}
    (permitted : move.keepsToWaiting) :
    ServedInOrder (entered ++ (system.pool 0).joined ((system.perform move).pool 0))
      (served ++ (system.pool 0).served ((system.perform move).pool 0)) (system.perform move) := by
  have kept := perform_keptToWaiting permitted ordered.kept
  have ready := ordered.kept.ready
  rcases WaiterStep.of_move ready ordered.kept.keeps permitted with step | rfl | rfl
  · exact ordered.of_step kept step
  · have waits := directCall_wait? system (Or.inl rfl : Move.tryAcquire 0 = .tryAcquire 0 ∨ _)
    have pool := tryAcquire_pool ready
    apply ordered.of_stayed kept (by simp [pool]) (by simp [pool])
    · intro waiter outcome past
      rw [waits, past]
    · intro waiter
      simp only [hasGivenUp, waits]
  · have waits := directCall_wait? system (Or.inr rfl : _ ∨ Move.tryRelease 0 = .tryRelease 0)
    rcases (system.pool 0).tryRelease_moves with ⟨queue, handed⟩
    rw [← tryRelease_pool ready] at queue handed
    apply ordered.of_handed kept queue handed (List.Subset.refl _)
    · intro waiter handedBefore
      exact Or.inl handedBefore
    · intro waiter outcome past
      rw [waits, past]
    · intro waiter _
      simp only [hasGivenUp, waits]

end ServedInOrder

/-- Those who joined the queue of the first pool along a run, in order. -/
def joinedAlong (system : System) (moves : List Move) : List Nat :=
  system.collect (fun before after => (before.pool 0).joined (after.pool 0)) moves

/-- Those who were handed a token of the first pool along a run, in order. -/
def servedAlong (system : System) (moves : List Move) : List Nat :=
  system.collect (fun before after => (before.pool 0).served (after.pool 0)) moves

theorem ServedInOrder.of_run {moves : List Move} (ordered : ServedInOrder entered served system)
    (permitted : ∀ move ∈ moves, move.keepsToWaiting) :
    ServedInOrder (entered ++ system.joinedAlong moves) (served ++ system.servedAlong moves)
      (system.run moves) := by
  induction moves generalizing system entered served with
  | nil => simpa [joinedAlong, servedAlong, collect] using ordered
  | cons move rest ih =>
      have step := ordered.of_move (permitted move (by simp))
      have later := ih step (fun other member => permitted other (by simp [member]))
      simpa [joinedAlong, servedAlong, collect, List.append_assoc] using later

/-! ### Systems at rest -/

/-- No task can make progress. -/
def Settled (system : System) : Prop :=
  ∀ index, system.turn index = system

theorem wait?_of_finish {index : Nat} {state : TaskState}
    (found : system.tasks[index]? = some state) (pending : state.wait? = some none)
    {before : System} (tasks : before.tasks = system.tasks) (outcome : Outcome) :
    (before.finish index outcome).wait? index = some (some outcome) := by
  have ended := (finish_frame before index outcome).2.1
  rw [tasks] at ended
  rw [wait?_of_ended found pending ended, if_pos rfl]

/-- A waiter whose turn changes nothing finds no token. -/
theorem claim_of_settled (ready : 0 < system.limiters.length) {index : Nat}
    (pending : system.wait? index = some none) (settled : system.turn index = system) :
    (system.pool 0).claim index = (.pending, system.pool 0) := by
  rcases Option.bind_eq_some_iff.mp pending with ⟨state, found, waits⟩
  have notEnded {before : System} (tasks : before.tasks = system.tasks) (outcome : Outcome) :
      before.finish index outcome ≠ system := by
    intro same
    have ended := wait?_of_finish found waits tasks outcome
    rw [same, pending] at ended
    cases ended
  have unfinished : state.outcome = none := by
    cases task : state.task <;> simp_all [TaskState.wait?]
  simp only [turn, found, unfinished, Option.isSome_none, Bool.false_eq_true, if_false] at settled
  cases task : state.task with
  | acquisition context signal =>
      rw [task] at settled
      by_cases aborted : state.isAborted = true
      · simp only [aborted, if_true, dropTask] at settled
        exact absurd settled (notEnded (by simp) _)
      · simp only [aborted, Bool.false_eq_true, if_false, acquire, Pool.turn] at settled
        by_cases canceled : system.isCancelled context = true
        · simp only [canceled, if_true] at settled
          exact absurd settled (notEnded (by simp) _)
        · by_cases stale : system.isFired signal = true
          · simp only [canceled, stale, Bool.false_eq_true, if_false, if_true] at settled
            exact absurd settled (notEnded (by simp) _)
          · simp only [canceled, stale, Bool.false_eq_true, if_false] at settled
            rcases (system.pool 0).claim_answer index with refused | granted
            · rw [refused] at settled
              have same := congrArg (fun system => system.pool 0) settled
              simp only [noteAll_pool, pool_setPool ready, if_true] at same
              exact Prod.ext refused same
            · rw [granted] at settled
              exact absurd settled (notEnded (by simp) _)
  | _ => simp [TaskState.wait?, task] at waits

/-- When no task can make progress, all who wait stand in the queue. -/
theorem queued_of_settled (kept : system.KeptToWaiting) {index : Nat}
    (pending : system.wait? index = some none) (settled : system.turn index = system) :
    index ∈ (system.pool 0).queue ∧ index ∉ (system.pool 0).handed := by
  have claims := claim_of_settled kept.ready pending settled
  rcases (system.pool 0).claim_cases index with ⟨-, eq⟩ | ⟨notHanded, queued, -⟩ | ⟨-, -, -, eq⟩ |
    ⟨-, -, -, eq⟩
  · rw [claims] at eq
    cases (Prod.mk.inj eq).1
  · exact ⟨queued, notHanded⟩
  · rw [claims] at eq
    have longer := congrArg (fun pool => pool.queue.length) (Prod.mk.inj eq).2
    simp at longer
  · rw [claims] at eq
    cases (Prod.mk.inj eq).1

theorem inUse_of_settled (kept : system.KeptToWaiting) {waiter : Nat}
    (pending : system.wait? waiter = some none) (settled : system.Settled) :
    (system.pool 0).inUse = (system.pool 0).capacity := by
  have queued := (queued_of_settled kept pending (settled waiter)).1
  have none := kept.sound.noneIdle (List.ne_nil_of_mem queued)
  have nobodyHanded : (system.pool 0).handed = [] := by
    rw [List.eq_nil_iff_forall_not_mem]
    intro other handed
    have pendingToo := kept.pending other (List.mem_append_right _ handed)
    exact (queued_of_settled kept pendingToo (settled other)).2 handed
  have conserved := kept.sound.conserved
  rw [none, nobodyHanded] at conserved
  simpa using conserved

/-! ### Waiting in line -/

/-- Only those who were handed a token claim one while somebody else waits in the queue. -/
theorem handed_of_acquired (kept : system.KeptToWaiting) {move : Move}
    (permitted : move.keepsToWaiting) (queued : (system.pool 0).queue ≠ []) {waiter : Nat}
    (pending : system.wait? waiter ≠ some (some .acquired))
    (acquired : (system.perform move).wait? waiter = some (some .acquired)) :
    waiter ∈ (system.pool 0).handed := by
  rcases WaiterStep.of_move kept.ready kept.keeps permitted with step | direct
  · cases step with
    | quiet pool waits acquiredToo =>
        rw [waits] at acquired
        exact absurd acquired pending
    | began index fresh pool waits acquiredToo =>
        rw [waits] at acquired
        split at acquired
        · cases acquired
        · exact absurd acquired pending
    | waited index pendingToo refused pool waits acquiredToo =>
        rw [waits] at acquired
        exact absurd acquired pending
    | claimed index pendingToo granted pool waits acquiredToo =>
        rw [waits] at acquired
        split at acquired
        · rename_i same
          subst same
          rcases Pool.claim_acquired_of_sound kept.sound granted with handed | empty
          · exact handed
          · exact absurd empty queued
        · exact absurd acquired pending
    | gaveUp index outcome isGivenUp pendingToo pool waits acquiredToo wakes =>
        rw [waits] at acquired
        split at acquired
        · rename_i same
          cases acquired
          cases isGivenUp
        · exact absurd acquired pending
  · rw [directCall_wait? system direct] at acquired
    exact absurd acquired pending

/-- Whoever is handed a token is woken at once. -/
theorem woken_of_served (kept : system.KeptToWaiting) {move : Move}
    (permitted : move.keepsToWaiting) :
    ∀ waiter ∈ (system.pool 0).served ((system.perform move).pool 0),
      Wakes system (system.perform move) (some waiter) := by
  have nobody {pool : Pool} (subset : pool.handed ⊆ (system.pool 0).handed) {waiter : Nat} :
      waiter ∉ (system.pool 0).served pool := by
    rw [Pool.served_of_subset subset]
    exact List.not_mem_nil
  intro waiter served
  rcases WaiterStep.of_move kept.ready kept.keeps permitted with step | rfl | rfl
  · cases step with
    | quiet pool waits acquired =>
        rw [pool] at served
        exact absurd served (nobody (List.Subset.refl _))
    | began index fresh pool waits acquired =>
        rw [pool] at served
        exact absurd served (nobody (List.Subset.refl _))
    | waited index pending refused pool waits acquired =>
        rw [pool] at served
        exact absurd served (nobody ((system.pool 0).claim_handed index))
    | claimed index pending granted pool waits acquired =>
        rw [pool] at served
        exact absurd served (nobody ((system.pool 0).claim_handed index))
    | gaveUp index outcome isGivenUp pending pool waits acquired wakes =>
        rw [pool] at served
        by_cases handed : index ∈ (system.pool 0).handed
        · rcases Pool.withdraw_of_mem_handed handed with ⟨queue, handedAfter⟩
          rw [Pool.served_of_moved kept.sound queue handedAfter List.erase_subset] at served
          rwa [Option.mem_toList.mp served] at wakes
        · rw [Pool.withdraw_of_not_mem_handed handed] at served
          exact absurd served (nobody (List.Subset.refl _))
  · rw [tryAcquire_pool kept.ready] at served
    exact absurd served (nobody (by simp))
  · rcases (system.pool 0).tryRelease_moves with ⟨queue, handed⟩
    rw [tryRelease_pool kept.ready,
      Pool.served_of_moved kept.sound queue handed (List.Subset.refl _)] at served
    have wakes : Wakes system (system.perform (.tryRelease 0)) ((system.pool 0).tryRelease).2.2 :=
      wakes_of_wokenOf (system.setPool 0 ((system.pool 0).tryRelease).2.1) rfl
        (List.prefix_refl _)
    rwa [Option.mem_toList.mp served] at wakes

/-- What the queue of the first pool promises to those who wait. -/
structure Fair (capacity : Nat) (system : System) (moves : List Move) : Prop where
  /-- No token is idle while somebody waits in the queue. -/
  noneIdle : ((system.run moves).pool 0).queue ≠ [] → ((system.run moves).pool 0).available = 0
  /-- No direct call overtakes those who wait in the queue. -/
  noneTaken : ((system.run moves).pool 0).queue ≠ [] → ((system.run moves).tryAcquire 0).2 = false
  /-- No wait overtakes those who wait in the queue, unless it was handed a token. -/
  noneOvertaken : ((system.run moves).pool 0).queue ≠ [] → ∀ move, move.keepsToWaiting = true →
    ∀ waiter, (system.run moves).wait? waiter ≠ some (some .acquired) →
      ((system.run moves).perform move).wait? waiter = some (some .acquired) →
        waiter ∈ ((system.run moves).pool 0).handed
  /-- Nobody joins the queue twice. -/
  once : (system.joinedAlong moves).Nodup
  /-- Those who were handed a token, followed by those who are still in the queue, are those who
  joined it, less those who gave up before they were handed one. -/
  inOrder : (system.joinedAlong moves).filter (fun waiter =>
      decide (waiter ∈ system.servedAlong moves) || !(system.run moves).hasGivenUp waiter) =
    system.servedAlong moves ++ ((system.run moves).pool 0).queue
  /-- Whoever is handed a token is woken at once. -/
  woken : ∀ move, move.keepsToWaiting = true →
    ∀ waiter ∈ ((system.run moves).pool 0).served (((system.run moves).perform move).pool 0),
      Wakes (system.run moves) ((system.run moves).perform move) (some waiter)
  /-- When no task can make progress, nobody waits unless all tokens are claimed. -/
  noneForgotten : (system.run moves).Settled →
    ∀ waiter, (system.run moves).wait? waiter = some none →
      ((system.run moves).pool 0).inUse = capacity

/-- A pool that is used by direct calls and by waits serves those who wait in the order in which
they came, and leaves no token idle. -/
theorem fair_of_keptToWaiting {capacity : Nat} (system : System) (limiter : Limiter)
    (others : List Limiter) (moves : List Move) (limiters : system.limiters = limiter :: others)
    (created : Pool.create capacity = .ok limiter.pool) (idle : system.tasks = #[])
    (permitted : ∀ move ∈ moves, move.keepsToWaiting = true) : Fair capacity system moves := by
  have ready : 0 < system.limiters.length := by simp [limiters]
  have unused : system.pool 0 = .full capacity := by
    simp only [System.pool, limiters, List.getElem?_cons_zero, Option.map_some, Option.getD_some]
    exact Pool.eq_full_of_create created
  have initially := keptToWaiting_of_unused ready unused idle
  have kept := run_keptToWaiting permitted initially
  have capacityToo : ((system.run moves).pool 0).capacity = capacity := by
    rw [((run_reaches system moves).pool ready).capacity, unused]
    rfl
  have nobody : ServedInOrder [] [] system := by
    refine ⟨initially, List.nodup_nil, ?_, ?_, ?_⟩
    · intro waiter handed
      simp [unused, Pool.full] at handed
    · intro waiter member
      cases member
    · simp [unused, Pool.full]
  refine ⟨kept.sound.noneIdle, ?_, ?_, ?_, ?_, ?_, ?_⟩
  · intro queued
    simp [tryAcquire, Pool.tryAcquire_answer, kept.sound.noneIdle queued]
  · intro queued move allowed waiter pending acquired
    exact handed_of_acquired kept allowed queued pending acquired
  · simpa using (nobody.of_run permitted).once
  · simpa using (nobody.of_run permitted).order
  · intro move allowed
    exact woken_of_served kept allowed
  · intro settled waiter pending
    rw [inUse_of_settled kept pending settled, capacityToo]

/-- Three wait for one token; the first is dropped after it was handed the token, the second claims
it, and the third goes on waiting. -/
def contested : List Move :=
  [.elsewhere .createContext, .elsewhere (.createSignal false), .tryAcquire 0,
    .start (.acquisition ⟨⟨0, 0⟩, []⟩ 0), .start (.acquisition ⟨⟨0, 0⟩, []⟩ 0),
    .start (.acquisition ⟨⟨0, 0⟩, []⟩ 0), .turn 0, .turn 1, .turn 2, .tryRelease 0, .abort 0,
    .turn 0, .turn 1]

theorem fair_contested :
    Fair 1 (single (.full 1)) contested ∧
      (single (.full 1)).joinedAlong contested = [0, 1, 2] ∧
      (single (.full 1)).servedAlong contested = [0, 1] ∧
      ((single (.full 1)).run contested).Settled ∧
      ((single (.full 1)).run contested).wait? 2 = some none := by
  refine ⟨?_, by decide, by decide, ?_, rfl⟩
  · exact fair_of_keptToWaiting (single (.full 1)) _ [] contested rfl rfl rfl (by decide)
  · intro index
    match index with
    | 0 => rfl
    | 1 => rfl
    | 2 => rfl
    | index + 3 => rfl

end System

end Admission
