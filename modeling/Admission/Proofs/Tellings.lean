import Admission.Proofs.Fates
import Admission.Proofs.Hearings

/-!
# What each move tells

The signs of a run are counted with a test. A move adds to the count what the turn of a job gives, by
`JobMoves`, or one sign for each change of which the reconciler of the first limiter is notified, or
the event that somebody outside publishes. No other move adds anything.
-/

namespace Admission

/-- The change that an item of a stream tells of. -/
def FeedItem.change? : FeedItem → Option ResourceEvent
  | event change => some change
  | synced => none

/-- The sign that the reconciler gives of a change. -/
def ResourceEvent.sign (change : ResourceEvent) : Sign :=
  .told 0 (Reconciler.eventOf 0 change).bare

/-- How a refusal is told. -/
def HandlerError.toldAs : HandlerError → EventKind
  | canceled _ => .waitCanceled
  | _ => .jobStale

theorem Reconciler.eventOf_bare (available : Nat) (change : ResourceEvent) :
    (eventOf available change).bare = (eventOf 0 change).bare := by
  cases change <;> rfl

namespace Sign

/-- Whether a sign is an event of a kind at a place. -/
def tells (kind : EventKind) (place : Nat) : Sign → Bool
  | told other event => other == place && event.kind == kind
  | _ => false

theorem tells_of_ne {kind : EventKind} {event : Event} (other : event.kind ≠ kind)
    (place spot : Nat) : tells kind place (.told spot event) = false := by
  simp [tells, other]

section Counts

variable (uuid : String) (error : HandlerError) (first count place : Nat)

theorem countP_entering :
    (entering uuid first count).countP (tells .tokenAcquired place) =
      (decide (first ≤ place ∧ place < first + count)).toNat := by
  induction count generalizing first with
  | zero =>
      have outside : ¬(first ≤ place ∧ place < first + 0) := by omega
      rw [decide_eq_false outside]
      rfl
  | succ count ih =>
      rw [entering_succ, List.countP_cons, ih]
      by_cases here : first = place
      · subst here
        have behind : ¬(first + 1 ≤ first ∧ first < first + 1 + count) := by omega
        rw [decide_eq_false behind]
        simp [acquired, tells]
      · have shifted : decide (first + 1 ≤ place ∧ place < first + 1 + count) =
            decide (first ≤ place ∧ place < first + (count + 1)) :=
          decide_eq_decide.mpr (by omega)
        rw [shifted]
        simp [acquired, tells, here]

theorem countP_entering_of_ne {kind : EventKind} (other : kind ≠ .tokenAcquired) :
    (entering uuid first count).countP (tells kind place) = 0 := by
  apply List.countP_eq_zero.mpr
  intro sign member
  rcases List.mem_map.mp member with ⟨spot, -, rfl⟩
  simp [acquired, tells, Ne.symm other]

theorem countP_leaving :
    (leaving uuid error first count).countP (tells .tokenReturned place) =
      (decide (first ≤ place ∧ place < first + count)).toNat := by
  induction count generalizing first with
  | zero =>
      have outside : ¬(first ≤ place ∧ place < first + 0) := by omega
      rw [decide_eq_false outside]
      rfl
  | succ count ih =>
      rw [leaving_succ, List.countP_append, ih]
      by_cases here : first = place
      · subst here
        have behind : ¬(first + 1 ≤ first ∧ first < first + 1 + count) := by omega
        rw [decide_eq_false behind]
        simp [returned, tells]
      · have shifted : decide (first + 1 ≤ place ∧ place < first + 1 + count) =
            decide (first ≤ place ∧ place < first + (count + 1)) :=
          decide_eq_decide.mpr (by omega)
        rw [shifted]
        simp [returned, tells, here]

theorem countP_leaving_of_ne {kind : EventKind} (other : kind ≠ .tokenReturned) :
    (leaving uuid error first count).countP (tells kind place) = 0 := by
  apply List.countP_eq_zero.mpr
  intro sign member
  rcases List.mem_flatMap.mp member with ⟨spot, -, inside⟩
  simp only [returned, List.mem_cons, List.not_mem_nil, or_false] at inside
  rcases inside with rfl | rfl <;> simp [tells, Ne.symm other]

theorem tells_refused (kind : EventKind) :
    tells kind place (refused uuid error first) = (first == place && error.toldAs == kind) := by
  cases error <;> rfl

end Counts

end Sign

namespace Watch

/-- A listener tells of every change that it applies, and of no other. -/
theorem takeAll_countP {test : Sign → Bool}
    (unmoved : ∀ event, event.kind = .feedSynced → test (.told 0 event) = false) (index : Nat)
    (feed : String) (pool : Pool) (isSynced : Bool) (items : List FeedItem) :
    ((takeAll 0 index feed pool isSynced items).2.2.flatMap Notice.signs).countP test =
      (items.filterMap FeedItem.change?).countP fun change => test change.sign := by
  induction items generalizing pool isSynced with
  | nil => rfl
  | cons item rest ih =>
      simp only [takeAll, List.flatMap_append, List.countP_append, ih]
      cases item with
      | event change =>
          have told := Reconciler.apply_signs 0 pool change
          rw [Reconciler.eventOf_bare] at told
          simp only [take, told, List.filterMap_cons, FeedItem.change?, List.countP_cons,
            List.countP_nil, Nat.zero_add]
          exact Nat.add_comm _ _
      | synced =>
          cases isSynced with
          | true => simp [take, FeedItem.change?, List.filterMap_cons]
          | false =>
              have passedOver := unmoved (Reconciler.syncedEvent feed pool.available).bare rfl
              simp [take, FeedItem.change?, List.filterMap_cons, passedOver]

end Watch

namespace System

/-- The changes of which the reconciler of the first limiter is notified in a move. -/
def notified (system : System) : Move → List ResourceEvent
  | .reconcile change => [change]
  | .turn index =>
      match system.heardBy index with
      | some place => (system.appliedIn place (.turn index)).filterMap (·.2.change?)
      | none => []
  | _ => []

/-- How many events of a kind were published at a place. -/
def toldAt (kind : EventKind) (place : Nat) (system : System) : Nat :=
  system.published.countP fun entry => entry.1 == place && entry.2.kind == kind

theorem toldAt_eq (kind : EventKind) (place : Nat) (system : System) :
    system.toldAt kind place = system.signs.countP (Sign.tells kind place) := by
  simp only [toldAt, published, signs]
  induction system.history.toList with
  | nil => rfl
  | cons notice rest ih =>
      rw [List.flatMap_cons, List.countP_append, ← ih]
      cases notice with
      | published other event =>
          simp only [List.filterMap_cons, Notice.event?, List.countP_cons, Notice.signs,
            List.countP_nil, Nat.zero_add]
          exact Nat.add_comm _ _
      | logged record =>
          simp only [List.filterMap_cons, Notice.event?, Notice.signs]
          split <;> simp [Sign.tells]
      | forwarded arrival => simp [List.filterMap_cons, Notice.event?, Notice.signs, Sign.tells]
      | _ => simp [List.filterMap_cons, Notice.event?, Notice.signs]

section Moves

variable {system : System} {test : Sign → Bool}

theorem attended_signs (system : System) (place : Nat) (watched : Watch) :
    (system.attended place watched).signs =
      system.signs ++ (Watch.takeAll 0 place watched.feed (system.pool 0) watched.isSynced
        ((system.unread watched.stream).take turnLimit)).2.2.flatMap Notice.signs := by
  rw [attended, noteAll_signs]
  rfl

theorem endListening_signs (system : System) (index place : Nat) (watched : Watch) :
    (system.endListening index place watched).signs = system.signs := by
  have ended : (system.note (Watch.endedNotice watched.feed)).signs = system.signs := by
    rw [note_signs]
    exact List.append_nil _
  rw [endListening, finish_signs, note_signs, Notice.signs_told, List.append_nil, ← ended]
  rfl

theorem encounters_changes (pool : Pool) (items : List FeedItem) :
    (Watch.encounters pool items).filterMap (·.2.change?) = items.filterMap FeedItem.change? := by
  have applied := Watch.encounters_items pool items
  calc
    (Watch.encounters pool items).filterMap (·.2.change?) =
        ((Watch.encounters pool items).map (·.2)).filterMap FeedItem.change? := by
      rw [List.filterMap_map]
      rfl
    _ = items.filterMap FeedItem.change? := by rw [applied]

/-- What a listener adds in its turn. -/
theorem turn_countP_of_heard
    (unmoved : ∀ event, event.kind = .feedSynced → test (.told 0 event) = false)
    {index place : Nat} (hears : system.heardBy index = some place) :
    (system.turn index).signs.countP test =
      system.signs.countP test +
        (system.notified (.turn index)).countP fun change => test change.sign := by
  rcases heardBy_eq_some.mp hears with ⟨state, found, unfinished, unmarked, task⟩
  have turned : system.turn index = system.listen index place := by
    simp [turn, found, unfinished, unmarked, task]
  simp only [turned, notified, hears]
  cases present : system.watches[place]? with
  | none => simp [listen, appliedIn, present]
  | some watched =>
      rw [listen_eq present, appliedIn_of_heard hears present]
      cases cancelled : system.isCancelled watched.context with
      | true =>
          rw [if_pos rfl, endListening_signs]
          rfl
      | false =>
          have counted := Watch.takeAll_countP unmoved place watched.feed (system.pool 0)
            watched.isSynced ((system.unread watched.stream).take turnLimit)
          have attended : (system.attended place watched).signs.countP test =
              system.signs.countP test +
                ((Watch.encounters (system.pool 0)
                  ((system.unread watched.stream).take turnLimit)).filterMap
                    (·.2.change?)).countP fun change => test change.sign := by
            rw [attended_signs, List.countP_append, counted, encounters_changes]
          simp only [Bool.false_eq_true, if_false]
          split
          · rw [note_signs, Notice.signs_yielded, List.append_nil]
            exact attended
          · split
            · exact attended
            · rw [endListening_signs]
              exact attended

theorem heardBy_of_other {index : Nat} {state : TaskState}
    (found : system.tasks[index]? = some state) (deaf : state.task.isListening = false) :
    system.heardBy index = none := by
  cases hears : system.heardBy index with
  | none => rfl
  | some place =>
      rcases heardBy_eq_some.mp hears with ⟨other, same, -, -, task⟩
      rw [found, Option.some.injEq] at same
      rw [same, task] at deaf
      cases deaf

theorem not_isListening {index : Nat} {state : TaskState}
    (found : system.tasks[index]? = some state) (unfinished : state.outcome = none)
    (unmarked : state.isAborted = false) (unheard : system.heardBy index = none) :
    state.task.isListening = false := by
  cases task : state.task with
  | listening watch =>
      have hears := heardBy_eq_some.mpr ⟨state, found, unfinished, unmarked, task⟩
      rw [unheard] at hears
      cases hears
  | _ => rfl

/-- What the turn of a task that handles no job adds. -/
theorem turn_countP_of_noJob
    (unmoved : ∀ event, event.kind = .feedSynced → test (.told 0 event) = false) {index : Nat}
    (noJob : ∀ state, system.tasks[index]? = some state → state.task.isAdmission = false) :
    (system.turn index).signs.countP test =
      system.signs.countP test +
        (system.notified (.turn index)).countP fun change => test change.sign := by
  cases hears : system.heardBy index with
  | some place => exact turn_countP_of_heard unmoved hears
  | none =>
      have silent : (system.turn index).signs = system.signs := by
        rcases turn_cases system index with same | ⟨state, found, unfinished⟩
        · rw [same]
        · by_cases marked : state.isAborted = true
          · rw [turn_of_isAborted found unfinished marked, dropTask_signs]
          · apply turn_signs system found (noJob state found)
            exact not_isListening found unfinished (by simpa using marked) hears
      simp only [silent, notified, hears]
      rfl

/-- What a move adds that is no turn of a job. -/
theorem perform_countP
    (unmoved : ∀ event, event.kind = .feedSynced → test (.told 0 event) = false) {move : Move}
    (noJob : ∀ index state, move = .turn index → system.tasks[index]? = some state →
      state.task.isAdmission = false)
    (unpublished : ∀ place event, move = .elsewhere (.publish place event) →
      test (.told place event.bare) = false) :
    (system.perform move).signs.countP test =
      system.signs.countP test + (system.notified move).countP fun change => test change.sign := by
  cases move with
  | turn index => exact turn_countP_of_noJob unmoved (fun state => noJob index state rfl)
  | drop index =>
      rcases dropNow_cases system index with same | ⟨state, -, -, dropped⟩
      · rw [perform, same]
        rfl
      · rw [perform, dropped, dropTask_signs]
        rfl
  | abort index =>
      rw [perform, abort_signs]
      rfl
  | start task =>
      rw [perform, spawn_signs]
      rfl
  | tryAcquire place => rfl
  | tryRelease place =>
      simp only [perform, tryRelease, noteAll_signs, Notice.signs_wokenOf, List.append_nil]
      rfl
  | reconcile change =>
      have told := Reconciler.apply_signs 0 (system.pool 0) change
      rw [Reconciler.eventOf_bare] at told
      simp only [perform, reconcile, noteAll_signs, told, List.countP_append]
      rfl
  | elsewhere happening =>
      by_cases publishes : ∃ place event, happening = .publish place event
      · rcases publishes with ⟨place, event, rfl⟩
        have passedOver := unpublished place event rfl
        simp [perform, undergo, passedOver, notified]
      · rw [perform, undergo_signs]
        · rfl
        · intro place event same
          exact publishes ⟨place, event, same⟩

end Moves

end System

end Admission
