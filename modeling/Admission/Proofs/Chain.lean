import Admission.Proofs.Frame
import Admission.Proofs.Pool
import Mathlib.Data.List.Forall2

/-!
# Jobs on their way along a chain

A job that moves along a chain holds one token of every limiter that it has passed, and none of
any other. The first half of this file follows the pools of a chain through a turn of a job; the
second half says how many tokens the turn claims at each place, and that a limiter that takes a
token back after a failure finds one to take.

Both halves are inductions along the chain. The second one needs to know at the start that every
limiter passed in an earlier turn has a claimed token, which is what a token held by the job means.
-/

namespace Admission

/-- The record of a token taken back says that the pool accepted it. -/
def LogRecord.SaysReturned (record : LogRecord) : Prop :=
  ("returned", FieldValue.truth true) ∈ record.fields

namespace Passage

/-- Whether a job that got so far has passed the limiter at a place and was not turned away. -/
def isBeyond (place : Nat) : Passage → Bool
  | waiting reached => place < reached
  | through => true
  | stopped _ => false

@[simp]
theorem isBeyond_waiting (place reached : Nat) :
    (waiting reached).isBeyond place = decide (place < reached) := rfl

@[simp]
theorem isBeyond_through (place : Nat) : through.isBeyond place = true := rfl

@[simp]
theorem isBeyond_stopped (place : Nat) (error : HandlerError) :
    (stopped error).isBeyond place = false := rfl

end Passage

namespace Limiter

/-- A limiter whose pool is used. -/
def Reaches (before after : Limiter) : Prop :=
  before.pool.Reaches after.pool

theorem takeBack_pool (limiter : Limiter) (place : Nat) (uuid : String) (error : HandlerError) :
    (limiter.takeBack place uuid error).1.pool = limiter.pool.tryRelease.2.1 := rfl

theorem takeBack_reaches (limiter : Limiter) (place : Nat) (uuid : String)
    (error : HandlerError) : limiter.Reaches (limiter.takeBack place uuid error).1 :=
  Pool.Reaches.tryRelease .unused

/-- A limiter with a claimed token finds one to take back. -/
theorem takeBack_returned {limiter : Limiter} (claimed : 0 < limiter.pool.inUse) (place : Nat)
    (uuid : String) (error : HandlerError) :
    ∀ record ∈ Notice.allTakenBack (limiter.takeBack place uuid error).2,
      record.SaysReturned := by
  have answer : limiter.pool.tryRelease.1 = true := by
    simp [Pool.tryRelease_answer, claimed]
  intro record member
  simp only [takeBack, Limiter.record, Notice.allTakenBack_append, Notice.allTakenBack_wokenOf,
    Notice.allTakenBack_cons, Notice.takenBack?, if_true, Notice.allTakenBack_nil] at member
  simp only [Option.toList_some, Option.toList_none, List.nil_append, List.append_nil,
    List.mem_singleton] at member
  subst record
  simp [LogRecord.SaysReturned, answer]

theorem admitted_takenBack (limiter : Limiter) (place : Nat) (visit : Visit) :
    Notice.allTakenBack (limiter.admitted place visit) = [] := by
  simp [admitted, Limiter.record, Notice.takenBack?]

section Afterwards

variable (limiter : Limiter) (place : Nat) (uuid : String) (rest : List Limiter)
  (notices : List Notice)

@[simp]
theorem afterwards_passage (passage : Passage) :
    (limiter.afterwards place uuid rest passage notices).2.1 = passage := by
  cases passage <;> rfl

theorem afterwards_stopped (error : HandlerError) :
    limiter.afterwards place uuid rest (.stopped error) notices =
      ((limiter.takeBack place uuid error).1 :: rest, .stopped error,
        notices ++ (limiter.takeBack place uuid error).2) := rfl

theorem afterwards_of_isBeyond {passage : Passage} {passed : Nat}
    (beyond : passage.isBeyond passed = true) :
    limiter.afterwards place uuid rest passage notices =
      (limiter :: rest, passage, notices) := by
  cases passage with
  | waiting reached => rfl
  | through => rfl
  | stopped error => simp at beyond

/-- The limiter of a job that was turned away gives its token back, and that of any other job
keeps it. -/
theorem afterwards_inUse {passed : Nat} {passage : Passage}
    (claimed : 0 < limiter.pool.inUse)
    (decided : (∃ error, passage = .stopped error) ∨ passage.isBeyond passed = true) :
    ∃ after, (limiter.afterwards place uuid rest passage notices).1 = after :: rest ∧
      after.pool.inUse + 1 = limiter.pool.inUse + (passage.isBeyond passed).toNat := by
  rcases decided with ⟨error, rfl⟩ | beyond
  · refine ⟨(limiter.takeBack place uuid error).1, rfl, ?_⟩
    rw [takeBack_pool, (Pool.tryRelease_frame limiter.pool).2]
    simp only [Passage.isBeyond_stopped, Bool.toNat_false]
    omega
  · rw [afterwards_of_isBeyond limiter place uuid rest notices beyond]
    exact ⟨limiter, rfl, by simp [beyond]⟩

/-- The limiter of a job that went on is used at most for taking its token back. -/
theorem afterwards_limiters (passage : Passage) :
    ∃ after, (limiter.afterwards place uuid rest passage notices).1 = after :: rest ∧
      limiter.Reaches after := by
  cases passage with
  | waiting reached => exact ⟨limiter, rfl, .unused⟩
  | through => exact ⟨limiter, rfl, .unused⟩
  | stopped error => exact ⟨_, rfl, takeBack_reaches limiter place uuid error⟩

theorem afterwards_returned (claimed : 0 < limiter.pool.inUse) (passage : Passage)
    {notices : List Notice}
    (earlier : ∀ record ∈ Notice.allTakenBack notices, record.SaysReturned) :
    ∀ record ∈ Notice.allTakenBack (limiter.afterwards place uuid rest passage notices).2.2,
      record.SaysReturned := by
  cases passage with
  | waiting reached => exact earlier
  | through => exact earlier
  | stopped error =>
      intro record member
      rw [afterwards_stopped, Notice.allTakenBack_append, List.mem_append] at member
      rcases member with inner | own
      · exact earlier record inner
      · exact takeBack_returned claimed place uuid error record own

end Afterwards

/-- A turn of a job that waits for a token of the limiter. -/
def attend (limiter : Limiter) (visit : Visit) : Wait × Limiter :=
  let (wait, pool, _) := limiter.pool.turn visit.task visit.cause.isSome visit.isStale
  (wait, { limiter with pool })

theorem attend_reaches (limiter : Limiter) (visit : Visit) :
    limiter.Reaches (limiter.attend visit).2 :=
  Pool.Reaches.turn .unused visit.task visit.cause.isSome visit.isStale

theorem attend_inUse (limiter : Limiter) (visit : Visit) :
    (limiter.attend visit).2.pool.inUse =
      limiter.pool.inUse + if (limiter.attend visit).1 = .acquired then 1 else 0 :=
  limiter.pool.turn_inUse visit.task visit.cause.isSome visit.isStale

theorem attend_claimed {limiter : Limiter} {visit : Visit}
    (granted : (limiter.attend visit).1 = .acquired) :
    (limiter.attend visit).2.pool.inUse = limiter.pool.inUse + 1 := by
  rw [attend_inUse, granted]
  rfl

theorem attend_unclaimed {limiter : Limiter} {visit : Visit}
    (refused : (limiter.attend visit).1 ≠ .acquired) :
    (limiter.attend visit).2.pool.inUse = limiter.pool.inUse := by
  rw [attend_inUse, if_neg refused, Nat.add_zero]

end Limiter

/-- A job that has just won a token and has not waited for the next one yet. -/
def Visit.onward (visit : Visit) : Visit :=
  { visit with waited := ⟨0⟩ }

namespace Chain

/-- Every limiter of a chain is used, and none is added or taken away. -/
abbrev Reaches : List Limiter → List Limiter → Prop :=
  List.Forall₂ Limiter.Reaches

theorem Reaches.refl (limiters : List Limiter) : Reaches limiters limiters :=
  List.forall₂_same.mpr fun _ _ => Pool.Reaches.unused

theorem Reaches.trans {limiters used last : List Limiter} (before : Reaches limiters used)
    (after : Reaches used last) : Reaches limiters last := by
  induction before generalizing last with
  | nil => exact after
  | cons first _ ih =>
      cases after with
      | cons second rest => exact .cons (Pool.Reaches.trans first second) (ih rest)

/-- What became of the limiter at a place. -/
theorem Reaches.getElem? {limiters used : List Limiter} (reaches : Reaches limiters used)
    {place : Nat} {limiter : Limiter} (found : limiters[place]? = some limiter) :
    ∃ after, used[place]? = some after ∧ limiter.Reaches after := by
  induction reaches generalizing place with
  | nil => simp at found
  | cons first _ ih =>
      cases place with
      | zero =>
          simp only [List.getElem?_cons_zero, Option.some.injEq] at found
          subst found
          exact ⟨_, rfl, first⟩
      | succ place => exact ih (by simpa using found)

theorem Reaches.modify {limiters : List Limiter} {place : Nat} {change : Limiter → Limiter}
    (reaches : ∀ limiter, limiters[place]? = some limiter →
      Limiter.Reaches limiter (change limiter)) :
    Reaches limiters (limiters.modify place change) := by
  induction limiters generalizing place with
  | nil => simp
  | cons limiter rest ih =>
      cases place with
      | zero => exact .cons (reaches limiter (by simp)) (Reaches.refl rest)
      | succ place =>
          exact .cons .unused (ih fun other found => reaches other (by simpa using found))

/-! ### One limiter on the way -/

section Advance

variable (place passed : Nat) (visit : Visit) (limiter : Limiter) (rest : List Limiter)

/-- A job that has passed the limiter goes on from the next one. -/
theorem advance_succ :
    advance place (passed + 1) visit (limiter :: rest) =
      limiter.afterwards place visit.uuid (advance (place + 1) passed visit rest).1
        (advance (place + 1) passed visit rest).2.1 (advance (place + 1) passed visit rest).2.2 :=
  rfl

/-- A job that wins a token of the limiter goes on to the next one. -/
theorem advance_acquired (granted : (limiter.attend visit).1 = .acquired) :
    advance place 0 visit (limiter :: rest) =
      (limiter.attend visit).2.afterwards place visit.uuid
        (advance (place + 1) 0 visit.onward rest).1
        (advance (place + 1) 0 visit.onward rest).2.1
        ((limiter.attend visit).2.admitted place visit ++
          (advance (place + 1) 0 visit.onward rest).2.2) := by
  simp only [Limiter.attend] at granted
  simp only [advance, granted]
  rfl

/-- A job that wins no token of the limiter waits there or is turned away. -/
theorem advance_refused (refused : (limiter.attend visit).1 ≠ .acquired) :
    (advance place 0 visit (limiter :: rest)).1 = (limiter.attend visit).2 :: rest ∧
      ((advance place 0 visit (limiter :: rest)).2.1 = .waiting place ∨
        ∃ error, (advance place 0 visit (limiter :: rest)).2.1 = .stopped error) ∧
      Notice.allTakenBack (advance place 0 visit (limiter :: rest)).2.2 = [] := by
  simp only [Limiter.attend] at refused
  simp only [advance]
  split
  · exact ⟨rfl, Or.inl rfl, rfl⟩
  · exact ⟨rfl, Or.inr ⟨_, rfl⟩, by simp⟩
  · exact ⟨rfl, Or.inr ⟨_, rfl⟩, by simp⟩
  · rename_i granted
    exact absurd granted refused

end Advance

/-! ### The pools along the way -/

theorem advance_reaches (place passed : Nat) (visit : Visit) (limiters : List Limiter) :
    Reaches limiters (advance place passed visit limiters).1 := by
  induction limiters generalizing place passed visit with
  | nil => cases passed <;> exact .nil
  | cons limiter rest ih =>
      cases passed with
      | succ passed =>
          rw [advance_succ]
          obtain ⟨after, equal, reaches⟩ := limiter.afterwards_limiters place visit.uuid
            (advance (place + 1) passed visit rest).1
            (advance (place + 1) passed visit rest).2.2
            (advance (place + 1) passed visit rest).2.1
          rw [equal]
          exact .cons reaches (ih (place + 1) passed visit)
      | zero =>
          have attended := limiter.attend_reaches visit
          by_cases granted : (limiter.attend visit).1 = .acquired
          · rw [advance_acquired place visit limiter rest granted]
            obtain ⟨after, equal, reaches⟩ := (limiter.attend visit).2.afterwards_limiters place
              visit.uuid (advance (place + 1) 0 visit.onward rest).1
              ((limiter.attend visit).2.admitted place visit ++
                (advance (place + 1) 0 visit.onward rest).2.2)
              (advance (place + 1) 0 visit.onward rest).2.1
            rw [equal]
            exact .cons (Pool.Reaches.trans attended reaches) (ih (place + 1) 0 visit.onward)
          · rw [(advance_refused place visit limiter rest granted).1]
            exact .cons attended (Reaches.refl rest)

theorem conclude_ok (place : Nat) (uuid : String) (limiters : List Limiter) :
    conclude place uuid (.ok ()) limiters = (limiters, []) := by
  induction limiters generalizing place with
  | nil => rfl
  | cons limiter rest ih => simp [conclude, ih]

theorem conclude_error (place : Nat) (uuid : String) (error : HandlerError)
    (limiters : List Limiter) :
    (conclude place uuid (.error error) limiters).1 =
      limiters.map fun limiter => { limiter with pool := limiter.pool.tryRelease.2.1 } := by
  induction limiters generalizing place with
  | nil => rfl
  | cons limiter rest ih =>
      simp only [conclude, ih, List.map_cons]
      rfl

theorem conclude_reaches (place : Nat) (uuid : String) (result : Except HandlerError Unit)
    (limiters : List Limiter) : Reaches limiters (conclude place uuid result limiters).1 := by
  cases result with
  | ok _ =>
      rw [conclude_ok]
      exact .refl limiters
  | error error =>
      rw [conclude_error]
      refine List.forall₂_map_right_iff.mpr (List.forall₂_same.mpr ?_)
      intro limiter _
      exact .tryRelease .unused

theorem withdraw_limiters (task place : Nat) (limiters : List Limiter) :
    (withdraw task place limiters).1 =
      limiters.modify place fun limiter =>
        { limiter with pool := (limiter.pool.withdraw task).1 } := by
  induction limiters generalizing place with
  | nil => cases place <;> rfl
  | cons limiter rest ih =>
      cases place with
      | zero => rfl
      | succ place => simp [withdraw, ih]

@[simp]
theorem withdraw_takenBack (task place : Nat) (limiters : List Limiter) :
    Notice.allTakenBack (withdraw task place limiters).2 = [] := by
  induction limiters generalizing place with
  | nil => cases place <;> rfl
  | cons limiter rest ih =>
      cases place with
      | zero => simp [withdraw]
      | succ place => simp [withdraw, ih]

theorem withdraw_reaches (task place : Nat) (limiters : List Limiter) :
    Reaches limiters (withdraw task place limiters).1 := by
  rw [withdraw_limiters]
  exact .modify fun limiter _ => .withdraw .unused task

/-! ### The tokens of one job -/

/-- Every limiter that a job has passed has a claimed token. -/
def HoldsTokens (passed : Nat) (limiters : List Limiter) : Prop :=
  ∀ place limiter, place < passed → limiters[place]? = some limiter → 0 < limiter.pool.inUse

theorem HoldsTokens.tail {passed : Nat} {limiter : Limiter} {rest : List Limiter}
    (holds : HoldsTokens (passed + 1) (limiter :: rest)) : HoldsTokens passed rest := by
  intro place other before found
  exact holds (place + 1) other (by omega) (by simpa using found)

theorem HoldsTokens.head {passed : Nat} {limiter : Limiter} {rest : List Limiter}
    (holds : HoldsTokens (passed + 1) (limiter :: rest)) : 0 < limiter.pool.inUse :=
  holds 0 limiter (by omega) (by simp)

theorem holdsTokens_zero (limiters : List Limiter) : HoldsTokens 0 limiters := by
  intro place limiter before
  omega

/-- A job waits for no limiter that it has passed. -/
theorem advance_waiting_le {place passed : Nat} {visit : Visit} {limiters : List Limiter}
    {reached : Nat} (waits : (advance place passed visit limiters).2.1 = .waiting reached) :
    place + passed ≤ reached := by
  induction limiters generalizing place passed visit with
  | nil => cases passed <;> simp [advance] at waits
  | cons limiter rest ih =>
      cases passed with
      | succ passed =>
          rw [advance_succ, Limiter.afterwards_passage] at waits
          have further := ih waits
          omega
      | zero =>
          by_cases granted : (limiter.attend visit).1 = .acquired
          · rw [advance_acquired place visit limiter rest granted,
              Limiter.afterwards_passage] at waits
            have further := ih waits
            omega
          · rcases (advance_refused place visit limiter rest granted).2.1 with stays | ⟨error, away⟩
            · rw [stays] at waits
              cases waits
              simp
            · rw [away] at waits
              cases waits

/-- A job was turned away, or is beyond every limiter that it had passed. -/
theorem advance_stopped_or_isBeyond (place passed : Nat) (visit : Visit)
    (limiters : List Limiter) (earlier : Nat) (before : earlier < place + passed) :
    (∃ error, (advance place passed visit limiters).2.1 = .stopped error) ∨
      (advance place passed visit limiters).2.1.isBeyond earlier = true := by
  cases passage : (advance place passed visit limiters).2.1 with
  | waiting reached =>
      right
      have further := advance_waiting_le passage
      simp only [Passage.isBeyond_waiting, decide_eq_true_eq]
      omega
  | through => exact Or.inr rfl
  | stopped error => exact Or.inl ⟨error, rfl⟩

/-- A job that wins no token of the first limiter claims none further on. -/
theorem advance_inUse_of_refused {place : Nat} {visit : Visit} {first : Limiter}
    {rest : List Limiter} (refused : (first.attend visit).1 ≠ .acquired) {offset : Nat}
    {limiter after : Limiter} (found : (first :: rest)[offset]? = some limiter)
    (foundAfter : (advance place 0 visit (first :: rest)).1[offset]? = some after) :
    after.pool.inUse = limiter.pool.inUse ∧
      (advance place 0 visit (first :: rest)).2.1.isBeyond (place + offset) = false := by
  have unclaimed := Limiter.attend_unclaimed refused
  obtain ⟨equal, passage, -⟩ := advance_refused place visit first rest refused
  constructor
  · rw [equal] at foundAfter
    cases offset with
    | zero =>
        simp only [List.getElem?_cons_zero, Option.some.injEq] at found foundAfter
        subst found foundAfter
        exact unclaimed
    | succ offset =>
        simp only [List.getElem?_cons_succ] at found foundAfter
        rw [found] at foundAfter
        cases foundAfter
        rfl
  · rcases passage with stays | ⟨error, away⟩
    · simp [stays]
    · simp [away]

/-- A turn of a job claims one token at every place that the job passes in it, and gives one back
at every place that it had passed if it is turned away. -/
theorem advance_inUse {place passed : Nat} {visit : Visit} {limiters : List Limiter}
    (holds : HoldsTokens passed limiters) {offset : Nat} {limiter after : Limiter}
    (found : limiters[offset]? = some limiter)
    (foundAfter : (advance place passed visit limiters).1[offset]? = some after) :
    after.pool.inUse + (decide (offset < passed)).toNat =
      limiter.pool.inUse +
        ((advance place passed visit limiters).2.1.isBeyond (place + offset)).toNat := by
  induction limiters generalizing place passed visit offset with
  | nil => simp at found
  | cons first rest ih =>
      have shifted (offset : Nat) : place + 1 + offset = place + (offset + 1) := by omega
      cases passed with
      | succ passed =>
          have decided := advance_stopped_or_isBeyond (place + 1) passed visit rest place
            (by omega)
          obtain ⟨last, equal, counted⟩ := first.afterwards_inUse place visit.uuid
            (advance (place + 1) passed visit rest).1 (advance (place + 1) passed visit rest).2.2
            holds.head decided
          rw [advance_succ, equal] at foundAfter
          rw [advance_succ, Limiter.afterwards_passage]
          cases offset with
          | zero =>
              simp only [List.getElem?_cons_zero, Option.some.injEq] at found foundAfter
              subst found foundAfter
              simpa using counted
          | succ offset =>
              simp only [List.getElem?_cons_succ] at found foundAfter
              have later := ih holds.tail found foundAfter
              simpa [shifted] using later
      | zero =>
          by_cases granted : (first.attend visit).1 = .acquired
          · have claimed := Limiter.attend_claimed granted
            have decided := advance_stopped_or_isBeyond (place + 1) 0 visit.onward rest
              place (by omega)
            obtain ⟨last, equal, counted⟩ := (first.attend visit).2.afterwards_inUse place
              visit.uuid (advance (place + 1) 0 visit.onward rest).1
              ((first.attend visit).2.admitted place visit ++
                (advance (place + 1) 0 visit.onward rest).2.2)
              (by omega) decided
            rw [advance_acquired place visit first rest granted] at foundAfter ⊢
            rw [equal] at foundAfter
            rw [Limiter.afterwards_passage]
            cases offset with
            | zero =>
                simp only [List.getElem?_cons_zero, Option.some.injEq] at found foundAfter
                subst found foundAfter
                simp only [Nat.lt_irrefl, decide_false, Bool.toNat_false, Nat.add_zero]
                omega
            | succ offset =>
                simp only [List.getElem?_cons_succ] at found foundAfter
                have later := @ih (place + 1) 0 visit.onward (holdsTokens_zero rest) offset found
                  foundAfter
                simpa [shifted] using later
          · rcases advance_inUse_of_refused granted found foundAfter with ⟨unclaimed, notBeyond⟩
            rw [unclaimed, notBeyond]
            simp

/-- Every token that a limiter takes back in a turn of a job is one that the job held. -/
theorem advance_returned {place passed : Nat} {visit : Visit} {limiters : List Limiter}
    (holds : HoldsTokens passed limiters) :
    ∀ record ∈ Notice.allTakenBack (advance place passed visit limiters).2.2,
      record.SaysReturned := by
  induction limiters generalizing place passed visit with
  | nil => cases passed <;> simp [advance]
  | cons first rest ih =>
      cases passed with
      | succ passed =>
          rw [advance_succ]
          exact first.afterwards_returned place visit.uuid _ holds.head _ (ih holds.tail)
      | zero =>
          by_cases granted : (first.attend visit).1 = .acquired
          · have claimed := Limiter.attend_claimed granted
            rw [advance_acquired place visit first rest granted]
            apply (first.attend visit).2.afterwards_returned place visit.uuid _ (by omega) _
            rw [Notice.allTakenBack_append, Limiter.admitted_takenBack, List.nil_append]
            exact ih (holdsTokens_zero rest)
          · rw [(advance_refused place visit first rest granted).2.2]
            simp

theorem conclude_returned {place : Nat} {uuid : String} {error : HandlerError}
    {limiters : List Limiter} (claimed : ∀ limiter ∈ limiters, 0 < limiter.pool.inUse) :
    ∀ record ∈ Notice.allTakenBack (conclude place uuid (.error error) limiters).2,
      record.SaysReturned := by
  induction limiters generalizing place with
  | nil => simp [conclude]
  | cons first rest ih =>
      intro record member
      simp only [conclude, Notice.allTakenBack_append, List.mem_append] at member
      rcases member with inner | own
      · exact ih (fun limiter inside => claimed limiter (List.mem_cons_of_mem first inside))
          record inner
      · exact Limiter.takeBack_returned (claimed first List.mem_cons_self) _ _ _ record own

end Chain

end Admission
