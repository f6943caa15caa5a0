import Admission.Proofs.Signs

/-!
# How far a job gets in a turn

A job that comes to a limiter, or waits there, is refused if its context is cancelled or what is
known about it is stale. It then leaves the chain, and every limiter that it has passed takes its
token back, the innermost one first. Otherwise it passes every limiter that has a token for it and
waits at the first one that has none.

Its context and its stale signal stay as they are during a turn. A job is therefore refused at the
place that it had come to before the turn, or not at all.
-/

namespace Admission

namespace Sign

/-- A job has won a token at a place. -/
def acquired (uuid : String) (place : Nat) : Sign :=
  .told place { kind := .tokenAcquired, job := some uuid, wait := some ⟨0⟩ }

/-- A job is refused at a place, with an error. -/
def refused (uuid : String) (error : HandlerError) (place : Nat) : Sign :=
  match error with
  | .canceled cause =>
      .told place { kind := .waitCanceled, job := some uuid, reason := some cause }
  | _ => .told place { kind := .jobStale, job := some uuid }

/-- The limiter at a place takes back the token of a job that failed further on. -/
def returned (uuid : String) (error : HandlerError) (place : Nat) : List Sign :=
  [.gaveBack,
    .told place { kind := .tokenReturned, job := some uuid, reason := some error.message }]

/-- A job wins a token at each of several places, one after the other. -/
def entering (uuid : String) (place count : Nat) : List Sign :=
  (List.range' place count).map (acquired uuid)

/-- A job that failed leaves several places, the innermost one first. -/
def leaving (uuid : String) (error : HandlerError) (place count : Nat) : List Sign :=
  (List.range' place count).reverse.flatMap (returned uuid error)

theorem entering_succ (uuid : String) (place count : Nat) :
    entering uuid place (count + 1) =
      acquired uuid place :: entering uuid (place + 1) count := rfl

theorem entering_append (uuid : String) (place count more : Nat) :
    entering uuid place count ++ entering uuid (place + count) more =
      entering uuid place (count + more) := by
  rw [entering, entering, ← List.map_append, List.range'_append_1]
  rfl

theorem leaving_succ (uuid : String) (error : HandlerError) (place count : Nat) :
    leaving uuid error place (count + 1) =
      leaving uuid error (place + 1) count ++ returned uuid error place := by
  simp [leaving, List.range'_succ]

end Sign

/-- Why a job is refused at a turn, if it is. -/
def Visit.refusal (visit : Visit) : Option HandlerError :=
  match visit.cause with
  | some cause => some (.canceled cause)
  | none => if visit.isStale then some .staleJob else none

theorem Visit.refusal_onward (visit : Visit) : visit.onward.refusal = visit.refusal := rfl

namespace Limiter

theorem takeBack_signs (limiter : Limiter) (place : Nat) (uuid : String) (error : HandlerError) :
    (limiter.takeBack place uuid error).2.flatMap Notice.signs =
      Sign.returned uuid error place := by
  simp only [takeBack, List.flatMap_append, Notice.signs_wokenOf, List.nil_append]
  rfl

theorem admitted_signs (limiter : Limiter) (place : Nat) (visit : Visit) :
    (limiter.admitted place visit).flatMap Notice.signs = [Sign.acquired visit.uuid place] := rfl

/-- A job that is not refused claims a token, if there is one for it. -/
theorem attend_of_free {visit : Visit} (free : visit.refusal = none) (limiter : Limiter) :
    limiter.attend visit =
      ((limiter.pool.claim visit.task).1,
        { limiter with pool := (limiter.pool.claim visit.task).2 }) := by
  rcases visit with ⟨task, uuid, _ | cause, isStale, waited⟩
  · cases isStale with
    | false => rfl
    | true => cases free
  · cases free

end Limiter

namespace Chain

/-! ### Jobs that are refused -/

section Refused

variable {visit : Visit} {error : HandlerError}

/-- A job that is refused at the first limiter gives up its place there. -/
theorem advance_of_refused (refused : visit.refusal = some error) (place : Nat)
    (limiter : Limiter) (rest : List Limiter) :
    ∃ told, advance place 0 visit (limiter :: rest) =
        ({ limiter with pool := (limiter.pool.withdraw visit.task).1 } :: rest, .stopped error,
          Notice.wokenOf (limiter.pool.withdraw visit.task).2 ++ told) ∧
      told.flatMap Notice.signs = [Sign.refused visit.uuid error place] := by
  rcases visit with ⟨task, uuid, _ | cause, isStale, waited⟩
  · cases isStale with
    | false => cases refused
    | true =>
        cases refused
        exact ⟨_, rfl, rfl⟩
  · cases refused
    exact ⟨_, rfl, rfl⟩

/-- A job that is refused leaves the chain. The limiters that it has passed take their tokens back,
and the one that it had come to loses a waiter. -/
structure Leaves (task : Nat) (uuid : String) (error : HandlerError) (place passed : Nat)
    (limiters : List Limiter) (result : List Limiter × Passage × List Notice) : Prop where
  passage : result.2.1 = .stopped error
  signs : result.2.2.flatMap Notice.signs =
    Sign.refused uuid error (place + passed) :: Sign.leaving uuid error place passed
  pools : ∀ offset limiter, limiters[offset]? = some limiter →
    ∃ after, result.1[offset]? = some after ∧ after.pool =
      if offset < passed then limiter.pool.tryRelease.2.1
      else if offset = passed then (limiter.pool.withdraw task).1
      else limiter.pool
  wakes : ∀ limiter, limiters[passed]? = some limiter →
    Notice.wokenOf (limiter.pool.withdraw task).2 <+: result.2.2

theorem advance_leaves (refused : visit.refusal = some error) (place : Nat) {passed : Nat}
    {limiters : List Limiter} (inside : passed < limiters.length) :
    Leaves visit.task visit.uuid error place passed limiters
      (advance place passed visit limiters) := by
  induction limiters generalizing place passed with
  | nil => cases inside
  | cons limiter rest ih =>
      cases passed with
      | zero =>
          rcases advance_of_refused refused place limiter rest with ⟨told, equal, signs⟩
          rw [equal]
          refine ⟨rfl, ?_, ?_, ?_⟩
          · rw [List.flatMap_append, Notice.signs_wokenOf, signs]
            rfl
          · intro offset other found
            cases offset with
            | zero =>
                cases found
                exact ⟨_, rfl, rfl⟩
            | succ offset => exact ⟨other, found, rfl⟩
          · intro other found
            cases found
            exact List.prefix_append _ _
      | succ passed =>
          have inner := ih (place + 1) (Nat.lt_of_succ_lt_succ inside)
          rw [advance_succ, inner.passage, Limiter.afterwards_stopped]
          refine ⟨rfl, ?_, ?_, ?_⟩
          · rw [List.flatMap_append, inner.signs, Limiter.takeBack_signs, Sign.leaving_succ]
            simp [Nat.add_assoc, Nat.add_comm 1]
          · intro offset other found
            cases offset with
            | zero =>
                cases found
                exact ⟨_, rfl, rfl⟩
            | succ offset =>
                rcases inner.pools offset other found with ⟨after, foundAfter, pool⟩
                exact ⟨after, foundAfter, by simpa using pool⟩
          · intro other found
            exact (inner.wakes other found).trans (List.prefix_append _ _)

end Refused

/-! ### Jobs that are not refused -/

/-- A job that is not refused passes every limiter that has a token for it, and waits at the first
one that has none. -/
structure Passes (task : Nat) (uuid : String) (place passed reached : Nat)
    (limiters : List Limiter) (result : List Limiter × Passage × List Notice) : Prop where
  further : passed ≤ reached
  within : reached ≤ limiters.length
  passage : result.2.1 =
    if reached < limiters.length then .waiting (place + reached) else .through
  signs : result.2.2.flatMap Notice.signs =
    Sign.entering uuid (place + passed) (reached - passed)
  granted : ∀ offset limiter, limiters[offset]? = some limiter → passed ≤ offset →
    offset < reached → (limiter.pool.claim task).1 = .acquired
  refused : ∀ limiter, limiters[reached]? = some limiter →
    (limiter.pool.claim task).1 = .pending
  pools : ∀ offset limiter, limiters[offset]? = some limiter →
    ∃ after, result.1[offset]? = some after ∧ after.pool =
      if passed ≤ offset ∧ offset ≤ reached then (limiter.pool.claim task).2 else limiter.pool

section Passes

variable {task : Nat} {uuid : String} {place reached : Nat} {limiter : Limiter}
  {rest used : List Limiter} {passage : Passage} {notices : List Notice}

theorem Passes.unstopped {passed : Nat} {limiters : List Limiter}
    {result : List Limiter × Passage × List Notice}
    (passes : Passes task uuid place passed reached limiters result) (error : HandlerError) :
    result.2.1 ≠ .stopped error := by
  rw [passes.passage]
  split <;> nofun

/-- A limiter that the job has passed before stays as it is. -/
theorem Passes.behind {passed : Nat} (limiter : Limiter)
    (passes : Passes task uuid (place + 1) passed reached rest (used, passage, notices)) :
    Passes task uuid place (passed + 1) (reached + 1) (limiter :: rest)
      (limiter :: used, passage, notices) where
  further := Nat.succ_le_succ passes.further
  within := Nat.succ_le_succ passes.within
  passage := by
    rw [passes.passage]
    simp [Nat.add_assoc, Nat.add_comm 1]
  signs := by
    rw [passes.signs]
    simp [Nat.add_assoc, Nat.add_comm 1]
  granted := by
    intro offset other found later before
    cases offset with
    | zero => omega
    | succ offset => exact passes.granted offset other found (by omega) (by omega)
  refused := passes.refused
  pools := by
    intro offset other found
    cases offset with
    | zero =>
        cases found
        exact ⟨limiter, rfl, by simp⟩
    | succ offset =>
        rcases passes.pools offset other found with ⟨last, foundLast, pool⟩
        exact ⟨last, foundLast, by simpa using pool⟩

/-- A job that wins a token of the first limiter goes on from the next one. -/
theorem Passes.through (after : Limiter)
    (passes : Passes task uuid (place + 1) 0 reached rest (used, passage, notices))
    (granted : (limiter.pool.claim task).1 = .acquired)
    (claimed : after.pool = (limiter.pool.claim task).2) {told : List Notice}
    (signs : told.flatMap Notice.signs = [Sign.acquired uuid place]) :
    Passes task uuid place 0 (reached + 1) (limiter :: rest)
      (after :: used, passage, told ++ notices) where
  further := Nat.zero_le _
  within := Nat.succ_le_succ passes.within
  passage := by
    rw [passes.passage]
    simp [Nat.add_assoc, Nat.add_comm 1]
  signs := by
    rw [List.flatMap_append, signs, passes.signs, Nat.sub_zero, Nat.sub_zero, Sign.entering_succ]
    rfl
  granted := by
    intro offset other found later before
    cases offset with
    | zero =>
        cases found
        exact granted
    | succ offset => exact passes.granted offset other found (by omega) (by omega)
  refused := passes.refused
  pools := by
    intro offset other found
    cases offset with
    | zero =>
        cases found
        exact ⟨after, rfl, by simpa using claimed⟩
    | succ offset =>
        rcases passes.pools offset other found with ⟨last, foundLast, pool⟩
        exact ⟨last, foundLast, by simpa using pool⟩

end Passes

theorem advance_passes {visit : Visit} (free : visit.refusal = none) (place : Nat) {passed : Nat}
    {limiters : List Limiter} (inside : passed ≤ limiters.length) :
    ∃ reached, Passes visit.task visit.uuid place passed reached limiters
      (advance place passed visit limiters) := by
  induction limiters generalizing place passed visit with
  | nil =>
      cases passed with
      | zero => exact ⟨0, Nat.le_refl _, Nat.le_refl _, rfl, rfl, nofun, nofun, nofun⟩
      | succ passed => cases inside
  | cons limiter rest ih =>
      cases passed with
      | succ passed =>
          rcases ih free (place + 1) (Nat.le_of_succ_le_succ inside) with
            ⟨reached, passes⟩
          refine ⟨reached + 1, ?_⟩
          rw [advance_succ]
          cases passage : (advance (place + 1) passed visit rest).2.1 with
          | stopped error => exact absurd passage (passes.unstopped error)
          | _ =>
              have behind := passes.behind limiter
              rw [passage] at behind
              exact behind
      | zero =>
          have attended := Limiter.attend_of_free free limiter
          by_cases granted : (limiter.pool.claim visit.task).1 = .acquired
          · have freeStill : visit.onward.refusal = none := visit.refusal_onward.trans free
            rcases ih freeStill (place + 1) (Nat.zero_le _) with ⟨reached, passes⟩
            refine ⟨reached + 1, ?_⟩
            rw [advance_acquired place visit limiter rest (by rw [attended, granted]), attended]
            let after : Limiter := { limiter with pool := (limiter.pool.claim visit.task).2 }
            have on := passes.through after granted rfl (after.admitted_signs place visit)
            cases passage : (advance (place + 1) 0 visit.onward rest).2.1 with
            | stopped error => exact absurd passage (passes.unstopped error)
            | _ =>
                rw [passage] at on
                exact on
          · have pending := (limiter.pool.claim_answer visit.task).resolve_right granted
            have stays : advance place 0 visit (limiter :: rest) =
                ({ limiter with pool := (limiter.pool.claim visit.task).2 } :: rest,
                  .waiting place, []) := by
              simp only [Limiter.attend, Prod.mk.injEq, Limiter.mk.injEq, and_true] at attended
              simp only [advance, attended, pending]
            rw [stays]
            refine ⟨0, Nat.le_refl _, Nat.zero_le _, rfl, rfl, ?_, ?_, ?_⟩
            · intro offset other _ _ before
              cases before
            · intro other found
              cases found
              exact pending
            · intro offset other found
              cases offset with
              | zero =>
                  cases found
                  exact ⟨_, rfl, by simp⟩
              | succ offset => exact ⟨other, found, by simp⟩

/-! ### Jobs that come back from the last handler -/

/-- The signs of a job that leaves the chain with a result. -/
def closing (uuid : String) (place count : Nat) : Except HandlerError Unit → List Sign
  | .ok _ => []
  | .error error => Sign.leaving uuid error place count

theorem conclude_signs (place : Nat) (uuid : String) (result : Except HandlerError Unit)
    (limiters : List Limiter) :
    (conclude place uuid result limiters).2.flatMap Notice.signs =
      closing uuid place limiters.length result := by
  induction limiters generalizing place with
  | nil => cases result <;> rfl
  | cons limiter rest ih =>
      cases result with
      | ok done => exact ih (place + 1)
      | error error =>
          simp only [conclude, List.flatMap_append, ih, Limiter.takeBack_signs, closing,
            List.length_cons, Sign.leaving_succ]

end Chain

end Admission
