import Admission.Proofs.Balance
import Admission.Proofs.PoolLedger

/-!
# What becomes of a token that is given back

When a later handler has failed, a limiter tries to give back the token of the job, writes what the
pool answered into a record, and publishes the return, whatever the answer was. The record comes
right before the event. The events of all returns and these records therefore stand in the same
order, and pairing them says of each event whether its token was accepted.

A turn of a job is followed along the chain. At every place the tokens in use grow by those that the
turn claims and shrink by those that the pool accepts, and a token that is refused leaves none in
use. What the job held before does not matter: somebody else may have given its token back.
-/

namespace Admission

/-- The event of a return, with its place, if a sign is one. -/
def Sign.return? : Sign → Option (Nat × Event)
  | told place event => if event.kind = .tokenReturned then some (place, event) else none
  | _ => none

/-- The events of returns among signs. -/
def Sign.returns (told : List Sign) : List (Nat × Event) :=
  told.filterMap return?

namespace LogRecord

/-- Whether the pool accepted the token that was given back. -/
def accepted (record : LogRecord) : Bool :=
  record.fields.contains ("returned", .truth true)

/-- A record of an attempt belongs to the event of a return: both are of the same job, and the
handling of the job failed for the same reason. -/
def Explains (entry : Nat × Event) (record : LogRecord) : Prop :=
  record.span = entry.2.job ∧
    ∃ reason, entry.2.reason = some reason ∧ ("error", FieldValue.text reason) ∈ record.fields

end LogRecord

/-- The returns that are told, each with what the pool answered. -/
def repayments (told : List Sign) (records : List LogRecord) : List (Nat × Bool) :=
  List.zipWith (fun entry record => (entry.1, record.accepted)) (Sign.returns told) records

/-- Every return that is told has its record. -/
def Explained (told : List Sign) (records : List LogRecord) : Prop :=
  List.Forall₂ LogRecord.Explains (Sign.returns told) records

section Pairs

variable {told more : List Sign} {records others : List LogRecord} {place : Nat}

theorem Sign.returns_append (told more : List Sign) :
    returns (told ++ more) = returns told ++ returns more :=
  List.filterMap_append

theorem Sign.returns_eq_nil
    (untold : ∀ spot, told.countP (tells .tokenReturned spot) = 0) : returns told = [] := by
  apply List.filterMap_eq_nil_iff.mpr
  intro sign member
  cases sign with
  | told spot event =>
      have other := List.countP_eq_zero.mp (untold spot) _ member
      have apart : event.kind ≠ .tokenReturned := by simpa [tells] using other
      exact if_neg apart
  | _ => rfl

theorem repayments_append (explained : Explained told records) :
    repayments (told ++ more) (records ++ others) =
      repayments told records ++ repayments more others := by
  rw [repayments, Sign.returns_append]
  exact List.zipWith_append explained.length_eq

theorem Explained.append (first : Explained told records) (second : Explained more others) :
    Explained (told ++ more) (records ++ others) := by
  rw [Explained, Sign.returns_append]
  exact List.rel_append first second

/-- As many returns are told at a place as there were attempts. -/
theorem countP_returns (explained : Explained told records) (place : Nat) :
    told.countP (Sign.tells .tokenReturned place) =
      (repayments told records).count (place, true) +
        (repayments told records).count (place, false) := by
  have listed : told.countP (Sign.tells .tokenReturned place) =
      (Sign.returns told).countP (·.1 == place) := by
    rw [Sign.returns, List.countP_filterMap]
    apply List.countP_congr
    intro sign _
    cases sign with
    | told spot event =>
        by_cases returned : event.kind = .tokenReturned
        · simp [Sign.tells, Sign.return?, returned]
        · simp [Sign.tells, Sign.return?, returned]
    | _ => simp [Sign.tells, Sign.return?]
  rw [listed, repayments]
  unfold Explained at explained
  generalize Sign.returns told = entries at explained ⊢
  induction explained with
  | nil => rfl
  | @cons entry record entries others _ _ ih =>
      rw [List.countP_cons, List.zipWith_cons_cons, List.count_cons, List.count_cons, ih]
      by_cases here : entry.1 = place
      · cases record.accepted <;> simp [here] <;> omega
      · simp [here]

end Pairs

/-! ### What notices tell -/

namespace Notice

/-- The returns that notices tell, each with what the pool answered. -/
def repayments (notices : List Notice) : List (Nat × Bool) :=
  Admission.repayments (notices.flatMap signs) (allTakenBack notices)

/-- Every return that notices tell has its record among them. -/
def AreExplained (notices : List Notice) : Prop :=
  Explained (notices.flatMap signs) (allTakenBack notices)

/-- How many tokens notices tell were claimed at a place. -/
def claims (place : Nat) (notices : List Notice) : Nat :=
  (notices.flatMap signs).countP (Sign.tells .tokenAcquired place)

/-- Notices tell of no return, and record no attempt. -/
structure GiveNothing (notices : List Notice) : Prop where
  unreturned : Sign.returns (notices.flatMap signs) = []
  untaken : allTakenBack notices = []

section Notices

variable {notices more : List Notice}

theorem claims_append (place : Nat) (notices more : List Notice) :
    claims place (notices ++ more) = claims place notices + claims place more := by
  rw [claims, List.flatMap_append, List.countP_append]
  rfl

theorem AreExplained.append (first : AreExplained notices) (second : AreExplained more) :
    AreExplained (notices ++ more) := by
  rw [AreExplained, List.flatMap_append, allTakenBack_append]
  exact Explained.append first second

theorem AreExplained.repayments_append (first : AreExplained notices) (more : List Notice) :
    repayments (notices ++ more) = repayments notices ++ repayments more := by
  rw [repayments, List.flatMap_append, allTakenBack_append]
  exact Admission.repayments_append first

theorem repayments_of_untaken (untaken : allTakenBack notices = []) : repayments notices = [] := by
  rw [repayments, Admission.repayments, untaken, List.zipWith_nil_right]

theorem GiveNothing.areExplained (nothing : GiveNothing notices) : AreExplained notices := by
  rw [AreExplained, Explained, nothing.unreturned, nothing.untaken]
  exact List.Forall₂.nil

end Notices

end Notice

/-- The record of an attempt says of which job and for what reason it was, and what came of it. -/
theorem Limiter.takeBack_record (limiter : Limiter) (place : Nat) (uuid : String)
    (error : HandlerError) :
    ∃ record, Notice.allTakenBack (limiter.takeBack place uuid error).2 = [record] ∧
      record.Explains
        (place, { kind := .tokenReturned, job := some uuid, reason := some error.message }) ∧
      record.accepted = limiter.pool.tryRelease.1 := by
  let fields : List (String × FieldValue) :=
    [("handler", .text limiter.next), ("error", .text error.message),
      ("returned", .truth limiter.pool.tryRelease.1),
      ("available_tokens", .number limiter.pool.tryRelease.2.1.available)]
  refine ⟨⟨.limiter, .debug, "next handler failed", fields, some uuid⟩, ?_, ?_, ?_⟩
  · simp only [takeBack, Notice.allTakenBack_append, Notice.allTakenBack_wokenOf, List.nil_append]
    rfl
  · exact ⟨rfl, error.message, rfl, by simp [fields]⟩
  · cases answer : limiter.pool.tryRelease.1 <;> simp [LogRecord.accepted, fields, answer]

/-- A limiter that gives a token back tells of one return, whatever the pool answers. -/
theorem Limiter.takeBack_repayments (limiter : Limiter) (place : Nat) (uuid : String)
    (error : HandlerError) :
    Notice.AreExplained (limiter.takeBack place uuid error).2 ∧
      Notice.repayments (limiter.takeBack place uuid error).2 =
        [(place, limiter.pool.tryRelease.1)] ∧
      ∀ spot, Notice.claims spot (limiter.takeBack place uuid error).2 = 0 := by
  have signs := limiter.takeBack_signs place uuid error
  rcases limiter.takeBack_record place uuid error with ⟨record, taken, explains, answered⟩
  refine ⟨?_, ?_, ?_⟩
  · rw [Notice.AreExplained, signs, taken]
    exact List.Forall₂.cons explains List.Forall₂.nil
  · rw [Notice.repayments, signs, taken, ← answered]
    rfl
  · intro spot
    rw [Notice.claims, signs]
    simp [Sign.returned, Sign.tells]

/-! ### Along the chain -/

namespace Chain

/-- A job that wins no token tells neither a claim nor a return. -/
theorem advance_refused_notices (place : Nat) (visit : Visit) (limiter : Limiter)
    (rest : List Limiter) (refused : (limiter.attend visit).1 ≠ .acquired) :
    Notice.GiveNothing (advance place 0 visit (limiter :: rest)).2.2 ∧
      ∀ spot, Notice.claims spot (advance place 0 visit (limiter :: rest)).2.2 = 0 := by
  have untaken := (advance_refused place visit limiter rest refused).2.2
  have silent : Sign.returns ((advance place 0 visit (limiter :: rest)).2.2.flatMap Notice.signs) =
      [] ∧ ∀ spot, ((advance place 0 visit (limiter :: rest)).2.2.flatMap Notice.signs).countP
        (Sign.tells .tokenAcquired spot) = 0 := by
    simp only [Limiter.attend] at refused
    simp only [advance]
    split
    · exact ⟨rfl, fun _ => rfl⟩
    · simp [Notice.signs, Sign.returns, Sign.return?, Sign.tells, Event.bare]
    · simp [Notice.signs, Sign.returns, Sign.return?, Sign.tells, Event.bare]
    · rename_i granted
      exact absurd granted refused
  exact ⟨⟨silent.1, untaken⟩, silent.2⟩

/-- What a turn of a job does to the limiters from a place on, and what it says of it. -/
structure Repayment (place : Nat) (before after : List Limiter) (notices : List Notice) : Prop where
  explained : Notice.AreExplained notices
  /-- Nothing is said of the places before. -/
  outside : ∀ spot, spot < place →
    Notice.claims spot notices = 0 ∧ ∀ answer, (spot, answer) ∉ Notice.repayments notices
  /-- Tokens are claimed and given back as told, as far as the pool accepts them. -/
  even : ∀ offset limiter later, before[offset]? = some limiter → after[offset]? = some later →
    later.pool.inUse + (Notice.repayments notices).count (place + offset, true) =
      limiter.pool.inUse + Notice.claims (place + offset) notices
  /-- A token that is not accepted leaves none in use. -/
  emptied : ∀ offset later, after[offset]? = some later →
    (place + offset, false) ∈ Notice.repayments notices → later.pool.inUse = 0

namespace Repayment

variable {place : Nat} {before after rest restAfter : List Limiter} {notices : List Notice}

/-- Nothing happens to the limiters, and nothing is said of tokens. -/
theorem neutral (place : Nat) (limiters : List Limiter) (nothing : Notice.GiveNothing notices)
    (unclaimed : ∀ spot, Notice.claims spot notices = 0) :
    Repayment place limiters limiters notices := by
  have none := Notice.repayments_of_untaken nothing.untaken
  refine ⟨nothing.areExplained, ?_, ?_, ?_⟩
  · intro spot _
    rw [none]
    exact ⟨unclaimed spot, fun answer => List.not_mem_nil⟩
  · intro offset limiter later found foundLater
    rw [found, Option.some.injEq] at foundLater
    rw [foundLater, none, unclaimed, List.count_nil]
  · intro offset later _ member
    rw [none] at member
    cases member

theorem refl (place : Nat) (limiters : List Limiter) : Repayment place limiters limiters [] :=
  neutral place limiters ⟨rfl, rfl⟩ fun _ => rfl

/-- One more limiter in front, of which it is told at most that a token was claimed. -/
theorem cons (tail : Repayment (place + 1) rest restAfter notices) (limiter first : Limiter)
    {told : List Notice} (nothing : Notice.GiveNothing told)
    (elsewhere : ∀ spot, spot ≠ place → Notice.claims spot told = 0)
    (claimed : first.pool.inUse = limiter.pool.inUse + Notice.claims place told) :
    Repayment place (limiter :: rest) (first :: restAfter) (told ++ notices) ∧
      ∀ answer, (place, answer) ∉ Notice.repayments (told ++ notices) := by
  have same : Notice.repayments (told ++ notices) = Notice.repayments notices := by
    rw [nothing.areExplained.repayments_append, Notice.repayments_of_untaken nothing.untaken,
      List.nil_append]
  have shifted (offset : Nat) : place + (offset + 1) = place + 1 + offset := by omega
  have untold := tail.outside place (Nat.lt_succ_self place)
  refine ⟨⟨nothing.areExplained.append tail.explained, ?_, ?_, ?_⟩, ?_⟩
  · intro spot earlier
    have before := tail.outside spot (Nat.lt_succ_of_lt earlier)
    rw [same, Notice.claims_append, elsewhere spot (Nat.ne_of_lt earlier), before.1]
    exact ⟨rfl, before.2⟩
  · intro offset found later foundBefore foundAfter
    rw [same, Notice.claims_append]
    cases offset with
    | zero =>
        cases foundBefore
        cases foundAfter
        rw [Nat.add_zero, List.count_eq_zero_of_not_mem (untold.2 true), untold.1, claimed]
        rfl
    | succ offset =>
        have even := tail.even offset found later foundBefore foundAfter
        rw [elsewhere (place + (offset + 1)) (by omega), shifted, Nat.zero_add]
        exact even
  · intro offset later foundAfter member
    rw [same] at member
    cases offset with
    | zero => exact absurd member (untold.2 false)
    | succ offset =>
        rw [shifted] at member
        exact tail.emptied offset later foundAfter member
  · rw [same]
    exact untold.2

/-- One more limiter in front, which the job has passed before. -/
theorem keep (tail : Repayment (place + 1) rest restAfter notices) (limiter : Limiter) :
    Repayment place (limiter :: rest) (limiter :: restAfter) notices ∧
      ∀ answer, (place, answer) ∉ Notice.repayments notices := by
  have nothing : Notice.GiveNothing [] := ⟨rfl, rfl⟩
  exact tail.cons limiter limiter nothing (fun _ _ => rfl) rfl

/-- The first limiter of several gives back a token, of which nothing was said yet. -/
theorem takeBack {limiter : Limiter} (settled : Repayment place before (limiter :: rest) notices)
    (untried : ∀ answer, (place, answer) ∉ Notice.repayments notices) (uuid : String)
    (error : HandlerError) :
    Repayment place before ((limiter.takeBack place uuid error).1 :: rest)
      (notices ++ (limiter.takeBack place uuid error).2) := by
  rcases limiter.takeBack_repayments place uuid error with ⟨explained, paid, unclaimed⟩
  have pairs : Notice.repayments (notices ++ (limiter.takeBack place uuid error).2) =
      Notice.repayments notices ++ [(place, limiter.pool.tryRelease.1)] := by
    rw [settled.explained.repayments_append, paid]
  have claims (spot : Nat) :
      Notice.claims spot (notices ++ (limiter.takeBack place uuid error).2) =
        Notice.claims spot notices := by
    rw [Notice.claims_append, unclaimed, Nat.add_zero]
  refine ⟨settled.explained.append explained, ?_, ?_, ?_⟩
  · intro spot earlier
    have before := settled.outside spot earlier
    rw [claims, pairs]
    refine ⟨before.1, ?_⟩
    intro answer member
    rcases List.mem_append.mp member with old | last
    · exact before.2 answer old
    · rw [List.mem_singleton, Prod.mk.injEq] at last
      exact Nat.ne_of_lt earlier last.1
  · intro offset found later foundBefore foundAfter
    rw [claims, pairs, List.count_append]
    cases offset with
    | zero =>
        cases foundAfter
        have even := settled.even 0 found limiter foundBefore rfl
        have balance := System.tryRelease_balance limiter.pool
        rw [Nat.add_zero, List.count_eq_zero_of_not_mem (untried true)] at even ⊢
        rw [Limiter.takeBack_pool]
        cases answer : limiter.pool.tryRelease.1 <;> simp [answer] at balance ⊢ <;> omega
    | succ offset =>
        have even := settled.even (offset + 1) found later foundBefore foundAfter
        have apart : [(place, limiter.pool.tryRelease.1)].count (place + (offset + 1), true) = 0 :=
          List.count_eq_zero_of_not_mem (by simp)
        rw [apart, Nat.add_zero]
        exact even
  · intro offset later foundAfter member
    rw [pairs, List.mem_append, List.mem_singleton] at member
    rcases member with old | last
    · cases offset with
      | zero => exact absurd old (untried false)
      | succ offset => exact settled.emptied (offset + 1) later foundAfter old
    · rcases Prod.mk.inj last with ⟨here, refused⟩
      have first : offset = 0 := by omega
      subst first
      cases foundAfter
      have empty : ¬ 0 < limiter.pool.inUse := by
        rw [Pool.tryRelease_answer] at refused
        exact of_decide_eq_false refused.symm
      rw [Limiter.takeBack_pool, (Pool.tryRelease_frame limiter.pool).2]
      omega

theorem afterwards {limiter : Limiter}
    (settled : Repayment place before (limiter :: rest) notices)
    (untried : ∀ answer, (place, answer) ∉ Notice.repayments notices) (uuid : String)
    (passage : Passage) :
    Repayment place before (limiter.afterwards place uuid rest passage notices).1
      (limiter.afterwards place uuid rest passage notices).2.2 := by
  cases passage with
  | waiting reached => exact settled
  | through => exact settled
  | stopped error => exact settled.takeBack untried uuid error

/-- One turn after another, the first of which gave nothing back. -/
theorem trans {middle : List Limiter} {more : List Notice}
    (first : Repayment place before middle notices) (untaken : Notice.allTakenBack notices = [])
    (length : before.length = middle.length) (second : Repayment place middle after more) :
    Repayment place before after (notices ++ more) := by
  have none := Notice.repayments_of_untaken untaken
  have same : Notice.repayments (notices ++ more) = Notice.repayments more := by
    rw [first.explained.repayments_append, none, List.nil_append]
  refine ⟨first.explained.append second.explained, ?_, ?_, ?_⟩
  · intro spot earlier
    rw [same, Notice.claims_append, (first.outside spot earlier).1, (second.outside spot earlier).1]
    exact ⟨rfl, (second.outside spot earlier).2⟩
  · intro offset limiter later foundBefore foundAfter
    have inside : offset < middle.length := by
      rw [← length]
      exact (List.getElem?_eq_some_iff.mp foundBefore).1
    have found : middle[offset]? = some middle[offset] := List.getElem?_eq_getElem inside
    have even := first.even offset limiter _ foundBefore found
    have evenAfter := second.even offset _ later found foundAfter
    rw [none, List.count_nil] at even
    rw [same, Notice.claims_append]
    omega
  · intro offset later foundAfter
    rw [same]
    exact second.emptied offset later foundAfter

end Repayment

/-- A turn of a job. -/
theorem advance_repayment (place passed : Nat) (visit : Visit) (limiters : List Limiter) :
    Repayment place limiters (advance place passed visit limiters).1
      (advance place passed visit limiters).2.2 := by
  induction limiters generalizing place passed visit with
  | nil => cases passed <;> exact .refl place []
  | cons limiter rest ih =>
      cases passed with
      | succ passed =>
          have kept := (ih (place + 1) passed visit).keep limiter
          rw [advance_succ]
          exact kept.1.afterwards kept.2 visit.uuid _
      | zero =>
          by_cases granted : (limiter.attend visit).1 = .acquired
          · have signs := (limiter.attend visit).2.admitted_signs place visit
            have won := (ih (place + 1) 0 visit.onward).cons limiter (limiter.attend visit).2
              ⟨by rw [signs]; rfl, (limiter.attend visit).2.admitted_takenBack place visit⟩
              (by
                intro spot apart
                rw [Notice.claims, signs]
                simp [Sign.acquired, Sign.tells, Ne.symm apart])
              (by
                rw [Notice.claims, signs, Limiter.attend_claimed granted]
                simp [Sign.acquired, Sign.tells])
            rw [advance_acquired place visit limiter rest granted]
            exact won.1.afterwards won.2 visit.uuid _
          · rcases advance_refused_notices place visit limiter rest granted with
              ⟨nothing, unclaimed⟩
            have lost := (Repayment.refl (place + 1) rest).cons limiter (limiter.attend visit).2
              nothing (fun spot _ => unclaimed spot)
              (by rw [unclaimed, Limiter.attend_unclaimed granted, Nat.add_zero])
            rw [List.append_nil] at lost
            rw [(advance_refused place visit limiter rest granted).1]
            exact lost.1

/-- A job that goes through to the last handler gives nothing back on its way. -/
theorem advance_takenBack (place passed : Nat) (visit : Visit) (limiters : List Limiter)
    (through : (advance place passed visit limiters).2.1 = .through) :
    Notice.allTakenBack (advance place passed visit limiters).2.2 = [] := by
  induction limiters generalizing place passed visit with
  | nil => cases passed <;> rfl
  | cons limiter rest ih =>
      cases passed with
      | succ passed =>
          rw [advance_succ] at through ⊢
          rw [Limiter.afterwards_passage] at through
          rw [through]
          exact ih (place + 1) passed visit through
      | zero =>
          by_cases granted : (limiter.attend visit).1 = .acquired
          · rw [advance_acquired place visit limiter rest granted] at through ⊢
            rw [Limiter.afterwards_passage] at through
            rw [through, Limiter.afterwards_of_isBeyond _ _ _ _ _ (Passage.isBeyond_through place),
              Notice.allTakenBack_append, Limiter.admitted_takenBack, List.nil_append]
            exact ih (place + 1) 0 visit.onward through
          · exact (advance_refused place visit limiter rest granted).2.2

theorem conclude_repayment (place : Nat) (uuid : String) (result : Except HandlerError Unit)
    (limiters : List Limiter) :
    Repayment place limiters (conclude place uuid result limiters).1
      (conclude place uuid result limiters).2 := by
  cases result with
  | ok done =>
      rw [conclude_ok]
      exact .refl place limiters
  | error error =>
      induction limiters generalizing place with
      | nil => exact .refl place []
      | cons limiter rest ih =>
          have kept := (ih (place + 1)).keep limiter
          exact kept.1.takeBack kept.2 uuid error

end Chain

end Admission
