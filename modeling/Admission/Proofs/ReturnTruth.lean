import Admission.Proofs.Dealings
import Admission.Proofs.Repayments

/-!
# Whether a return that is told was one

The tokens of a pool are claimed and given back by jobs, by the reconciler, by waits and by direct
calls, in any order. Whoever gives a token back takes it from the pool's count of claimed tokens,
whosever it was. A job whose handler fails may then find no claimed token left. Its own attempt is
refused, and the return is told all the same.

What is told is nevertheless never more than what was given back. A refused attempt leaves no token
in use, so at that point everything that was claimed has been given back. The jobs told of as many
claims at least as of returns, and so the others must have given back a token for every attempt that
was refused. This holds after each move, and from there to the next one.
-/

namespace Admission

namespace System

/-- What becomes of the tokens of the pool at a place, given what is told, which attempts to give a
token back are recorded, and what others do. -/
structure Dealt (place : Nat) (told : List Sign) (records : List LogRecord) (deals : List Deal)
    (system next : System) : Prop where
  signs : next.signs = system.signs ++ told
  takenBack : next.takenBack = system.takenBack ++ records
  explained : Explained told records
  even : (next.pool place).inUse +
      ((repayments told records).count (place, true) + deals.count .giveBack) =
    (system.pool place).inUse +
      (told.countP (Sign.tells .tokenAcquired place) + deals.count .claim)
  emptied : (place, false) ∈ repayments told records → (next.pool place).inUse = 0

/-! ### Turns of jobs -/

/-- What a turn of a job tells and records, and what it does to the limiters. -/
structure Repays (notices : List Notice) (system next : System) : Prop where
  signs : next.signs = system.signs ++ notices.flatMap Notice.signs
  takenBack : next.takenBack = system.takenBack ++ Notice.allTakenBack notices
  limiters : Chain.Repayment 0 system.limiters next.limiters notices

section Jobs

variable {system next : System} {index place : Nat} {job : Job} {context : Context}

theorem Repays.refl (system : System) : Repays [] system system where
  signs := (List.append_nil _).symm
  takenBack := (List.append_nil _).symm
  limiters := .refl 0 system.limiters

theorem Repays.congr {notices : List Notice} {before after : System}
    (repays : Repays notices system next)
    (sameBefore : before.limiters = system.limiters ∧ before.signs = system.signs ∧
      before.takenBack = system.takenBack)
    (sameAfter : after.limiters = next.limiters ∧ after.signs = next.signs ∧
      after.takenBack = next.takenBack) : Repays notices before after where
  signs := by rw [sameAfter.2.1, sameBefore.2.1, repays.signs]
  takenBack := by rw [sameAfter.2.2, sameBefore.2.2, repays.takenBack]
  limiters := by
    rw [sameAfter.1, sameBefore.1]
    exact repays.limiters

theorem Repays.finish {notices : List Notice} (repays : Repays notices system next) (index : Nat)
    (outcome : Outcome) : Repays notices system (next.finish index outcome) :=
  repays.congr ⟨rfl, rfl, rfl⟩ (by simp)

theorem Repays.setTask {notices : List Notice} (repays : Repays notices system next) (index : Nat)
    (task : Task) : Repays notices system (next.setTask index task) :=
  repays.congr ⟨rfl, rfl, rfl⟩ (by simp)

/-- Notices about a change of the limiters. -/
theorem Repays.noteAll {notices : List Notice} {limiters : List Limiter}
    (repayment : Chain.Repayment 0 system.limiters limiters notices) :
    Repays notices system ({ system with limiters }.noteAll notices) where
  signs := noteAll_signs _ _
  takenBack := noteAll_takenBack _ _
  limiters := by rwa [(noteAll_frame _ _).1]

theorem Repays.forwarded (system : System) (arrival : Arrival) :
    Repays [.forwarded arrival] system (system.note (.forwarded arrival)) where
  signs := note_signs _ _
  takenBack := note_takenBack _ _
  limiters := by
    rw [(note_frame _ _).1]
    exact .neutral 0 system.limiters ⟨rfl, rfl⟩ fun _ => rfl

/-- One after the other, when the first gave nothing back. -/
theorem Repays.trans {middle : System} {notices more : List Notice}
    (first : Repays notices system middle) (untaken : Notice.allTakenBack notices = [])
    (length : system.limiters.length = middle.limiters.length)
    (second : Repays more middle next) : Repays (notices ++ more) system next where
  signs := by rw [second.signs, first.signs, List.flatMap_append, List.append_assoc]
  takenBack := by
    rw [second.takenBack, first.takenBack, Notice.allTakenBack_append, List.append_assoc]
  limiters := first.limiters.trans untaken length second.limiters

theorem concludeJob_repays (system : System) (index : Nat) (job : Job)
    (result : Except HandlerError Unit) :
    ∃ notices, Repays notices system (system.concludeJob index job result) :=
  ⟨_, (Repays.noteAll (Chain.conclude_repayment 0 job.uuid result system.limiters)).finish index _⟩

theorem handleInside_repays (system : System) (index : Nat) (job : Job) (context : Context)
    (holds : List Hold) :
    ∃ notices, Repays notices system (system.handleInside index job context holds) := by
  simp only [handleInside]
  split
  · split
    · exact ⟨_, (Repays.refl system).finish index _⟩
    · exact concludeJob_repays system index job _
    · rename_i starts _
      cases starts with
      | false => exact concludeJob_repays system index job _
      | true =>
          rcases concludeJob_repays (system.applyResource clusterFeed (.running job.uuid job.uuid))
            index job (.ok ()) with ⟨notices, repays⟩
          exact ⟨notices, repays.congr (by simp) ⟨rfl, rfl, rfl⟩⟩
  · exact ⟨_, (Repays.refl system).setTask index _⟩

/-- A job that goes through to the last handler. -/
theorem Repays.handleInside {middle : System} {notices : List Notice}
    (repays : Repays notices system middle) (untaken : Notice.allTakenBack notices = [])
    (length : system.limiters.length = middle.limiters.length) (arrival : Arrival) (index : Nat)
    (job : Job) (context : Context) (holds : List Hold) :
    ∃ more, Repays more system
      ((middle.note (.forwarded arrival)).handleInside index job context holds) := by
  rcases handleInside_repays (middle.note (.forwarded arrival)) index job context holds with
    ⟨later, inside⟩
  have forwarded := (Repays.forwarded middle arrival).trans rfl (by simp) inside
  exact ⟨_, repays.trans untaken length forwarded⟩

theorem admitJob_repays (system : System) (index : Nat) (job : Job) (context : Context)
    (passed since : Nat) :
    ∃ notices, Repays notices system (system.admitJob index job context passed since) := by
  have advanced := Repays.noteAll
    (Chain.advance_repayment 0 passed (system.visitBy index job context since) system.limiters)
  have length := (Chain.advance_reaches 0 passed (system.visitBy index job context since)
    system.limiters).length_eq
  simp only [admitJob]
  split
  · exact ⟨_, advanced.setTask index _⟩
  · exact ⟨_, advanced.finish index _⟩
  · rename_i through
    have untaken := Chain.advance_takenBack 0 passed _ system.limiters through
    exact advanced.handleInside untaken (by rwa [(noteAll_frame _ _).1]) _ index job context _

/-- The turn of a job. -/
theorem turn_repays {state : TaskState} {stage : Stage} (found : system.tasks[index]? = some state)
    (task : state.task = .admission job context stage) (unfinished : state.outcome = none)
    (unmarked : state.isAborted = false) :
    ∃ notices, Repays notices system (system.turn index) := by
  simp only [turn, found, unfinished, unmarked, task, Option.isSome_none, Bool.false_eq_true,
    if_false]
  cases stage with
  | arriving => exact admitJob_repays system index job context 0 system.now
  | waiting passed since => exact admitJob_repays system index job context passed since
  | inside holds => exact handleInside_repays system index job context holds

/-- What a job tells of its tokens is what happens to them, except that a token that is refused is
told like any other. -/
theorem Repays.dealt {notices : List Notice} (repays : Repays notices system next)
    (reaches : system.Reaches next) (inside : place < system.limiters.length) :
    Dealt place (notices.flatMap Notice.signs) (Notice.allTakenBack notices) [] system next := by
  rcases exists_limiter inside with ⟨limiter, found, pool⟩
  rcases reaches.getElem? found with ⟨later, foundLater, -⟩
  have even := repays.limiters.even place limiter later found foundLater
  rw [Nat.zero_add] at even
  refine ⟨repays.signs, repays.takenBack, repays.limiters.explained, ?_, ?_⟩
  · rw [pool, pool_of_getElem? foundLater]
    exact even
  · intro member
    rw [pool_of_getElem? foundLater]
    apply repays.limiters.emptied place later foundLater
    rwa [Nat.zero_add]

end Jobs

/-! ### Runs -/

/-- How many of the returns that are told at a place the pool accepted, or how many it refused. -/
def repaid (place : Nat) (accepted : Bool) (system : System) : Nat :=
  (repayments system.signs system.takenBack).count (place, accepted)

/-- What all others did with the tokens of the pool at a place in a run. -/
def deals (place : Nat) (start : System) (moves : List Move) : List Deal :=
  start.gather (dealsIn place) moves

/-- Who has claimed and given back the tokens of the pool at a place after a run. -/
structure Books (place : Nat) (start : System) (moves : List Move) : Prop where
  /-- Every return that is told belongs to one attempt to give a token back, of the same job and for
  the same reason, and every attempt is told. -/
  explained : Explained (start.run moves).signs (start.run moves).takenBack
  /-- The tokens in use are those claimed, by jobs and by others, less those given back. -/
  ledger : ((start.run moves).pool place).inUse +
      ((start.run moves).repaid place true + (start.deals place moves).count .giveBack) =
    (start.run moves).toldAt .tokenAcquired place + (start.deals place moves).count .claim
  /-- For every attempt that was refused, others gave a token back. Where no others do, every return
  that is told was one. -/
  refused : (start.run moves).repaid place false ≤ (start.deals place moves).count .giveBack

section Runs

variable {start system next : System} {moves : List Move} {index place : Nat} {state : TaskState}
  {told : List Sign} {move : Move}

/-- Nothing is told of claims and returns. -/
theorem Trades.dealt {deals : List Deal} (trades : Trades place deals system next)
    (signs : next.signs = system.signs ++ told)
    (unclaimed : told.countP (Sign.tells .tokenAcquired place) = 0)
    (unreturned : ∀ spot, told.countP (Sign.tells .tokenReturned spot) = 0) :
    Dealt place told [] deals system next := by
  have none : Sign.returns told = [] := Sign.returns_eq_nil unreturned
  refine ⟨signs, trades.takenBack.trans (List.append_nil _).symm, ?_, ?_, ?_⟩
  · rw [Explained, none]
    exact List.Forall₂.nil
  · rw [repayments, List.zipWith_nil_right, List.count_nil, unclaimed, Nat.zero_add, Nat.zero_add]
    exact trades.even
  · rw [repayments, List.zipWith_nil_right]
    intro member
    cases member

theorem perform_dealt_of_noJob (inside : place < system.limiters.length)
    (genuine : move.isGenuine = true)
    (noJob : ∀ index state, move = .turn index → system.tasks[index]? = some state →
      state.task.isAdmission = false) :
    ∃ told records, Dealt place told records (system.dealsIn place move) system
      (system.perform move) := by
  rcases perform_noted system move with ⟨news, extended⟩
  have signs : (system.perform move).signs = system.signs ++ news.flatMap Notice.signs := by
    rw [System.signs, extended.history, List.flatMap_append, System.signs]
  have untold {kind : EventKind} (admission : kind.isAdmission = true) (spot : Nat) :
      (news.flatMap Notice.signs).countP (Sign.tells kind spot) = 0 := by
    have counted := perform_told genuine noJob admission spot
    rw [signs, List.countP_append] at counted
    omega
  exact ⟨_, _, (perform_trades inside noJob).dealt signs (untold rfl place) (untold rfl)⟩

theorem turn_dealt_of_job (inside : place < system.limiters.length)
    (found : system.tasks[index]? = some state) (job : state.task.isAdmission = true) :
    ∃ told records, Dealt place told records (system.dealsIn place (.turn index)) system
      (system.perform (.turn index)) := by
  have silent {next : System} (trades : Trades place [] system next)
      (signs : next.signs = system.signs) : Dealt place [] [] [] system next :=
    trades.dealt (by rw [signs, List.append_nil]) rfl fun _ => rfl
  rw [dealsIn_of_job found job, perform]
  rcases turn_cases system index with same | ⟨other, present, unfinished⟩
  · rw [same]
    exact ⟨_, _, silent (.refl place system) rfl⟩
  · rw [found, Option.some.injEq] at present
    subst present
    by_cases marked : state.isAborted = true
    · rw [turn_of_isAborted found unfinished marked]
      exact ⟨_, _, silent (dropTask_trades system index state.task) (dropTask_signs _ _ _)⟩
    · cases task : state.task with
      | admission job context stage =>
          rcases turn_repays found task unfinished (by simpa using marked) with ⟨notices, repays⟩
          exact ⟨_, _, repays.dealt (turn_reaches system index) inside⟩
      | _ =>
          rw [task] at job
          cases job

theorem perform_dealt (inside : place < system.limiters.length) (genuine : move.isGenuine = true) :
    ∃ told records, Dealt place told records (system.dealsIn place move) system
      (system.perform move) := by
  by_cases turns : ∃ index state, move = .turn index ∧ system.tasks[index]? = some state ∧
      state.task.isAdmission = true
  · rcases turns with ⟨index, state, rfl, found, job⟩
    exact turn_dealt_of_job inside found job
  · apply perform_dealt_of_noJob inside genuine
    intro index state turn found
    by_contra job
    exact turns ⟨index, state, turn, found, by simpa using job⟩

theorem Dealt.repaid {records : List LogRecord} {deals : List Deal}
    (dealt : Dealt place told records deals system next)
    (explained : Explained system.signs system.takenBack) (accepted : Bool) :
    next.repaid place accepted =
      system.repaid place accepted + (repayments told records).count (place, accepted) := by
  rw [System.repaid, dealt.signs, dealt.takenBack, repayments_append explained, List.count_append,
    System.repaid]

theorem toldAt_tokenReturned (explained : Explained system.signs system.takenBack) (place : Nat) :
    system.toldAt .tokenReturned place =
      system.repaid place true + system.repaid place false := by
  rw [toldAt_eq]
  exact countP_returns explained place

theorem Books.concat {records : List LogRecord} (books : Books place start moves)
    (dealt : Dealt place told records ((start.run moves).dealsIn place move) (start.run moves)
      (start.run (moves ++ [move])))
    (balanced : (start.run (moves ++ [move])).Balanced place) :
    Books place start (moves ++ [move]) := by
  have explained : Explained (start.run (moves ++ [move])).signs
      (start.run (moves ++ [move])).takenBack := by
    rw [dealt.signs, dealt.takenBack]
    exact books.explained.append dealt.explained
  have deals : start.deals place (moves ++ [move]) =
      start.deals place moves ++ (start.run moves).dealsIn place move :=
    gather_concat _ start moves move
  have acquired : (start.run (moves ++ [move])).toldAt .tokenAcquired place =
      (start.run moves).toldAt .tokenAcquired place +
        told.countP (Sign.tells .tokenAcquired place) := by
    rw [toldAt_eq, toldAt_eq, dealt.signs, List.countP_append]
  have accepted := dealt.repaid books.explained true
  have refused := dealt.repaid books.explained false
  have ledger : ((start.run (moves ++ [move])).pool place).inUse +
      ((start.run (moves ++ [move])).repaid place true +
        (start.deals place (moves ++ [move])).count .giveBack) =
      (start.run (moves ++ [move])).toldAt .tokenAcquired place +
        (start.deals place (moves ++ [move])).count .claim := by
    have before := books.ledger
    have even := dealt.even
    rw [deals, List.count_append, List.count_append]
    omega
  refine ⟨explained, ledger, ?_⟩
  by_cases short : (place, false) ∈ repayments told records
  · -- no token is left in use, so that everything claimed was given back
    have emptied := dealt.emptied short
    have returned := toldAt_tokenReturned explained place
    rw [Balanced] at balanced
    omega
  · have before := books.refused
    rw [refused, List.count_eq_zero_of_not_mem short, deals, List.count_append]
    omega

theorem books_of_run (inside : place < start.limiters.length) (idle : start.tasks = #[])
    (silent : start.history = #[]) (unused : (start.pool place).inUse = 0)
    (genuine : ∀ move ∈ moves, move.isGenuine = true) : Books place start moves := by
  induction moves using List.reverseRecOn with
  | nil =>
      have none : start.signs = [] := by simp [System.signs, silent]
      have untaken : start.takenBack = [] := by simp [takenBack, silent]
      refine ⟨?_, ?_, ?_⟩
      · rw [run_nil, none, untaken]
        exact List.Forall₂.nil
      · simp [unused, repaid, none, untaken, toldAt_eq, repayments, deals, gather]
      · simp [repaid, none, untaken, repayments]
  | append_singleton moves move ih =>
      have earlier : ∀ other ∈ moves, other.isGenuine = true := fun other member =>
        genuine other (List.mem_append_left _ member)
      have length : place < (start.run moves).limiters.length := by
        rwa [(run_reaches start moves).length]
      rcases perform_dealt length (genuine move (by simp)) with ⟨told, records, dealt⟩
      have step : Dealt place told records ((start.run moves).dealsIn place move) (start.run moves)
          (start.run (moves ++ [move])) := by
        rw [run_append]
        exact dealt
      exact (ih earlier).concat step (balanced_of_run inside idle silent genuine)

end Runs

/-- What the returns that are told at a place say of the tokens of the pool there. -/
structure ReturnTruth (place : Nat) (start : System) (moves : List Move) : Prop
    extends Books place start moves where
  told : (start.run moves).toldAt .tokenReturned place =
    (start.run moves).repaid place true + (start.run moves).repaid place false
  /-- No more returns are told than tokens were given back, and no more tokens were given back than
  were claimed. -/
  bounded : (start.run moves).toldAt .tokenReturned place ≤
      (start.run moves).repaid place true + (start.deals place moves).count .giveBack ∧
    (start.run moves).repaid place true + (start.deals place moves).count .giveBack ≤
      (start.run moves).toldAt .tokenAcquired place + (start.deals place moves).count .claim
  /-- No token is in use after a move in which an attempt is refused. -/
  emptied : ∀ early move late, moves = early ++ move :: late →
    (start.run early).repaid place false < (start.run (early ++ [move])).repaid place false →
      ((start.run (early ++ [move])).pool place).inUse = 0

/-- However jobs, the reconciler, waits and direct calls take turns, no more returns are told than
tokens came back, though a return that is told may be one that the pool refused. -/
theorem returns_truthful (start : System) (moves : List Move) (place : Nat)
    (inside : place < start.limiters.length) (idle : start.tasks = #[])
    (silent : start.history = #[]) (unused : (start.pool place).inUse = 0)
    (genuine : ∀ move ∈ moves, move.isGenuine = true) : ReturnTruth place start moves := by
  have books : Books place start moves := books_of_run inside idle silent unused genuine
  have told := toldAt_tokenReturned books.explained place
  have ledger := books.ledger
  have refused := books.refused
  refine ⟨books, told, ⟨?_, ?_⟩, ?_⟩
  · omega
  · omega
  · intro early move late split more
    have earlier : ∀ other ∈ early, other.isGenuine = true := by
      intro other member
      apply genuine
      rw [split]
      exact List.mem_append_left _ member
    have before : Books place start early := books_of_run inside idle silent unused earlier
    have length : place < (start.run early).limiters.length := by
      rwa [(run_reaches start early).length]
    have allowed : move.isGenuine = true := genuine move (by simp [split])
    rcases perform_dealt length allowed with ⟨told, records, dealt⟩
    have grows := dealt.repaid before.explained false
    rw [run_append] at more ⊢
    apply dealt.emptied
    apply List.count_pos_iff.mp
    rw [run_cons, run_nil] at more
    omega

/-- A job is held up in the last handler while somebody gives its token back, and fails then. -/
def repaidByOthers : List Move :=
  [.elsewhere (.instruct [("failing", { holds := [.gate "door"], fails := some (.fail "refused") })]),
    .elsewhere .createContext, .elsewhere (.createSignal false),
    .start (.admission { uuid := "failing", signal := 0 } ⟨⟨0, 0⟩, []⟩ .arriving), .turn 0,
    .tryRelease 0, .elsewhere (.openGate "door"), .turn 0]

theorem returns_truthful_repaidByOthers :
    ReturnTruth 0 (single (.full 1)) repaidByOthers ∧
      ((single (.full 1)).run repaidByOthers).toldAt .tokenReturned 0 = 1 ∧
      ((single (.full 1)).run repaidByOthers).repaid 0 false = 1 ∧
      (single (.full 1)).deals 0 repaidByOthers = [.giveBack] :=
  ⟨returns_truthful (single (.full 1)) repaidByOthers 0 (by decide) rfl rfl rfl (by decide),
    by decide +kernel, by decide +kernel, by decide +kernel⟩

/-- A return may be told although the pool refused the token. -/
theorem refused_return_told :
    ¬∀ (start : System) (moves : List Move) (place : Nat), place < start.limiters.length →
      start.tasks = #[] → start.history = #[] → (start.pool place).inUse = 0 →
      (∀ move ∈ moves, move.isGenuine = true) →
      ∀ entry ∈ repayments (start.run moves).signs (start.run moves).takenBack,
        entry.1 = place → entry.2 = true := by
  intro truthful
  have accepted := truthful (single (.full 1)) repaidByOthers 0 (by decide) rfl rfl rfl (by decide)
    (0, false) (by decide +kernel) rfl
  cases accepted

end System

end Admission
