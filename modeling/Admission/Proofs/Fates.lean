import Admission.Proofs.JobMoves

/-!
# What a move does to one task

Seen from one task, a move does one of four things: nothing, since it concerns others only or the
task has ended; it starts the task; it drops the task; or it lets the task have a turn. Whatever is
proved about one task along a run is proved by cases on this.
-/

namespace Admission

/-- Whether a move starts no job but those that have yet to have a turn. -/
def Move.startsArriving : Move → Bool
  | .start (.admission _ _ stage) => stage == .arriving
  | _ => true

namespace System

/-- What a move can do to one task. -/
inductive Befalls (index : Nat) (system : System) (move : Move) (later : TaskState) : Prop where
  /-- The move concerns others only, or the task has ended. -/
  | kept (state : TaskState) (found : system.tasks[index]? = some state)
      (task : later.task = state.task) (outcome : later.outcome = state.outcome)
      (elsewhere : system.perform move = system ∨ (move ≠ .turn index ∧ move ≠ .drop index))
  /-- The move starts the task, or a registration starts it as its listener. -/
  | began (absent : system.tasks[index]? = none)
      (started : (move = .start later.task ∧ later = { task := later.task }) ∨
        later.task.isListening = true)
  | dropped (state : TaskState) (found : system.tasks[index]? = some state)
      (unfinished : state.outcome = none)
      (ended : later = { state with outcome := some .aborted })
      (step : system.perform move = system.dropTask index state.task)
      (cause : move = .drop index ∨ (move = .turn index ∧ state.isAborted = true))
  | turned (state : TaskState) (found : system.tasks[index]? = some state)
      (unfinished : state.outcome = none) (unmarked : state.isAborted = false)
      (turns : move = .turn index)

section Cases

variable {system : System} {index : Nat} {move : Move} {later : TaskState}

/-- A move that leaves all tasks alone does nothing to one of them. -/
theorem Befalls.of_tasks (tasks : (system.perform move).tasks = system.tasks)
    (others : move ≠ .turn index ∧ move ≠ .drop index)
    (found : (system.perform move).tasks[index]? = some later) :
    Befalls index system move later :=
  .kept later (by rw [← tasks, found]) rfl rfl (Or.inr others)

theorem Befalls.of_dropTask {state : TaskState} (before : system.tasks[index]? = some state)
    (unfinished : state.outcome = none)
    (step : system.perform move = system.dropTask index state.task)
    (cause : move = .drop index ∨ (move = .turn index ∧ state.isAborted = true))
    (found : (system.perform move).tasks[index]? = some later) :
    Befalls index system move later := by
  rw [step, (dropTask_frame system index state.task).1, Array.getElem?_modify, if_pos rfl, before,
    Option.map_some, Option.some.injEq] at found
  exact .dropped state before unfinished found.symm step cause

/-- What the own turn of a task does to it. -/
theorem Befalls.of_ownTurn (found : (system.turn index).tasks[index]? = some later) :
    Befalls index system (.turn index) later := by
  have ended (same : system.turn index = system) : Befalls index system (.turn index) later :=
    .kept later (by rw [← same, found]) rfl rfl (Or.inl same)
  rcases turn_cases system index with same | ⟨state, before, unfinished⟩
  · exact ended same
  · by_cases marked : state.isAborted = true
    · exact of_dropTask before unfinished (turn_of_isAborted before unfinished marked)
        (Or.inr ⟨rfl, marked⟩) found
    · exact .turned state before unfinished (by simpa using marked) rfl

/-- What the turn of another task does to a task. -/
theorem Befalls.of_otherTurn {other : Nat} (apart : index ≠ other)
    (found : (system.turn other).tasks[index]? = some later) :
    Befalls index system (.turn other) later := by
  have advance := turn_advances system other
  cases before : system.tasks[index]? with
  | none =>
      rcases advance.started index later before found with ⟨listening, -⟩
      exact .began before (Or.inr listening)
  | some state =>
      have inside := (Array.getElem?_eq_some_iff.mp before).1
      rw [advance.others index apart inside, before, Option.some.injEq] at found
      refine .kept state before (by rw [found]) (by rw [found]) (Or.inr ⟨?_, nofun⟩)
      intro same
      exact apart (Move.turn.inj same).symm

/-- A move does nothing else to a task. -/
theorem Befalls.of_perform (found : (system.perform move).tasks[index]? = some later) :
    Befalls index system move later := by
  cases move with
  | turn other =>
      by_cases same : index = other
      · subst same
        exact of_ownTurn found
      · exact of_otherTurn same found
  | drop other =>
      rcases dropNow_cases system other with same | ⟨state, before, unfinished, dropped⟩
      · rw [perform, same] at found
        exact .kept later found rfl rfl (Or.inl same)
      · by_cases own : index = other
        · subst own
          exact of_dropTask before unfinished dropped (Or.inl rfl) found
        · rw [perform, dropped, (dropTask_frame system other state.task).1, Array.getElem?_modify,
            if_neg (Ne.symm own)] at found
          refine .kept later found rfl rfl (Or.inr ⟨by simp, ?_⟩)
          intro same
          exact own (Move.drop.inj same).symm
  | abort other =>
      rcases abort_cases system other with same | ⟨-, -, -, tasks⟩
      · exact of_tasks (congrArg System.tasks same) ⟨by simp, by simp⟩ found
      · rw [perform, tasks, Array.getElem?_modify] at found
        split at found
        · rcases Option.map_eq_some_iff.mp found with ⟨state, before, rfl⟩
          exact .kept state before rfl rfl (Or.inr ⟨by simp, by simp⟩)
        · exact .kept later found rfl rfl (Or.inr ⟨by simp, by simp⟩)
  | start task =>
      simp only [perform, spawn_frame, Array.getElem?_push] at found
      split at found
      · rename_i last
        subst last
        cases found
        exact .began (Array.getElem?_eq_none (Nat.le_refl _)) (Or.inl ⟨rfl, rfl⟩)
      · exact .kept later found rfl rfl (Or.inr ⟨by simp, by simp⟩)
  | tryAcquire place => exact of_tasks rfl ⟨by simp, by simp⟩ found
  | tryRelease place => exact of_tasks (by simp [perform, tryRelease]) ⟨by simp, by simp⟩ found
  | reconcile change => exact of_tasks (by simp [perform, reconcile]) ⟨by simp, by simp⟩ found
  | elsewhere happening => exact of_tasks (by simp [perform]) ⟨by simp, by simp⟩ found

/-- A task that a move leaves is one that was there before, unless the move adds it. -/
theorem absent_of_perform (absent : (system.perform move).tasks[index]? = none) :
    system.tasks[index]? = none := by
  apply Array.getElem?_eq_none
  have outside := Array.getElem?_eq_none_iff.mp absent
  have kept (tasks : (system.perform move).tasks.size = system.tasks.size) :
      system.tasks.size ≤ index := by omega
  cases move with
  | turn other =>
      have grown := (turn_advances system other).size_le
      exact Nat.le_trans grown outside
  | drop other =>
      have grown := (dropNow_proceeds system other).advances.size_le
      exact Nat.le_trans grown outside
  | abort other =>
      apply kept
      rcases abort_cases system other with same | ⟨-, -, -, tasks⟩
      · exact congrArg (·.tasks.size) same
      · rw [perform, tasks, Array.size_modify]
  | start task =>
      simp only [perform, spawn_frame, Array.size_push] at outside
      omega
  | tryAcquire place => exact kept rfl
  | tryRelease place => exact kept (by simp [perform, tryRelease])
  | reconcile change => exact kept (by simp [perform, reconcile])
  | elsewhere happening => exact kept (by simp [perform])

/-- A job was the same job before its turn. -/
theorem admission_of_turn {state : TaskState} {job : Job} {context : Context} {stage : Stage}
    (before : system.tasks[index]? = some state)
    (found : (system.turn index).tasks[index]? = some later)
    (task : later.task = .admission job context stage) :
    ∃ earlier, state.task = .admission job context earlier := by
  rcases (turn_advances system index).advances state before with ⟨same, present, advances, -⟩
  rw [found, Option.some.injEq] at present
  rw [← present, task] at advances
  generalize state.task = original at advances ⊢
  cases advances with
  | same task => exact ⟨stage, rfl⟩
  | admission job context earlier later => exact ⟨earlier, rfl⟩

end Cases

end System

end Admission
