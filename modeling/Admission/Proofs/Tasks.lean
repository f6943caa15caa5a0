import Admission.Proofs.Run

/-!
# How tasks advance

What a task does concerns that task alone. It may get further or end, but it goes on doing what it
was started for, and a task that has ended stays as it is. The one thing that may be added is a
listener, which a registration starts. `TasksAdvance` says so, and is kept when several things are
done one after the other.
-/

namespace Admission

/-- What a task does stays the same, and only how far it has come may change. -/
inductive Task.Advances : Task → Task → Prop where
  | same (task : Task) : Advances task task
  | timer (signal delay : Nat) (deadline later : Option Nat) :
      Advances (.timer signal delay deadline) (.timer signal delay later)
  | admission (job : Job) (context : Context) (stage later : Stage) :
      Advances (.admission job context stage) (.admission job context later)
  | registration (feed : String) (context : Context) (watch later : Option (Nat × Option Nat)) :
      Advances (.registration feed context watch) (.registration feed context later)

theorem Task.Advances.trans {first second third : Task} (before : first.Advances second)
    (after : second.Advances third) : first.Advances third := by
  cases before with
  | same task => exact after
  | timer signal delay deadline later => cases after <;> exact .timer _ _ _ _
  | admission job context stage later => cases after <;> exact .admission _ _ _ _
  | registration feed context watch later => cases after <;> exact .registration _ _ _ _

/-- Whether a task registers a feed. -/
def Task.isRegistration : Task → Bool
  | .registration _ _ _ => true
  | _ => false

/-- Whether a task is a listener. -/
def Task.isListening : Task → Bool
  | .listening _ => true
  | _ => false

theorem Task.Advances.isRegistration_eq {task later : Task} (advances : task.Advances later) :
    later.isRegistration = task.isRegistration := by
  cases advances <;> rfl

/-- Only the task of one index may change, it goes on doing what it did, and at most a listener is
added to a registration. -/
structure TasksAdvance (index : Nat) (before after : Array TaskState) : Prop where
  others : ∀ other, other ≠ index → other < before.size → after[other]? = before[other]?
  advances : ∀ state, before[index]? = some state →
    ∃ later, after[index]? = some later ∧ state.task.Advances later.task ∧
      later.isAborted = state.isAborted
  started : ∀ (other : Nat) (later : TaskState), before[other]? = none →
    after[other]? = some later → later.task.isListening = true ∧
      ∃ state, before[index]? = some state ∧ state.task.isRegistration = true

namespace TasksAdvance

variable {index : Nat} {before after last : Array TaskState}

theorem refl (index : Nat) (tasks : Array TaskState) : TasksAdvance index tasks tasks where
  others := fun _ _ _ => rfl
  advances := fun state found => ⟨state, found, .same state.task, rfl⟩
  started := fun other later absent present => by simp [absent] at present

theorem size_le (advance : TasksAdvance index before after) : before.size ≤ after.size := by
  apply Nat.not_lt.mp
  intro inside
  obtain ⟨state, present⟩ : ∃ state, before[after.size]? = some state :=
    ⟨before[after.size], Array.getElem?_eq_getElem inside⟩
  by_cases same : after.size = index
  · rw [same] at present
    obtain ⟨later, found, -⟩ := advance.advances state present
    rw [← same] at found
    simp at found
  · have kept := advance.others after.size same inside
    rw [present] at kept
    simp at kept

theorem trans (first : TasksAdvance index before after) (second : TasksAdvance index after last) :
    TasksAdvance index before last where
  others := by
    intro other apart inside
    have stillInside := Nat.lt_of_lt_of_le inside first.size_le
    rw [second.others other apart stillInside, first.others other apart inside]
  advances := by
    intro state found
    obtain ⟨later, foundLater, advances, marked⟩ := first.advances state found
    obtain ⟨latest, foundLatest, advancesOn, markedOn⟩ := second.advances later foundLater
    exact ⟨latest, foundLatest, advances.trans advancesOn, markedOn.trans marked⟩
  started := by
    intro other latest absent present
    cases between : after[other]? with
    | some later =>
        obtain ⟨listening, registers⟩ := first.started other later absent between
        have inside : other < after.size := (Array.getElem?_eq_some_iff.mp between).1
        by_cases same : other = index
        · subst other
          obtain ⟨state, found, -⟩ := registers
          rw [absent] at found
          cases found
        · rw [second.others other same inside, between] at present
          cases present
          exact ⟨listening, registers⟩
    | none =>
        obtain ⟨listening, later, found, registers⟩ := second.started other latest between present
        refine ⟨listening, ?_⟩
        cases original : before[index]? with
        | some state =>
            obtain ⟨found', foundAgain, advances, -⟩ := first.advances state original
            rw [found] at foundAgain
            cases foundAgain
            exact ⟨state, rfl, by rw [← advances.isRegistration_eq, registers]⟩
        | none =>
            obtain ⟨listens, state, foundState, -⟩ := first.started index later original found
            rw [original] at foundState
            cases foundState

theorem of_modify {change : TaskState → TaskState}
    (advances : ∀ state, before[index]? = some state → state.task.Advances (change state).task)
    (marked : ∀ state, (change state).isAborted = state.isAborted) :
    TasksAdvance index before (before.modify index change) where
  others := by
    intro other apart _
    simp [Array.getElem?_modify, Ne.symm apart]
  advances := by
    intro state found
    exact ⟨change state, by simp [Array.getElem?_modify, found], advances state found, marked state⟩
  started := by
    intro other later absent present
    have outside := Array.getElem?_eq_none_iff.mp absent
    have inside := (Array.getElem?_eq_some_iff.mp present).1
    simp only [Array.size_modify] at inside
    omega

theorem of_push {state : TaskState} {watch : Nat} (found : before[index]? = some state)
    (registers : state.task.isRegistration = true) :
    TasksAdvance index before (before.push { task := .listening watch }) where
  others := by
    intro other _ inside
    have notLast : other ≠ before.size := by omega
    simp [Array.getElem?_push, notLast]
  advances := by
    intro original foundOriginal
    have inside := (Array.getElem?_eq_some_iff.mp foundOriginal).1
    have notLast : index ≠ before.size := by omega
    have foundAfter : (before.push { task := .listening watch })[index]? = some original := by
      simp [Array.getElem?_push, notLast, foundOriginal]
    exact ⟨original, foundAfter, .same original.task, rfl⟩
  started := by
    intro other later absent present
    rw [Array.getElem?_push] at present
    split at present
    · cases present
      exact ⟨rfl, state, found, registers⟩
    · rw [absent] at present
      cases present

/-- A kind of task that no progress changes, and that registers no feed, remains the only one. -/
theorem all {kind : Task → Bool}
    (stable : ∀ {task later : Task}, task.Advances later → kind later = kind task)
    (unregistered : ∀ task, kind task = true → task.isRegistration = false)
    (advance : TasksAdvance index before after)
    (all : ∀ (other : Nat) (state : TaskState), before[other]? = some state →
      kind state.task = true) :
    ∀ (other : Nat) (state : TaskState), after[other]? = some state → kind state.task = true := by
  intro other later present
  cases original : before[other]? with
  | none =>
      obtain ⟨-, state, found, registers⟩ := advance.started other later original present
      rw [unregistered state.task (all index state found)] at registers
      cases registers
  | some state =>
      by_cases same : other = index
      · subst other
        obtain ⟨latest, found, advances, -⟩ := advance.advances state original
        rw [present] at found
        cases found
        rw [stable advances]
        exact all index state original
      · have inside := (Array.getElem?_eq_some_iff.mp original).1
        rw [advance.others other same inside] at present
        exact all other later present

/-- Beside the task of the index there are only new listeners. -/
theorem eq_append (advance : TasksAdvance index before after) {later : TaskState}
    (foundLater : after[index]? = some later) (inside : index < before.size) :
    after = (before.modify index fun _ => later) ++ after.extract before.size after.size := by
  apply Array.ext_getElem?
  intro other
  have size := advance.size_le
  by_cases old : other < before.size
  · rw [Array.getElem?_append_left (by simpa using old), Array.getElem?_modify]
    by_cases same : index = other
    · subst same
      rw [if_pos rfl, foundLater, Array.getElem?_eq_getElem inside]
      rfl
    · rw [if_neg same, advance.others other (Ne.symm same) old]
  · rw [Array.getElem?_append_right (by simpa using old), Array.getElem?_extract,
      Array.size_modify]
    split
    · congr 1
      omega
    · exact Array.getElem?_eq_none (by omega)

/-- A task is as it was, or is a new listener, or is the one that has got further. -/
theorem origin {other : Nat} (advance : TasksAdvance index before after) {later : TaskState}
    (found : after[other]? = some later) :
    before[other]? = some later ∨ later.task.isListening = true ∨
      (other = index ∧ ∃ state, before[index]? = some state ∧ state.task.Advances later.task) := by
  cases original : before[other]? with
  | none => exact Or.inr (Or.inl (advance.started other later original found).1)
  | some state =>
      by_cases same : other = index
      · subst same
        rcases advance.advances state original with ⟨latest, foundLatest, advances, -⟩
        rw [found] at foundLatest
        cases foundLatest
        exact Or.inr (Or.inr ⟨rfl, state, original, advances⟩)
      · have inside := (Array.getElem?_eq_some_iff.mp original).1
        rw [advance.others other same inside, original] at found
        exact Or.inl found

/-- A test that no listener passes is passed by one task more or less. -/
theorem countP_eq (advance : TasksAdvance index before after) {test : TaskState → Bool}
    (failed : ∀ state, state.task.isListening = true → test state = false)
    {state later : TaskState} (found : before[index]? = some state)
    (foundLater : after[index]? = some later) :
    after.countP test + (test state).toNat = before.countP test + (test later).toNat := by
  have inside := (Array.getElem?_eq_some_iff.mp found).1
  have added : (after.extract before.size after.size).countP test = 0 := by
    rw [Array.countP_eq_zero]
    intro new member passed
    rcases Array.mem_iff_getElem?.mp member with ⟨offset, present⟩
    rw [Array.getElem?_extract] at present
    split at present
    · have fresh : before[before.size + offset]? = none :=
        Array.getElem?_eq_none (Nat.le_add_right _ _)
      rw [failed new (advance.started _ new fresh present).1] at passed
      cases passed
    · cases present
  rw [advance.eq_append foundLater inside, Array.countP_append, added, Nat.add_zero]
  exact System.countP_modify test found _

end TasksAdvance

namespace System

/-- Whether all tasks are of some kind. -/
def AllTasks (kind : Task → Bool) (system : System) : Prop :=
  ∀ (index : Nat) (state : TaskState), system.tasks[index]? = some state → kind state.task = true

theorem tasksAdvance_of_eq {system next : System} (index : Nat)
    (tasks : next.tasks = system.tasks) : TasksAdvance index system.tasks next.tasks := by
  rw [tasks]
  exact .refl index system.tasks

theorem finish_advances {system before : System} (tasks : before.tasks = system.tasks)
    (index : Nat) (outcome : Outcome) :
    TasksAdvance index system.tasks (before.finish index outcome).tasks := by
  rw [(finish_frame before index outcome).2.1, tasks]
  exact .of_modify (fun state _ => .same state.task) fun _ => rfl

theorem setTask_advances {system before : System} (tasks : before.tasks = system.tasks)
    {index : Nat} {task : Task}
    (advances : ∀ state, system.tasks[index]? = some state → state.task.Advances task) :
    TasksAdvance index system.tasks (before.setTask index task).tasks := by
  rw [(setTask_frame before index task).2.1, tasks]
  exact .of_modify advances fun _ => rfl

end System

end Admission
