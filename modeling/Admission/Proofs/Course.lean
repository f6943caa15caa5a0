import Admission.Proofs.AdmissionLedger
import Admission.Proofs.FeedChanges
import Admission.Proofs.Lineage
import Admission.Proofs.Listening

/-!
# Courses

A course is a run of one limiter that is registered at the cluster's feed, with a last handler that
starts jobs in that feed. The handler may take its time: it puts the resource of a job into the feed
in one step, and answers in a later one.

`Course.Allows` says what each party may do. The last handler either fails without touching the
feed, or puts in one unfinished resource of a new identifier and then succeeds; nobody drops a job
that is with it. All others change resources that are there, without bringing a finished one back,
or take them out. The pool is used by jobs and by one registration, which succeeds before the first
job comes. The context of the registration is never cancelled, and neither is any context above it,
from which it would have heard of the cancellation.
-/

namespace Admission

/-- One step of a course. -/
inductive Act where
  | move (move : Move)
  /-- The last handler puts a resource into the cluster's feed for a job, and has yet to answer. -/
  | launch (index : Nat) (resource : JobResource)

/-- A system, with the jobs whose resources were put into the cluster's feed before the last handler
answered. -/
structure Course where
  system : System
  launched : List Nat := []

/-- Whether a task is a registration that has succeeded. -/
def TaskState.hasRegistered (state : TaskState) : Bool :=
  match state.task, state.outcome with
  | .registration _ _ _, some (.registered (.ok _)) => true
  | _, _ => false

namespace System

/-- The cluster's feed. -/
def cluster (system : System) : MemoryFeed :=
  (system.memoryFeed? clusterFeed).getD {}

/-- Whether a registration has succeeded. -/
def isRegistered (system : System) : Bool :=
  system.tasks.any TaskState.hasRegistered

/-- What the last handler makes of a job when it has passed all holds. -/
def verdictOn (system : System) (job : Job) (context : Context) : Verdict :=
  (system.ruleFor job.uuid).verdict (system.isCancelled context)

/-- How many items that the listener of the first watch has not read tell of the end of a job. -/
def undelivered (system : System) : Nat :=
  let stream := system.watches[0]?.bind fun watch => system.streams[watch.stream]?
  (stream.getD {}).items.countP FeedItem.endsJob

/-- What others may do meanwhile: they cancel contexts that exist, but not the one that a watch
keeps to itself, and they change the cluster's feed without adding an unfinished resource. -/
def AllowsHappening (system : System) : Happening → Prop
  | .cancel context _ | .cancelToken context =>
      context.token < system.cancellation.holders.size ∧
        ∀ watch ∈ system.watches, context.token ≠ watch.context.token
  | .applyResource feed resource =>
      feed = clusterFeed → ∃ previous, system.cluster.get? resource.uid = some previous ∧
        (previous.isFinished = true → resource.isFinished = true)
  | .injectChange feed change =>
      feed = clusterFeed → ∃ kind reason, change = .unrecognized kind reason
  | .readStream stream | .dropReader stream => ∀ watch ∈ system.watches, stream ≠ watch.stream
  | _ => True

/-- What may be started: one registration, with the tokens above its own as the lineage, and after
it has succeeded, jobs. -/
def AllowsStart (lineage : Nat → Prop) (system : System) : Task → Prop
  | .timer _ _ _ | .awaitCancellation _ | .awaitStaleness _ => True
  | .admission _ _ .arriving => system.isRegistered = true
  | .registration feed context none =>
      feed = clusterFeed ∧ (∀ state ∈ system.tasks, state.task.isRegistration = false) ∧
        context.token < system.cancellation.holders.size ∧
        ∀ token, lineage token ↔
          Relation.ReflTransGen (fun upper lower => system.cancellation.forest.IsParent upper lower)
            token context.token
  | _ => False

/-- What may be dropped: neither a registration, nor its listener, nor a job that is with the last
handler. -/
def AllowsDrop (system : System) (index : Nat) : Prop :=
  ∀ state, system.tasks[index]? = some state → state.outcome = none →
    state.task.keepsToAdmission = true ∧ state.isWithNext 0 = false

end System

namespace Course

/-- The course after a step. -/
def perform (course : Course) : Act → Course
  | .move move => { course with system := course.system.perform move }
  | .launch index resource =>
      { system := course.system.applyResource System.clusterFeed resource
        launched := index :: course.launched }

/-- The course after some steps. -/
def run (course : Course) (acts : List Act) : Course :=
  acts.foldl perform course

/-- Whether a job is with the last handler, which has not put its resource into the feed yet. -/
def isUnlaunched (course : Course) (index : Nat) : Bool :=
  course.system.tasks[index]?.any (TaskState.isWithNext 0) && !course.launched.contains index

/-- How many jobs are with the last handler, which has not put their resources into the feed yet. -/
def unlaunched (course : Course) : Nat :=
  (List.range course.system.tasks.size).countP course.isUnlaunched

/-- How the turn of a job may end: the last handler does not fail after it has put the resource into
the feed, and does not succeed without that. -/
def AllowsAnswer (course : Course) (index : Nat) (job : Job) (context : Context) :
    Option Outcome → Prop
  | some (.handled (.ok _)) =>
      course.system.verdictOn job context = .succeeds (decide (index ∉ course.launched)) ∧
        (index ∉ course.launched → course.system.cluster.get? job.uuid = none)
  | some (.handled (.error _)) => index ∉ course.launched
  | some (.panicked _) => False
  | _ => True

/-- What a task may come to at a turn: a registration finds no more unfinished resources than there
are tokens, and does not fail. -/
def AllowsTurnOf (course : Course) (index : Nat) : Task → Prop
  | .admission job context _ =>
      course.AllowsAnswer index job context ((course.system.turn index).outcome? index)
  | .registration _ _ watch =>
      (watch = none →
        MemoryFeed.unfinished course.system.cluster.resources ≤ (course.system.pool 0).capacity) ∧
      ∀ error, (course.system.turn index).outcome? index ≠ some (.registered (.error error))
  | _ => True

/-- What an unfinished task may come to at a turn. -/
def AllowsTurn (course : Course) (index : Nat) : Prop :=
  ∀ state, course.system.tasks[index]? = some state → state.outcome = none →
    course.AllowsTurnOf index state.task

/-- The last handler puts an unfinished resource of a new identifier into the feed, once for a
job. -/
structure AllowsLaunch (course : Course) (index : Nat) (resource : JobResource) : Prop where
  isInside : ∃ state job context holds, course.system.tasks[index]? = some state ∧
    state.outcome = none ∧ state.task = .admission job context (.inside holds)
  notLaunched : index ∉ course.launched
  unfinished : resource.isFinished = false
  absent : course.system.cluster.get? resource.uid = none

/-- What may be done. -/
def Allows (lineage : Nat → Prop) (course : Course) : Act → Prop
  | .move (.turn index) => course.AllowsTurn index
  | .move (.drop index) | .move (.abort index) => course.system.AllowsDrop index
  | .move (.start task) => course.system.AllowsStart lineage task
  | .move (.elsewhere happening) => course.system.AllowsHappening happening
  | .move _ => False
  | .launch index resource => course.AllowsLaunch index resource

/-- No token of the lineage is cancelled. -/
def Spares (lineage : Nat → Prop) (course : Course) : Prop :=
  ∀ token, lineage token → token ∉ course.system.cancellation.cancelled

/-- Whether each step is allowed where it is made, and no token of the lineage is ever cancelled. -/
def Lawful (lineage : Nat → Prop) : Course → List Act → Prop
  | _, [] => True
  | course, act :: rest =>
      course.Allows lineage act ∧ (course.perform act).Spares lineage ∧
        Lawful lineage (course.perform act) rest

/-- The beginning of a course: a limiter, and the cluster's feed with some resources. -/
def beginning (limiter : Limiter) (resources : List JobResource) : Course :=
  { system :=
      { limiters := [limiter]
        feeds := [(System.clusterFeed, .memory (.ofResources resources))] } }

theorem perform_of_same (course : Course) (move : Move)
    (same : course.system.perform move = course.system) : course.perform (.move move) = course := by
  simp only [perform, same]

/-! ### Jobs that are not launched -/

section Unlaunched

variable {course next : Course} {index : Nat} {state : TaskState}

/-- Two tests that differ at one number only. -/
theorem countP_range_of_eq_off {test other : Nat → Bool} {index size : Nat} (inside : index < size)
    (same : ∀ position, position ≠ index → other position = test position) :
    (List.range size).countP other + (test index).toNat =
      (List.range size).countP test + (other index).toNat := by
  have counted (test : Nat → Bool) (size : Nat) : (List.range (size + 1)).countP test =
      (List.range size).countP test + (test size).toNat := by
    rw [List.range_succ, List.countP_append, List.countP_singleton]
    cases test size <;> rfl
  induction size with
  | zero => omega
  | succ size ih =>
      rw [counted, counted]
      by_cases last : index = size
      · subst last
        have before : (List.range index).countP other = (List.range index).countP test := by
          apply List.countP_congr
          intro position member
          rw [same position (Nat.ne_of_lt (List.mem_range.mp member))]
        omega
      · have earlier := ih (by omega)
        rw [same size (Ne.symm last)]
        omega

theorem isUnlaunched_of_getElem? (found : course.system.tasks[index]? = some state) :
    course.isUnlaunched index = (state.isWithNext 0 && !course.launched.contains index) := by
  simp [isUnlaunched, found]

/-- What a change of one task does to the number of jobs that are not launched. -/
theorem unlaunched_of_modify (found : course.system.tasks[index]? = some state)
    {change : TaskState → TaskState}
    (tasks : next.system.tasks = course.system.tasks.modify index change)
    (launched : ∀ other, other ≠ index →
      next.launched.contains other = course.launched.contains other) :
    next.unlaunched + (state.isWithNext 0 && !course.launched.contains index).toNat =
      course.unlaunched + ((change state).isWithNext 0 && !next.launched.contains index).toNat := by
  have inside := (Array.getElem?_eq_some_iff.mp found).1
  have foundNext : next.system.tasks[index]? = some (change state) := by
    simp [tasks, Array.getElem?_modify, found]
  rw [← isUnlaunched_of_getElem? found, ← isUnlaunched_of_getElem? foundNext]
  simp only [unlaunched, tasks, Array.size_modify]
  apply countP_range_of_eq_off inside
  intro other apart
  rw [isUnlaunched, isUnlaunched, launched other apart, tasks,
    Array.getElem?_modify, if_neg (Ne.symm apart)]

/-- A task that is started is no job that is with the last handler. -/
theorem unlaunched_of_push {task : Task} (fresh : TaskState.isWithNext 0 { task } = false)
    (tasks : next.system.tasks = course.system.tasks.push { task })
    (launched : next.launched = course.launched) : next.unlaunched = course.unlaunched := by
  simp only [unlaunched, tasks, Array.size_push, List.range_succ, List.countP_append,
    List.countP_singleton]
  have last : next.isUnlaunched course.system.tasks.size = false := by
    simp [isUnlaunched, tasks, fresh]
  rw [last, if_neg Bool.false_ne_true, Nat.add_zero]
  apply List.countP_congr
  intro position member
  have inside := List.mem_range.mp member
  simp only [isUnlaunched, tasks, launched, Array.getElem?_push, Nat.ne_of_lt inside, if_false]

theorem unlaunched_of_eq (tasks : next.system.tasks = course.system.tasks)
    (launched : next.launched = course.launched) : next.unlaunched = course.unlaunched := by
  have same : next.isUnlaunched = course.isUnlaunched := by
    funext index
    rw [isUnlaunched, isUnlaunched, tasks, launched]
  rw [unlaunched, unlaunched, same, tasks]

theorem unlaunched_eq_zero (outside : ∀ (index : Nat) (state : TaskState),
      course.system.tasks[index]? = some state → state.isWithNext 0 = false) :
    course.unlaunched = 0 := by
  rw [unlaunched, List.countP_eq_zero]
  intro index _ counts
  rw [isUnlaunched, Bool.and_eq_true, Option.any_eq_true] at counts
  rcases counts with ⟨⟨state, found, inside⟩, -⟩
  rw [outside index state found] at inside
  cases inside

end Unlaunched

end Course

end Admission
