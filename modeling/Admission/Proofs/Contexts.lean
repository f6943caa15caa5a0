import Admission.Proofs.Shelter

/-!
# What moves do to the contexts

Tasks take up and give up handles on contexts, feeds keep handles for their watchers, and contexts
are made and cancelled from outside. The only context that a task cancels is that of a watch whose
registration failed. In a run in which no registration fails, and nobody outside cancels a ward,
the contexts are therefore changed in no way that cancels a ward itself.
-/

namespace Admission

/-- The context that somebody outside cancels, if that is what happens. -/
def Happening.cancels? : Happening → Option Context
  | cancel context _ => some context
  | cancelToken context => some context
  | _ => none

namespace System

variable {wards : Nat → Prop} {system before : System}

/-- The contexts of a system are changed in no way that cancels a ward itself. -/
def SparesWards (wards : Nat → Prop) (system next : System) : Prop :=
  system.cancellation.Reaches wards next.cancellation

theorem SparesWards.of_eq {next : System} (unchanged : next.cancellation = system.cancellation) :
    SparesWards wards system next := by
  simp only [SparesWards, unchanged]
  exact .unchanged

theorem SparesWards.dropContext (spares : SparesWards wards system before) (context : Context) :
    SparesWards wards system (before.dropContext context) :=
  Cancellation.Reaches.drop spares context

theorem SparesWards.holdContext (spares : SparesWards wards system before) (context : Context) :
    SparesWards wards system (before.holdContext context) :=
  Cancellation.Reaches.clone spares context

/-- What happens to the rest of the system does not matter. -/
theorem SparesWards.congr {next : System} (spares : SparesWards wards system before)
    (unchanged : next.cancellation = before.cancellation) : SparesWards wards system next := by
  simp only [SparesWards, unchanged]
  exact spares

@[simp]
theorem dropSignal_cancellation (system : System) (signal : Nat) :
    (system.dropSignal signal).cancellation = system.cancellation :=
  (dropSignal_frame system signal).2.2.2.2.2.1

theorem SparesWards.releaseHoldings (spares : SparesWards wards system before) (task : Task) :
    SparesWards wards system (before.releaseHoldings task) := by
  cases task with
  | timer signal delay deadline => exact spares
  | awaitCancellation context => exact spares.dropContext context
  | awaitStaleness signal => exact spares.congr (dropSignal_cancellation before signal)
  | acquisition context signal =>
      exact (spares.congr (dropSignal_cancellation before signal)).dropContext context
  | admission job context stage =>
      exact (spares.congr (dropSignal_cancellation before job.signal)).dropContext context
  | registration feed context watch =>
      simp only [System.releaseHoldings]
      split
      · exact (spares.dropContext _).dropContext context
      · exact spares.dropContext context
  | listening watch =>
      simp only [System.releaseHoldings]
      split
      · exact spares.dropContext _
      · exact spares

theorem SparesWards.finish (spares : SparesWards wards system before) (index : Nat)
    (outcome : Outcome) : SparesWards wards system (before.finish index outcome) := by
  simp only [System.finish]
  split
  · exact spares
  · refine SparesWards.releaseHoldings ?_ _
    exact spares.congr (note_frame _ _).2.2.2.2.2.1

theorem SparesWards.deliver (spares : SparesWards wards system before) (broadcast : Broadcast) :
    SparesWards wards system (before.deliver broadcast) := by
  apply deliver_induction (motive := SparesWards wards system)
  · exact spares
  · intro later spares watcher _
    exact (spares.congr (tellStream_frame _ _ _).2.2.2.2.2.1).dropContext watcher.context
  · intro later spares entry _
    exact spares.congr (tellStream_frame _ _ _).2.2.2.2.2.1

theorem SparesWards.applyResource (spares : SparesWards wards system before) (name : String)
    (resource : JobResource) : SparesWards wards system (before.applyResource name resource) := by
  simp only [System.applyResource]
  split
  · refine SparesWards.deliver ?_ _
    exact spares.congr rfl
  · exact spares

theorem SparesWards.watchFeed (spares : SparesWards wards system before) (name : String)
    (context : Context) : SparesWards wards system (before.watchFeed name context).1 := by
  simp only [System.watchFeed]
  split
  · exact spares
  · exact (SparesWards.holdContext (spares.congr rfl) context).congr rfl
  · split
    · exact spares
    · exact spares.congr rfl

theorem undergo_sparesWards (system : System) {happening : Happening}
    (allowed : ∀ context ∈ happening.cancels?,
      context.token < system.cancellation.holders.size ∧ ¬wards context.token) :
    SparesWards wards system (system.undergo happening) := by
  have spares : SparesWards wards system system := .of_eq rfl
  cases happening with
  | createContext => exact Cancellation.Reaches.create .unchanged
  | deriveContext parent => exact Cancellation.Reaches.child .unchanged parent
  | wrapToken other => exact Cancellation.Reaches.wrap .unchanged other
  | wrapChildToken other => exact Cancellation.Reaches.wrapChild .unchanged other
  | holdContext context => exact spares.holdContext context
  | dropContext context => exact spares.dropContext context
  | cancel context cause =>
      rcases allowed context rfl with ⟨made, apart⟩
      simp only [SparesWards, undergo, cancel_cancellation]
      exact Cancellation.Reaches.cancel .unchanged cause made apart
  | cancelToken context =>
      rcases allowed context rfl with ⟨made, apart⟩
      simp only [SparesWards, undergo, cancelToken_cancellation]
      exact .cancelToken .unchanged made apart
  | applyResource feed resource => exact spares.applyResource feed resource
  | deleteResource feed uid =>
      simp only [undergo, deleteResource]
      split
      · refine SparesWards.deliver ?_ _
        exact .of_eq rfl
      · exact spares
  | injectChange feed change =>
      simp only [undergo, injectChange]
      split
      · refine SparesWards.deliver ?_ _
        exact .of_eq rfl
      · exact spares
  | watchFeed feed context => exact spares.watchFeed feed context
  | sendItem feed item =>
      simp only [undergo, sendItem]
      split
      · exact .of_eq (tellStreams_frame _ _ _).2.2.2.1
      · exact spares
  | closeFeed feed =>
      simp only [undergo, closeFeed]
      split
      · exact .of_eq (tellStreams_frame _ _ _).2.2.2.1
      · exact spares
  | _ => exact .of_eq (by simp [undergo])

/-! ### Turns -/

/-- How a task has ended right after its end. -/
theorem finish_outcome? {index : Nat} {state : TaskState}
    (found : before.tasks[index]? = some state) (outcome : Outcome) :
    (before.finish index outcome).outcome? index = some outcome := by
  simp [outcome?, Array.getElem?_modify, found]

theorem SparesWards.concludeJob (spares : SparesWards wards system before) (index : Nat) (job : Job)
    (result : Except HandlerError Unit) :
    SparesWards wards system (before.concludeJob index job result) :=
  SparesWards.finish (spares.congr (by simp)) index _

theorem SparesWards.handleInside (spares : SparesWards wards system before) (index : Nat)
    (job : Job) (context : Context) (holds : List Hold) :
    SparesWards wards system (before.handleInside index job context holds) := by
  simp only [System.handleInside]
  split
  · split
    · exact spares.finish index _
    · exact spares.concludeJob index job _
    · refine SparesWards.concludeJob ?_ index job _
      split
      · exact spares.applyResource _ _
      · exact spares
  · exact spares

theorem SparesWards.admitJob (spares : SparesWards wards system before) (index : Nat) (job : Job)
    (context : Context) (place since : Nat) :
    SparesWards wards system (before.admitJob index job context place since) := by
  simp only [System.admitJob]
  split
  · exact spares.congr (by simp)
  · exact SparesWards.finish (spares.congr (by simp)) index _
  · exact SparesWards.handleInside (spares.congr (by simp)) index job context _

theorem SparesWards.dropTask (spares : SparesWards wards system before) (index : Nat)
    (task : Task) : SparesWards wards system (before.dropTask index task) := by
  cases task with
  | acquisition context signal => exact SparesWards.finish (spares.congr (by simp)) index _
  | admission job context stage =>
      cases stage with
      | arriving => exact spares.finish index _
      | waiting place since => exact SparesWards.finish (spares.congr (by simp)) index _
      | inside holds => exact spares.finish index _
  | _ => exact spares.finish index _

theorem SparesWards.runTimer (spares : SparesWards wards system before)
    (index signal delay : Nat) (deadline : Option Nat) :
    SparesWards wards system (before.runTimer index signal delay deadline) := by
  simp only [System.runTimer]
  split
  · exact spares.finish index _
  · split
    · exact SparesWards.finish (spares.congr (by simp)) index _
    · exact spares

theorem SparesWards.acquire (spares : SparesWards wards system before) (index : Nat)
    (context : Context) (signal : Nat) :
    SparesWards wards system (before.acquire index context signal) := by
  simp only [System.acquire]
  split
  · exact spares.congr (by simp)
  · exact SparesWards.finish (spares.congr (by simp)) index _
  · exact SparesWards.finish (spares.congr (by simp)) index _
  · exact SparesWards.finish (spares.congr (by simp)) index _

theorem SparesWards.endListening (spares : SparesWards wards system before) (index watch : Nat)
    (watched : Watch) : SparesWards wards system (before.endListening index watch watched) :=
  SparesWards.finish (spares.congr (by simp)) index _

theorem SparesWards.listen (spares : SparesWards wards system before) (index watch : Nat) :
    SparesWards wards system (before.listen index watch) := by
  simp only [System.listen]
  split
  · exact spares
  · split
    · exact spares.endListening index watch _
    · split
      · exact spares.congr (by simp)
      · split
        · exact spares.congr (by simp)
        · exact SparesWards.endListening (spares.congr (by simp)) index watch _

theorem SparesWards.settleRegistration (spares : SparesWards wards system before) {index : Nat}
    {state : TaskState} (found : before.tasks[index]? = some state) (context : Context)
    (watch : Nat) (deadline : Option Nat)
    (succeeds : ∀ error, (before.settleRegistration index context watch deadline).outcome? index ≠
      some (.registered (.error error))) :
    SparesWards wards system (before.settleRegistration index context watch deadline) := by
  have failing := succeeds
  simp only [System.settleRegistration] at failing ⊢
  split
  · exact spares
  · rename_i watched foundWatch
    split
    · exact spares
    · exact SparesWards.finish (spares.congr (by simp)) index _
    · rename_i error verdict
      have present : ((before.cancel watched.context none).note
          (Registration.failedNotice watched.feed error)).tasks[index]? = some state := by
        simp [found]
      have fails := failing error
      simp only [foundWatch, verdict] at fails
      exact absurd (finish_outcome? present _) fails

/-- A turn cancels no ward, unless it begins a watch or a registration fails in it. -/
theorem turn_sparesWards (system : System) (index : Nat)
    (registers : ∀ feed context watch,
      system.task? index = some (.registration feed context watch) →
      watch.isSome = true ∧
        ∀ error, (system.turn index).outcome? index ≠ some (.registered (.error error))) :
    SparesWards wards system (system.turn index) := by
  have spares : SparesWards wards system system := .of_eq rfl
  rcases turn_cases system index with same | ⟨state, found, unfinished⟩
  · rw [same]
    exact spares
  · by_cases marked : state.isAborted = true
    · rw [turn_of_isAborted found unfinished marked]
      exact spares.dropTask index state.task
    · simp only [turn, task?, found, unfinished, marked, Option.map_some, Option.some.injEq,
        Option.isSome_none, Bool.false_eq_true, if_false] at registers ⊢
      cases task : state.task with
      | timer signal delay deadline => exact spares.runTimer index signal delay deadline
      | awaitCancellation context =>
          simp only
          split
          · exact spares.finish index _
          · exact spares
      | awaitStaleness signal =>
          simp only
          split
          · exact spares.finish index _
          · exact spares
      | acquisition context signal => exact spares.acquire index context signal
      | admission job context stage =>
          cases stage with
          | arriving => exact spares.admitJob index job context 0 system.now
          | waiting place since => exact spares.admitJob index job context place since
          | inside holds => exact spares.handleInside index job context holds
      | registration feed context watch =>
          rcases registers feed context watch task with ⟨begun, succeeds⟩
          cases watch with
          | none => cases begun
          | some watch =>
              rw [task] at succeeds
              exact spares.settleRegistration found context watch.1 watch.2 succeeds
      | listening watch => exact spares.listen index watch

end System

end Admission
