import Admission.Proofs.Run

/-!
# What a system notes

Whatever a move does to the history of a system, it adds notices at the end. The events among them
are numbered in rising order, from the number of events made before, and none of the records among
them is one of the fan-out, which is not part of a system.
-/

namespace Admission

/-- Numbers that rise, from above one bound up to another. -/
structure Rises (first last : Nat) (numbers : List Nat) : Prop where
  rising : numbers.Pairwise (· < ·)
  within : ∀ number ∈ numbers, first < number ∧ number ≤ last
  ordered : first ≤ last

namespace Rises

variable {first between last : Nat} {earlier later : List Nat}

theorem nil (first : Nat) : Rises first first [] where
  rising := List.Pairwise.nil
  within := by simp
  ordered := Nat.le_refl first

theorem append (one : Rises first between earlier) (two : Rises between last later) :
    Rises first last (earlier ++ later) where
  rising := by
    rw [List.pairwise_append]
    refine ⟨one.rising, two.rising, ?_⟩
    intro number inEarlier other inLater
    have upper := (one.within number inEarlier).2
    have lower := (two.within other inLater).1
    omega
  within := by
    have := one.ordered
    have := two.ordered
    intro number member
    rcases List.mem_append.mp member with inEarlier | inLater
    · have := one.within number inEarlier
      omega
    · have := two.within number inLater
      omega
  ordered := Nat.le_trans one.ordered two.ordered

theorem sublist (rises : Rises first last later) (among : earlier.Sublist later) :
    Rises first last earlier where
  rising := rises.rising.sublist among
  within := fun number member => rises.within number (among.subset member)
  ordered := rises.ordered

end Rises

namespace Notice

/-- Whether a notice is anything but a record of the fan-out. -/
def isPlain : Notice → Bool
  | logged record => record.origin != .fanout
  | _ => true

/-- The numbers of the events that are published. -/
def numbers (notices : List Notice) : List Nat :=
  notices.filterMap fun notice => notice.event?.map (·.2.sequence)

@[simp]
theorem numbers_append (notices more : List Notice) :
    numbers (notices ++ more) = numbers notices ++ numbers more := by
  simp [numbers]

@[simp]
theorem all_isPlain_wokenOf (waiter : Option Nat) : (wokenOf waiter).all isPlain = true := by
  cases waiter <;> rfl

/-- Notices that follow on a history, with the numbers of events made before and after them. -/
structure Extend (before : Array Notice) (first : Nat) (after : Array Notice) (last : Nat)
    (news : List Notice) : Prop where
  history : after.toList = before.toList ++ news
  plain : news.all isPlain = true
  rises : Rises first last (numbers news)

namespace Extend

variable {before middle after : Array Notice} {first between last : Nat}
  {earlier later : List Notice}

theorem nil : Extend before first before first [] where
  history := by simp
  plain := rfl
  rises := .nil first

theorem append (one : Extend before first middle between earlier)
    (two : Extend middle between after last later) :
    Extend before first after last (earlier ++ later) where
  history := by rw [two.history, one.history, List.append_assoc]
  plain := by rw [List.all_append, one.plain, two.plain, Bool.and_self]
  rises := by
    rw [numbers_append]
    exact one.rises.append two.rises

end Extend

end Notice

namespace System

/-- All events published, each with the place of its limiter. -/
def published (system : System) : List (Nat × Event) :=
  system.history.toList.filterMap Notice.event?

/-- Whatever was added to the history was noted in one step or in several. -/
def Noted (before after : System) : Prop :=
  ∃ news, Notice.Extend before.history before.eventsMade after.history after.eventsMade news

theorem Noted.refl (system : System) : Noted system system :=
  ⟨[], .nil⟩

theorem Noted.trans {first second third : System} (one : Noted first second)
    (two : Noted second third) : Noted first third := by
  rcases one with ⟨earlier, one⟩
  rcases two with ⟨later, two⟩
  exact ⟨earlier ++ later, one.append two⟩

theorem Noted.foldl {Item : Type} {act : System → Item → System}
    (acts : ∀ system item, Noted system (act system item)) (system : System)
    (items : List Item) : Noted system (items.foldl act system) := by
  induction items generalizing system with
  | nil => exact .refl system
  | cons item rest ih => exact (acts system item).trans (ih _)

theorem Noted.note {system middle : System} (before : Noted system middle) (notice : Notice)
    (plain : notice.isPlain = true) : Noted system (middle.note notice) := by
  refine before.trans ?_
  cases notice with
  | published place event =>
      refine ⟨[.published place (event.numbered (middle.eventsMade + 1))], ?_, rfl, ?_, ?_, ?_⟩
      · simp [System.note]
      · exact List.pairwise_singleton _ _
      · simp [Notice.numbers, Notice.event?, System.note, Event.numbered]
      · simp [System.note]
  | logged record =>
      refine ⟨[.logged record], ?_, ?_, .nil _⟩
      · simp [System.note]
      · simpa using plain
  | _ => exact ⟨_, Array.toList_push, rfl, .nil _⟩

theorem Noted.noteAll {system middle : System} (before : Noted system middle)
    (notices : List Notice)
    (plain : notices.all Notice.isPlain = true) : Noted system (middle.noteAll notices) := by
  induction notices generalizing middle with
  | nil => exact before
  | cons notice rest ih =>
      rw [List.all_cons, Bool.and_eq_true] at plain
      exact ih (before.note notice plain.1) plain.2

variable (system : System)

/-! ### Contexts, signals and tasks -/

theorem tellCancelled_noted (tokens : List Nat) : Noted system (system.tellCancelled tokens) := by
  apply Noted.noteAll (.refl system)
  simp [Notice.isPlain]

theorem cancel_noted (context : Context) (cause : Option String) :
    Noted system (system.cancel context cause) := by
  refine Noted.trans ?_ (tellCancelled_noted _ _)
  exact .refl system

theorem cancelToken_noted (context : Context) : Noted system (system.cancelToken context) := by
  refine Noted.trans ?_ (tellCancelled_noted _ _)
  exact .refl system

theorem fire_noted (signal : Nat) : Noted system (system.fire signal) := by
  simp only [fire]
  split
  · exact .refl system
  · refine Noted.note ?_ _ rfl
    exact .refl system

theorem dropSignal_noted (signal : Nat) : Noted system (system.dropSignal signal) := by
  simp only [dropSignal]
  split
  · split
    · refine Noted.note ?_ _ rfl
      exact .refl system
    · exact .refl system
  · exact .refl system

theorem spawn_noted (task : Task) : Noted system (system.spawn task).1 := by
  simp only [spawn]
  refine Noted.note ?_ _ rfl
  exact .refl system

theorem releaseHoldings_noted (task : Task) : Noted system (system.releaseHoldings task) := by
  cases task with
  | timer signal delay deadline => exact .refl system
  | awaitCancellation context => exact .refl system
  | awaitStaleness signal => exact dropSignal_noted system signal
  | acquisition context signal => exact dropSignal_noted system signal
  | admission job context stage => exact dropSignal_noted system job.signal
  | registration feed context watch =>
      simp only [releaseHoldings]
      split <;> exact .refl system
  | listening watch =>
      simp only [releaseHoldings]
      split <;> exact .refl system

theorem finish_noted (index : Nat) (outcome : Outcome) :
    Noted system (system.finish index outcome) := by
  simp only [finish]
  split
  · exact .refl system
  · refine Noted.trans ?_ (releaseHoldings_noted _ _)
    refine Noted.note ?_ _ rfl
    exact .refl system

/-! ### Streams and feeds -/

theorem tellStream_noted (stream : Nat) (change : Stream → Stream) :
    Noted system (system.tellStream stream change) := by
  simp only [tellStream]
  refine Noted.note ?_ _ rfl
  exact .refl system

theorem deliver_noted (broadcast : Broadcast) : Noted system (system.deliver broadcast) := by
  apply deliver_induction (motive := Noted system)
  · exact .refl system
  · intro later before watcher _
    exact before.trans (tellStream_noted later _ _)
  · intro later before entry _
    exact before.trans (tellStream_noted later _ _)

theorem applyResource_noted (name : String) (resource : JobResource) :
    Noted system (system.applyResource name resource) := by
  simp only [applyResource]
  split
  · exact deliver_noted (system.setFeed name _) _
  · exact .refl system

theorem deleteResource_noted (name uid : String) :
    Noted system (system.deleteResource name uid).1 := by
  simp only [deleteResource]
  split
  · exact deliver_noted (system.setFeed name _) _
  · exact .refl system

theorem injectChange_noted (name : String) (change : ResourceEvent) :
    Noted system (system.injectChange name change) := by
  simp only [injectChange]
  split
  · exact deliver_noted (system.setFeed name _) _
  · exact .refl system

theorem watchFeed_noted (name : String) (context : Context) :
    Noted system (system.watchFeed name context).1 := by
  simp only [watchFeed]
  split
  · exact .refl system
  · exact .refl system
  · split <;> exact .refl system

theorem sendItem_noted (name : String) (item : FeedItem) :
    Noted system (system.sendItem name item).1 := by
  simp only [sendItem]
  split
  · exact Noted.foldl (fun system stream => system.tellStream_noted stream _) system _
  · exact .refl system

theorem closeFeed_noted (name : String) : Noted system (system.closeFeed name) := by
  simp only [closeFeed]
  split
  · exact Noted.foldl (fun system stream => system.tellStream_noted stream _)
      (system.setFeed name _) _
  · exact .refl system

/-! ### Limiters and the reconciler -/

end System

theorem Limiter.takeBack_plain (limiter : Limiter) (place : Nat) (uuid : String)
    (error : HandlerError) : (limiter.takeBack place uuid error).2.all Notice.isPlain = true := by
  simp only [takeBack, List.all_append, Notice.all_isPlain_wokenOf]
  rfl

theorem Limiter.afterwards_plain (limiter : Limiter) (place : Nat) (uuid : String)
    (rest : List Limiter) (passage : Passage) (notices : List Notice)
    (plain : notices.all Notice.isPlain = true) :
    (limiter.afterwards place uuid rest passage notices).2.2.all Notice.isPlain = true := by
  cases passage with
  | waiting place => exact plain
  | through => exact plain
  | stopped error =>
      simp only [afterwards, List.all_append, plain, takeBack_plain, Bool.and_self]

namespace Chain

theorem advance_plain (place passed : Nat) (visit : Visit) (limiters : List Limiter) :
    (advance place passed visit limiters).2.2.all Notice.isPlain = true := by
  induction limiters generalizing place passed visit with
  | nil => rfl
  | cons limiter rest ih =>
      cases passed with
      | succ passed =>
          apply Limiter.afterwards_plain
          exact ih (place + 1) passed visit
      | zero =>
          simp only [advance]
          split
          · rfl
          · simp only [List.all_append, Notice.all_isPlain_wokenOf]
            rfl
          · simp only [List.all_append, Notice.all_isPlain_wokenOf]
            rfl
          · apply Limiter.afterwards_plain
            rw [List.all_append, ih, Bool.and_true]
            rfl

theorem conclude_plain (place : Nat) (uuid : String) (result : Except HandlerError Unit)
    (limiters : List Limiter) :
    (conclude place uuid result limiters).2.all Notice.isPlain = true := by
  induction limiters generalizing place with
  | nil => rfl
  | cons limiter rest ih =>
      cases result with
      | ok value => exact ih (place + 1)
      | error error =>
          simp only [conclude, List.all_append, Limiter.takeBack_plain, Bool.and_true]
          exact ih (place + 1)

theorem withdraw_plain (task place : Nat) (limiters : List Limiter) :
    (withdraw task place limiters).2.all Notice.isPlain = true := by
  induction limiters generalizing place with
  | nil => cases place <;> rfl
  | cons limiter rest ih =>
      cases place with
      | zero => exact Notice.all_isPlain_wokenOf _
      | succ place => exact ih place

end Chain

theorem Reconciler.apply_plain (place : Nat) (pool : Pool) (change : ResourceEvent) :
    (apply place pool change).2.all Notice.isPlain = true := by
  have settled : (settle pool change).2.all Notice.isPlain = true := by
    simp only [settle]
    cases demand change with
    | claim => rfl
    | giveBack =>
        simp only [List.all_append, Notice.all_isPlain_wokenOf]
        rfl
    | nothing => rfl
  simp only [apply, List.all_append, settled]
  cases change <;> rfl

theorem Watch.takeAll_plain (place index : Nat) (feed : String) (pool : Pool) (isSynced : Bool)
    (items : List FeedItem) :
    (takeAll place index feed pool isSynced items).2.2.all Notice.isPlain = true := by
  induction items generalizing pool isSynced with
  | nil => rfl
  | cons item rest ih =>
      simp only [takeAll, List.all_append, ih, Bool.and_true]
      cases item with
      | event change => exact Reconciler.apply_plain place pool change
      | synced => cases isSynced <;> rfl

namespace System

variable (system : System)

/-! ### Turns -/

theorem concludeJob_noted (index : Nat) (job : Job) (result : Except HandlerError Unit) :
    Noted system (system.concludeJob index job result) := by
  refine Noted.trans ?_ (finish_noted _ _ _)
  refine Noted.noteAll ?_ _ (Chain.conclude_plain _ _ _ _)
  exact .refl system

theorem handleInside_noted (index : Nat) (job : Job) (context : Context) (holds : List Hold) :
    Noted system (system.handleInside index job context holds) := by
  simp only [handleInside]
  split
  · split
    · exact finish_noted system _ _
    · exact concludeJob_noted system _ _ _
    · rename_i starts _
      cases starts with
      | true => exact (applyResource_noted system _ _).trans (concludeJob_noted _ _ _ _)
      | false => exact concludeJob_noted system _ _ _
  · exact .refl system

theorem admitJob_noted (index : Nat) (job : Job) (context : Context) (place since : Nat) :
    Noted system (system.admitJob index job context place since) := by
  simp only [admitJob]
  split
  · refine Noted.noteAll ?_ _ (Chain.advance_plain _ _ _ _)
    exact .refl system
  · refine Noted.trans ?_ (finish_noted _ _ _)
    refine Noted.noteAll ?_ _ (Chain.advance_plain _ _ _ _)
    exact .refl system
  · refine Noted.trans (Noted.note ?_ _ rfl) (handleInside_noted _ _ _ _ _)
    refine Noted.noteAll ?_ _ (Chain.advance_plain _ _ _ _)
    exact .refl system

theorem settleRegistration_noted (index : Nat) (context : Context) (watchIndex : Nat)
    (deadline : Option Nat) :
    Noted system (system.settleRegistration index context watchIndex deadline) := by
  simp only [settleRegistration]
  split
  · exact .refl system
  · split
    · exact .refl system
    · exact (Noted.note (.refl system) _ rfl).trans (finish_noted _ _ _)
    · exact ((cancel_noted system _ _).note _ rfl).trans (finish_noted _ _ _)

theorem startRegistration_noted (index : Nat) (feed : String) (context : Context) :
    Noted system (system.startRegistration index feed context) := by
  have watched : Noted system (watchFeed
      { system with cancellation := (system.cancellation.child context).1 } feed
      (system.cancellation.child context).2).1 := by
    refine Noted.trans ?_ (watchFeed_noted _ _ _)
    exact .refl system
  simp only [startRegistration]
  split
  · rename_i after error found
    rw [found] at watched
    refine Noted.trans ?_ (finish_noted _ _ _)
    exact watched
  · rename_i after name stream found
    rw [found] at watched
    refine Noted.trans ?_ (settleRegistration_noted _ _ _ _ _)
    refine Noted.trans ?_ (spawn_noted _ _)
    exact watched

theorem endListening_noted (index watchIndex : Nat) (watch : Watch) :
    Noted system (system.endListening index watchIndex watch) := by
  refine Noted.trans (Noted.note ?_ _ rfl) (finish_noted _ _ _)
  refine Noted.note ?_ _ rfl
  exact .refl system

theorem listen_noted (index watchIndex : Nat) :
    Noted system (system.listen index watchIndex) := by
  simp only [listen]
  split
  · exact .refl system
  · split
    · exact endListening_noted system _ _ _
    · split
      · refine Noted.note (Noted.noteAll ?_ _ (Watch.takeAll_plain _ _ _ _ _ _)) _ rfl
        exact .refl system
      · split
        · refine Noted.noteAll ?_ _ (Watch.takeAll_plain _ _ _ _ _ _)
          exact .refl system
        · refine Noted.trans (Noted.noteAll ?_ _ (Watch.takeAll_plain _ _ _ _ _ _))
            (endListening_noted _ _ _ _)
          exact .refl system

theorem acquire_noted (index : Nat) (context : Context) (signal : Nat) :
    Noted system (system.acquire index context signal) := by
  have told (pool : Pool) (woken : Option Nat) :
      Noted system ((system.setPool 0 pool).noteAll (Notice.wokenOf woken)) := by
    refine Noted.noteAll ?_ _ (Notice.all_isPlain_wokenOf woken)
    exact .refl system
  simp only [acquire]
  split
  · exact told _ _
  all_goals exact (told _ _).trans (finish_noted _ _ _)

theorem runTimer_noted (index signal delay : Nat) (deadline : Option Nat) :
    Noted system (system.runTimer index signal delay deadline) := by
  simp only [runTimer]
  split
  · exact finish_noted system _ _
  · split
    · exact (fire_noted system _).trans (finish_noted _ _ _)
    · exact .refl system

theorem dropTask_noted (index : Nat) (task : Task) : Noted system (system.dropTask index task) := by
  simp only [dropTask]
  split
  · refine Noted.trans ?_ (finish_noted _ _ _)
    refine Noted.noteAll ?_ _ (Notice.all_isPlain_wokenOf _)
    exact .refl system
  · refine Noted.trans ?_ (finish_noted _ _ _)
    refine Noted.noteAll ?_ _ (Chain.withdraw_plain _ _ _)
    exact .refl system
  · exact finish_noted system _ _

theorem turn_noted (index : Nat) : Noted system (system.turn index) := by
  simp only [turn]
  split
  · exact .refl system
  · split
    · exact .refl system
    · split
      · exact dropTask_noted system _ _
      · split
        · exact runTimer_noted system _ _ _ _
        · split
          · exact finish_noted system _ _
          · exact .refl system
        · split
          · exact finish_noted system _ _
          · exact .refl system
        · exact acquire_noted system _ _ _
        · exact admitJob_noted system _ _ _ _ _
        · exact admitJob_noted system _ _ _ _ _
        · exact handleInside_noted system _ _ _ _
        · exact startRegistration_noted system _ _ _
        · exact settleRegistration_noted system _ _ _ _
        · exact listen_noted system _ _

/-! ### Moves -/

theorem undergo_noted (happening : Happening) : Noted system (system.undergo happening) := by
  cases happening with
  | cancel context cause => exact cancel_noted system context cause
  | cancelToken context => exact cancelToken_noted system context
  | dropSignal signal => exact dropSignal_noted system signal
  | fire signal => exact fire_noted system signal
  | openGate gate =>
      simp only [undergo, openGate]
      split
      · exact .refl system
      · refine Noted.note ?_ _ rfl
        exact .refl system
  | applyResource feed resource => exact applyResource_noted system feed resource
  | deleteResource feed uid => exact deleteResource_noted system feed uid
  | injectChange feed change => exact injectChange_noted system feed change
  | watchFeed feed context => exact watchFeed_noted system feed context
  | sendItem feed item => exact sendItem_noted system feed item
  | closeFeed feed => exact closeFeed_noted system feed
  | publish place event => exact Noted.note (.refl system) _ rfl
  | _ => exact .refl system

theorem perform_noted (move : Move) : Noted system (system.perform move) := by
  cases move with
  | turn index => exact turn_noted system index
  | drop index =>
      simp only [perform, dropNow]
      split
      · exact .refl system
      · split
        · exact .refl system
        · exact dropTask_noted system _ _
  | abort index =>
      simp only [perform, abort]
      split
      · exact .refl system
      · split
        · exact .refl system
        · refine Noted.note ?_ _ rfl
          exact .refl system
  | start task => exact spawn_noted system task
  | tryAcquire place => exact .refl system
  | tryRelease place =>
      refine Noted.noteAll ?_ _ (Notice.all_isPlain_wokenOf _)
      exact .refl system
  | reconcile change =>
      refine Noted.noteAll ?_ _ (Reconciler.apply_plain _ _ _)
      exact .refl system
  | elsewhere happening => exact undergo_noted system happening

end System

end Admission
