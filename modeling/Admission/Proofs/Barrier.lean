import Admission.Proofs.Hearings
import Admission.Proofs.Limiters
import Mathlib.Data.List.Induction

/-!
# The barrier of a registration

A registration waits for the first mark of its watch. In every run, however the turns of the
listener, of the registration and of all others are ordered, the listener applies the items of the
stream in order and none of them twice, and it stops when the context of the registration or that of
the watch is cancelled. The registration succeeds only after everything before the first mark has
been applied, and the mark is announced exactly once, between what comes before it and what comes
later.

A run begins with a new system, and nobody in it uses a context without a handle on it.
-/

namespace Admission

namespace System

/-- What the moves of a run bring about, each in the state in which it is made. -/
def gather {Item : Type} (brought : System → Move → List Item) : System → List Move → List Item
  | _, [] => []
  | system, move :: rest => brought system move ++ gather brought (system.perform move) rest

/-- What is known about a watch from the items that its listener has applied. -/
structure Logged (system : System) (place : Nat) (watched : Watch)
    (entries : List (Pool × FeedItem)) (told : List (Nat × Event)) (written : List FeedItem) :
    Prop where
  within : entries.map (·.2) <+: written
  complete : system.Listened place →
    written = entries.map (·.2) ++ system.unread watched.stream
  synced : watched.isSynced = decide (.synced ∈ entries.map (·.2))
  told : told = Watch.story watched.feed false entries

/-- What is known after a run. -/
structure Chronicle (start : System) (moves : List Move) : Prop where
  tended : (start.run moves).Tended []
  limited : 0 < (start.run moves).limiters.length
  logged : ∀ (place : Nat) (watched : Watch), (start.run moves).watches[place]? = some watched →
    (start.run moves).Logged place watched (start.gather (appliedIn place) moves)
      (start.gather (newsIn place) moves) (start.collect (sentIn watched.stream) moves)
  unbegun : ∀ place, (start.run moves).watches[place]? = none →
    start.gather (appliedIn place) moves = [] ∧ start.gather (newsIn place) moves = []
  unopened : ∀ stream, (start.run moves).streams.size ≤ stream →
    start.collect (sentIn stream) moves = []

/-- What the barrier of a registration guarantees, for its context and its watch. -/
structure Barrier (start : System) (moves : List Move) (index : Nat) (context : Context)
    (place : Nat) (watched : Watch) : Prop where
  /-- What is applied is the beginning of what is sent, in order. -/
  inOrder : (start.gather (appliedIn place) moves).map (·.2) <+:
    start.collect (sentIn watched.stream) moves
  /-- In every turn of the listener, the items that are applied change the pool, and nothing else
  does. -/
  effective : ∀ early other late, moves = early ++ .turn other :: late →
    (start.run early).heardBy other = some place →
      (start.run (early ++ [.turn other])).pool 0 =
        (((start.run early).appliedIn place (.turn other)).map (·.2)).foldl FeedItem.leaves
          ((start.run early).pool 0)
  /-- Nothing is applied or told once a context is cancelled. -/
  stopped : ∀ early late, moves = early ++ late →
    (start.run early).isCancelled context = true ∨
      (start.run early).isCancelled watched.context = true →
    (start.run early).gather (appliedIn place) late = [] ∧
      (start.run early).gather (newsIn place) late = []
  /-- Whenever the registration has succeeded, all that comes before the first mark is applied. -/
  returned : ∀ early late, moves = early ++ late →
    (start.run early).outcome? index = some (.registered (.ok ())) →
    ∃ replay rest, (start.gather (appliedIn place) early).map (·.2) = replay ++ .synced :: rest ∧
      .synced ∉ replay
  /-- Before the mark, only changes are told. -/
  unannounced : .synced ∉ (start.gather (appliedIn place) moves).map (·.2) →
    start.gather (newsIn place) moves = (start.gather (appliedIn place) moves).flatMap Watch.tells
  /-- The first mark is told with the tokens available then, and no other mark is. -/
  announced : ∀ replay pool rest,
    start.gather (appliedIn place) moves = replay ++ (pool, .synced) :: rest →
    .synced ∉ replay.map (·.2) →
    start.gather (newsIn place) moves =
      replay.flatMap Watch.tells ++
        (0, Reconciler.syncedEvent watched.feed pool.available) :: rest.flatMap Watch.tells
  once : (start.gather (newsIn place) moves).countP (·.2.kind == .feedSynced) ≤ 1

section Runs

variable {start system : System} {moves : List Move}

/-! ### Runs that go on -/

theorem gather_append {Item : Type} (brought : System → Move → List Item) (system : System)
    (early late : List Move) :
    system.gather brought (early ++ late) =
      system.gather brought early ++ (system.run early).gather brought late := by
  induction early generalizing system with
  | nil => rfl
  | cons move rest ih => simp [gather, ih]

theorem collect_append {Item : Type} (brought : System → System → List Item) (system : System)
    (early late : List Move) :
    system.collect brought (early ++ late) =
      system.collect brought early ++ (system.run early).collect brought late := by
  induction early generalizing system with
  | nil => rfl
  | cons move rest ih => simp [collect, ih]

theorem gather_concat {Item : Type} (brought : System → Move → List Item) (system : System)
    (moves : List Move) (move : Move) :
    system.gather brought (moves ++ [move]) =
      system.gather brought moves ++ brought (system.run moves) move := by
  rw [gather_append, gather, gather, List.append_nil]

theorem collect_concat {Item : Type} (brought : System → System → List Item) (system : System)
    (moves : List Move) (move : Move) :
    system.collect brought (moves ++ [move]) =
      system.collect brought moves ++
        brought (system.run moves) ((system.run moves).perform move) := by
  rw [collect_append, collect, collect, List.append_nil]

theorem orderly_append {early late : List Move} :
    system.Orderly (early ++ late) ↔ system.Orderly early ∧ (system.run early).Orderly late := by
  induction early generalizing system with
  | nil => simp [Orderly]
  | cons move rest ih => simp [Orderly, ih, and_assoc]

theorem gather_eq_nil {Item : Type} {brought : System → Move → List Item}
    (none : ∀ early move late, moves = early ++ move :: late →
      brought (system.run early) move = []) : system.gather brought moves = [] := by
  induction moves generalizing system with
  | nil => rfl
  | cons move rest ih =>
      have first := none [] move rest rfl
      rw [run_nil] at first
      rw [gather, first, List.nil_append]
      refine ih fun early later late same => ?_
      exact none (move :: early) later late (by rw [same]; rfl)

theorem unread_of_size_le {stream : Nat} (outside : system.streams.size ≤ stream) :
    system.unread stream = [] := by
  simp [unread, Array.getElem?_eq_none outside]

/-! ### One more move -/

theorem Chronicle.nil (new : start.IsNew) (limited : 0 < start.limiters.length) :
    Chronicle start [] where
  tended := new.tended
  limited := limited
  logged := by simp [new.watches]
  unbegun := fun _ _ => ⟨rfl, rfl⟩
  unopened := fun _ _ => rfl

variable {place : Nat} {watched : Watch} {entries : List (Pool × FeedItem)}
  {told : List (Nat × Event)} {written : List FeedItem} {move : Move}

/-- Somebody else has had a turn. -/
theorem Logged.of_untouched {next : System}
    (logged : system.Logged place watched entries told written)
    (present : system.watches[place]? = some watched) (untouched : Untouched place system next) :
    next.Logged place watched entries told (written ++ sentIn watched.stream system next) where
  within := logged.within.trans (List.prefix_append _ _)
  complete := by
    intro listened
    rcases untouched.unread watched present with ⟨sent, grown⟩
    rw [sentIn, ← grown, List.drop_left,
      logged.complete (untouched.listened watched present listened), List.append_assoc]
  synced := logged.synced
  told := logged.told

/-- The listener has had a turn. -/
theorem Logged.of_hearing {next : System} {more : List (Pool × FeedItem)}
    (logged : system.Logged place watched entries told written) (listened : system.Listened place)
    (hearing : Hearing place watched more system next) {later : Watch}
    (present : next.watches[place]? = some later) :
    next.Logged place later (entries ++ more)
      (told ++ Watch.story watched.feed watched.isSynced more)
      (written ++ sentIn watched.stream system next) := by
  rcases hearing.watch with ⟨same, found, feed, -, stream, synced⟩
  rw [present, Option.some.injEq] at found
  subst found
  have nothing : sentIn watched.stream system next = [] :=
    List.drop_eq_nil_of_le hearing.shrinks
  have complete := logged.complete listened
  rw [nothing, List.append_nil]
  refine ⟨?_, fun still => ?_, ?_, ?_⟩
  · rw [List.map_append, complete]
    exact (List.prefix_append_right_inj _).mpr hearing.taken
  · rw [List.map_append, stream, List.append_assoc, ← hearing.left still]
    exact complete
  · rw [synced, logged.synced, List.map_append]
    exact ((decide_eq_decide.mpr List.mem_append).trans (Bool.decide_or _ _)).symm
  · rw [logged.told, Watch.story_append, feed, logged.synced, Bool.false_or]

/-- A listener finds the watch that it attends to. -/
theorem watch_of_heard (tended : system.Tended []) {index : Nat}
    (hears : system.heardBy index = some place) :
    ∃ watched, system.watches[place]? = some watched := by
  rcases heardBy_eq_some.mp hears with ⟨state, found, -, -, task⟩
  rcases tended.present index state place found (by rw [task]; rfl) with ⟨watched, present, -⟩
  exact ⟨watched, present⟩

/-- Nobody listens to a watch that there is not. -/
theorem deaf_of_absent (tended : system.Tended []) (absent : system.watches[place]? = none)
    (index : Nat) : system.heardBy index ≠ some place := by
  intro hears
  rcases watch_of_heard tended hears with ⟨watched, present⟩
  rw [absent] at present
  cases present

theorem Chronicle.concat (chronicle : Chronicle start moves)
    (permitted : (start.run moves).Permits move) : Chronicle start (moves ++ [move]) := by
  have persists := perform_persists (start.run moves) move
  have ran : start.run (moves ++ [move]) = (start.run moves).perform move := run_append _ _ _
  refine ⟨?_, ?_, fun place later present => ?_, fun place absent => ?_, fun stream outside => ?_⟩
  · rw [ran]
    exact perform_tended chronicle.tended permitted
  · rw [ran, (perform_reaches (start.run moves) move).length]
    exact chronicle.limited
  · rw [ran] at present ⊢
    rw [gather_concat, gather_concat, collect_concat]
    by_cases heard : ∃ index, move = .turn index ∧ (start.run moves).heardBy index = some place
    · rcases heard with ⟨index, rfl, hears⟩
      rcases heardBy_eq_some.mp hears with ⟨state, foundTask, unfinished, -, task⟩
      rcases chronicle.tended.present index state place foundTask (by rw [task]; rfl) with
        ⟨watched, found, -⟩
      have hearing := turn_hearing chronicle.tended chronicle.limited found hears
      rw [newsIn_of_heard chronicle.tended chronicle.limited found hears]
      rcases persists.watches place watched found with ⟨same, foundLater, -, -, stream⟩
      rw [present, Option.some.injEq] at foundLater
      rw [← foundLater] at stream
      rw [stream]
      exact (chronicle.logged place watched found).of_hearing
        ⟨index, state, foundTask, task, unfinished⟩ hearing present
    · have deaf (index : Nat) (turns : move = .turn index) :
          (start.run moves).heardBy index ≠ some place := fun hears =>
        heard ⟨index, turns, hears⟩
      have untouched := perform_untouched chronicle.tended permitted deaf
      rw [appliedIn_of_deaf deaf, newsIn_of_deaf deaf, List.append_nil, List.append_nil]
      cases found : (start.run moves).watches[place]? with
      | some watched =>
          have same := untouched.same watched found
          rw [present, Option.some.injEq] at same
          rw [same]
          exact (chronicle.logged place watched found).of_untouched found untouched
      | none =>
          have opened := persists.begun place later found present
          have unsent : start.collect (sentIn later.stream) moves = [] :=
            chronicle.unopened later.stream opened
          rw [(chronicle.unbegun place found).1, (chronicle.unbegun place found).2, unsent,
            sentIn, unread_of_size_le opened]
          exact ⟨List.nil_prefix, fun _ => rfl, untouched.fresh later found present, rfl⟩
  · rw [ran] at absent
    have before : (start.run moves).watches[place]? = none := by
      cases found : (start.run moves).watches[place]? with
      | none => rfl
      | some watched =>
          rcases persists.watches place watched found with ⟨later, present, -⟩
          rw [absent] at present
          cases present
    have deaf (index : Nat) (_ : move = .turn index) :
        (start.run moves).heardBy index ≠ some place :=
      deaf_of_absent chronicle.tended before index
    rw [gather_concat, gather_concat, appliedIn_of_deaf deaf, newsIn_of_deaf deaf,
      (chronicle.unbegun place before).1, (chronicle.unbegun place before).2]
    exact ⟨rfl, rfl⟩
  · rw [ran] at outside
    rw [collect_concat, chronicle.unopened stream (Nat.le_trans persists.size outside), sentIn,
      unread_of_size_le outside, List.drop_nil, List.append_nil]

theorem chronicle_of_orderly (new : start.IsNew) (limited : 0 < start.limiters.length)
    (orderly : start.Orderly moves) : Chronicle start moves := by
  induction moves using List.reverseRecOn with
  | nil => exact .nil new limited
  | append_singleton moves move ih =>
      rw [orderly_append] at orderly
      exact (ih orderly.1).concat orderly.2.1

/-! ### The guarantees -/

variable {index : Nat} {state : TaskState} {feed : String} {context : Context}
  {deadline : Option Nat}

theorem isCancelled_of_run {context : Context} (cancelled : system.isCancelled context = true)
    (moves : List Move) : (system.run moves).isCancelled context = true := by
  simp only [isCancelled, Cancellation.isCancelled, Cancellation.tokenCancelled_iff] at cancelled ⊢
  exact (run_persists system moves).cancelled cancelled

/-- A listener applies and tells nothing when a context is cancelled that its watch depends on. -/
theorem Chronicle.silent_of_cancelled (chronicle : Chronicle start moves) {last : System}
    (persists : (start.run moves).Persists last) (present : last.watches[place]? = some watched)
    (above : watched.context.above = context.links)
    (cancelled : (start.run moves).isCancelled context = true ∨
      (start.run moves).isCancelled watched.context = true) (move : Move) :
    (start.run moves).appliedIn place move = [] ∧ (start.run moves).newsIn place move = [] := by
  by_cases heard : ∃ index, move = .turn index ∧ (start.run moves).heardBy index = some place
  · rcases heard with ⟨index, rfl, hears⟩
    rcases heardBy_eq_some.mp hears with ⟨state, found, unfinished, -, task⟩
    rcases chronicle.tended.present index state place found (by rw [task]; rfl) with
      ⟨earlier, foundEarlier, -⟩
    rcases persists.watches place earlier foundEarlier with ⟨later, foundLater, -, same, -⟩
    rw [present, Option.some.injEq] at foundLater
    rw [← foundLater] at same
    rcases chronicle.tended.bound index state place earlier found unfinished task foundEarlier with
      ⟨parent, parentAbove, binds⟩
    have stops : (start.run moves).isCancelled earlier.context = true := by
      rw [same] at above cancelled
      refine cancelled.elim (fun upper => ?_) id
      have sameToken := Context.token_of_links (parentAbove.symm.trans above)
      simp only [isCancelled, Cancellation.isCancelled, Cancellation.tokenCancelled_iff] at upper ⊢
      exact binds.cancelled chronicle.tended.rooted (sameToken ▸ upper)
    have nothing : (start.run moves).appliedIn place (.turn index) = [] := by
      simp [appliedIn, foundEarlier, stops]
    rw [newsIn_of_heard chronicle.tended chronicle.limited foundEarlier hears, nothing]
    exact ⟨rfl, rfl⟩
  · have deaf (index : Nat) (turns : move = .turn index) :
        (start.run moves).heardBy index ≠ some place := fun hears => heard ⟨index, turns, hears⟩
    exact ⟨appliedIn_of_deaf deaf, newsIn_of_deaf deaf⟩

/-- A registration is a barrier in every run. -/
theorem barrier_of_orderly (new : start.IsNew) (limited : 0 < start.limiters.length)
    (orderly : start.Orderly moves) (found : (start.run moves).tasks[index]? = some state)
    (task : state.task = .registration feed context (some (place, deadline))) :
    ∃ watched, (start.run moves).watches[place]? = some watched ∧
      Barrier start moves index context place watched := by
  have chronicle := chronicle_of_orderly new limited orderly
  rcases chronicle.tended.present index state place found (by rw [task]; rfl) with
    ⟨watched, present, suits⟩
  have above := (suits feed context (place, deadline) task).1
  have logged := chronicle.logged place watched present
  have earlier {early late : List Move} (split : moves = early ++ late) :
      Chronicle start early := by
    rw [split, orderly_append] at orderly
    exact chronicle_of_orderly new limited orderly.1
  refine ⟨watched, present, ?_⟩
  constructor
  case inOrder => exact logged.within
  case effective =>
    intro early other late split hears
    have before := earlier split
    rcases heardBy_eq_some.mp hears with ⟨listener, foundTask, -, -, listens⟩
    rcases before.tended.present other listener place foundTask (by rw [listens]; rfl) with
      ⟨earlierWatch, foundWatch, -⟩
    rw [run_append]
    exact (turn_hearing before.tended before.limited foundWatch hears).pool
  case stopped =>
    intro early late split cancelled
    have silent (middle : List Move) (move : Move) (rest : List Move)
        (same : late = middle ++ move :: rest) :
        ((start.run early).run middle).appliedIn place move = [] ∧
          ((start.run early).run middle).newsIn place move = [] := by
      have apart : moves = (early ++ middle) ++ move :: rest := by
        rw [split, same, List.append_assoc]
      have before := earlier apart
      have persists := run_persists (start.run (early ++ middle)) (move :: rest)
      rw [← run_append, ← apart] at persists
      rw [← run_append]
      refine before.silent_of_cancelled persists present above ?_ move
      rw [run_append]
      exact cancelled.imp (isCancelled_of_run · middle) (isCancelled_of_run · middle)
    exact ⟨gather_eq_nil fun middle move rest same => (silent middle move rest same).1,
      gather_eq_nil fun middle move rest same => (silent middle move rest same).2⟩
  case returned =>
    intro early late split answered
    have before := earlier split
    rcases Option.bind_eq_some_iff.mp answered with ⟨succeeded, foundSucceeded, outcome⟩
    have persists := run_persists (start.run early) late
    rw [← run_append, ← split] at persists
    have same := persists.ended index succeeded foundSucceeded (by rw [outcome]; rfl)
    rw [found, Option.some.injEq] at same
    subst same
    rcases before.tended.present index state place foundSucceeded (by rw [task]; rfl) with
      ⟨earlierWatch, foundWatch, earlierSuits⟩
    have synced := (earlierSuits feed context (place, deadline) task).2 outcome
    rw [(before.logged place earlierWatch foundWatch).synced, decide_eq_true_eq] at synced
    exact List.eq_append_cons_of_mem synced
  case unannounced =>
    intro none
    rw [logged.told, Watch.story_of_unsynced none]
  case announced =>
    intro replay pool rest split none
    rw [logged.told, split, Watch.story_of_mark none]
  case once =>
    rw [logged.told]
    exact Watch.story_once watched.feed false _

/-- A limiter, and a feed with something to tell before the mark and after it. -/
def withReplay : System :=
  { limiters := [{ pool := .full 2, next := "end" }]
    feeds :=
      [("jobs", .scripted
        { items :=
            [.event (.added (.running "a" "a") true), .synced,
              .event (.deleted (.running "a" "a")), .synced] })] }

/-- A registration in a context of its own, which then has to wait for the listener. -/
def registering : List Move :=
  [.elsewhere .createContext, .start (.registration "jobs" ⟨⟨0, 0⟩, []⟩ none), .turn 0, .turn 1,
    .turn 0]

theorem barrier_of_replay :
    (withReplay.run registering).outcome? 0 = some (.registered (.ok ())) ∧
      ∃ watched, (withReplay.run registering).watches[0]? = some watched ∧
        Barrier withReplay registering 0 ⟨⟨0, 0⟩, []⟩ 0 watched := by
  refine ⟨rfl, ?_⟩
  have new : withReplay.IsNew :=
    { tasks := rfl
      watches := rfl
      streams := rfl
      cancellation := rfl
      names := by decide
      unwatched := by simp [withReplay, Feed.held] }
  have found : (withReplay.run registering).tasks[0]? =
      some ⟨.registration "jobs" ⟨⟨0, 0⟩, []⟩ (some (0, none)), false,
        some (.registered (.ok ()))⟩ := rfl
  exact barrier_of_orderly new (by decide) (by decide +kernel) found rfl

/-- The first mark is announced between the two changes, and the second one is passed over. -/
example : (withReplay.gather (newsIn 0) registering).map
      (fun told => (told.2.kind, told.2.available)) =
    [(.resourceAdded, some 1), (.feedSynced, some 1), (.resourceDeleted, some 2)] := by
  decide +kernel

end Runs

end System

end Admission
