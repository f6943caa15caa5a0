import Admission.Proofs.Handles
import Admission.Proofs.Proceeding
import Mathlib.Algebra.GroupWithZero.Nat
import Mathlib.Algebra.Order.BigOperators.Group.List
import Mathlib.Algebra.Order.Group.Nat

/-!
# Who holds which contexts

A task that has not ended holds the contexts that it was started with; a registration and its
listener hold the context of their watch besides, and a feed holds the contexts of its watchers. All
of this is paid for by handles on the tokens of these contexts, so that no token of a context that
somebody still uses is lost.

Handles that are under way, neither given up nor taken over yet, are listed apart.
-/

namespace Admission

/-- The contexts that a task holds until it ends. -/
def Task.contexts (watches : Array Watch) : Task → List Context
  | .timer _ _ _ | .awaitStaleness _ => []
  | .awaitCancellation context | .acquisition context _ | .admission _ context _ => [context]
  | .registration _ context watch =>
      context :: ((watch.bind fun watch => watches[watch.1]?).map (·.context)).toList
  | .listening watch => (watches[watch]?.map (·.context)).toList

/-- The watch that a task registers or listens to. -/
def Task.watch? : Task → Option Nat
  | .registration _ _ watch => watch.map (·.1)
  | .listening watch => some watch
  | _ => none

/-- The tokens on which a task has handles. -/
def Task.tokens (watches : Array Watch) (task : Task) : List Nat :=
  (task.contexts watches).flatMap Context.tokens

def TaskState.held (watches : Array Watch) (state : TaskState) : List Nat :=
  if state.outcome.isSome then [] else state.task.tokens watches

/-- The tokens on which a feed has handles. -/
def Feed.held : Feed → List Nat
  | .memory feed => feed.watchers.flatMap (·.context.tokens)
  | .scripted _ => []

namespace System

/-- How many handles on a token the tasks and the feeds have. -/
def claims (system : System) (token : Nat) : Nat :=
  (system.tasks.toList.map fun state => (state.held system.watches).count token).sum +
    (system.feeds.map fun entry => entry.2.held.count token).sum

/-! ### Sums -/

section Sums

variable {Item : Type}

theorem sum_modify (measure : Item → Nat) {items : List Item} {index : Nat} {item : Item}
    (found : items[index]? = some item) (change : Item → Item) :
    ((items.modify index change).map measure).sum + measure item =
      (items.map measure).sum + measure (change item) := by
  induction items generalizing index with
  | nil => cases found
  | cons first rest ih =>
      cases index with
      | zero =>
          cases found
          simp only [List.modify_zero_cons, List.map_cons, List.sum_cons]
          omega
      | succ index =>
          have inner := ih found
          simp only [List.modify_succ_cons, List.map_cons, List.sum_cons]
          omega

theorem sum_setFeed (measure : Feed → Nat) {feeds : List (String × Feed)}
    (names : (feeds.map (·.1)).Nodup) {name : String} {old : Feed}
    (found : feeds.lookup name = some old) (new : Feed) :
    ((feeds.map fun entry => if entry.1 = name then (name, new) else entry).map
        fun entry => measure entry.2).sum + measure old =
      (feeds.map fun entry => measure entry.2).sum + measure new := by
  induction feeds with
  | nil => cases found
  | cons entry rest ih =>
      rcases entry with ⟨own, feed⟩
      rw [List.map_cons, List.nodup_cons] at names
      rcases names with ⟨absent, names⟩
      by_cases same : own = name
      · subst same
        rw [List.lookup_cons_self, Option.some.injEq] at found
        subst found
        have others :
            (rest.map fun entry => if entry.1 = own then (own, new) else entry) = rest := by
          refine (List.map_congr_left fun entry member => if_neg fun equal => ?_).trans
            (List.map_id' rest)
          exact absent (List.mem_map.mpr ⟨entry, member, equal⟩)
        simp only [List.map_cons, if_true, List.sum_cons, others]
        omega
      · have unequal : (name == own) = false := beq_eq_false_iff_ne.mpr (Ne.symm same)
        rw [List.lookup_cons, unequal] at found
        have inner := ih names found
        simp only [List.map_cons, same, if_false, List.sum_cons]
        omega

/-- Those who stay and those who leave make up all. -/
theorem count_flatMap_filter (tokens : Item → List Nat) (stays : Item → Bool) (items : List Item)
    (token : Nat) :
    (items.flatMap tokens).count token =
      ((items.filter stays).flatMap tokens).count token +
        ((items.filter fun item => !stays item).flatMap tokens).count token := by
  induction items with
  | nil => rfl
  | cons item rest ih =>
      cases decision : stays item <;>
        simp only [List.flatMap_cons, List.count_append, List.filter_cons, decision, Bool.not_true,
          Bool.not_false, Bool.false_eq_true, if_true, if_false, ih] <;>
        omega

end Sums

/-! ### What is kept up -/

end System

/-- A registration knows its watch, and has succeeded only if the watch is synced. -/
def TaskState.Suits (state : TaskState) (watched : Watch) : Prop :=
  ∀ feed context watch, state.task = .registration feed context (some watch) →
    watched.context.above = context.links ∧
      (state.outcome = some (.registered (.ok ())) → watched.isSynced = true)

namespace System

/-- Every watch has a stream of its own and at most one listener, and whoever uses a watch finds
it. -/
structure Arranged (system : System) : Prop where
  present : ∀ (index : Nat) (state : TaskState) (watch : Nat), system.tasks[index]? = some state →
    state.task.watch? = some watch →
    ∃ watched, system.watches[watch]? = some watched ∧ state.Suits watched
  alone : ∀ (first second : Nat) (one two : TaskState) (watch : Nat),
    system.tasks[first]? = some one → system.tasks[second]? = some two →
    one.task = .listening watch → two.task = .listening watch → first = second
  streamed : ∀ (watch : Nat) (watched : Watch), system.watches[watch]? = some watched →
    watched.stream < system.streams.size
  apart : ∀ (first second : Nat) (one two : Watch), system.watches[first]? = some one →
    system.watches[second]? = some two → one.stream = two.stream → first = second

/-- All contexts that somebody uses are paid for, and what a listener listens to ends with the
context of the registration. -/
structure Tended (underWay : List Nat) (system : System) : Prop extends system.Arranged where
  names : (system.feeds.map (·.1)).Nodup
  rooted : system.cancellation.Rooted
  covered : ∀ token,
    system.claims token + underWay.count token ≤ system.cancellation.handles token
  bound : ∀ (index : Nat) (state : TaskState) (watch : Nat) (watched : Watch),
    system.tasks[index]? = some state → state.outcome = none → state.task = .listening watch →
    system.watches[watch]? = some watched → ∃ context : Context,
      watched.context.above = context.links ∧
        system.cancellation.Binds context.token watched.context.token

section Tasks

variable {system next : System} {index : Nat} {state : TaskState}

theorem Arranged.congr (arranged : system.Arranged) (tasks : next.tasks = system.tasks)
    (watches : next.watches = system.watches)
    (streams : system.streams.size ≤ next.streams.size) : next.Arranged where
  present := by
    rw [tasks, watches]
    exact arranged.present
  alone := by
    rw [tasks]
    exact arranged.alone
  streamed := by
    rw [watches]
    exact fun watch watched found =>
      Nat.lt_of_lt_of_le (arranged.streamed watch watched found) streams
  apart := by
    rw [watches]
    exact arranged.apart

/-- One task changes that becomes no listener. -/
theorem Arranged.of_modify (arranged : system.Arranged) (found : system.tasks[index]? = some state)
    (change : TaskState → TaskState) (tasks : next.tasks = system.tasks.modify index change)
    (watches : next.watches = system.watches) (streams : next.streams = system.streams)
    (listening : ∀ watch, (change state).task = .listening watch →
      state.task = .listening watch)
    (suits : ∀ watch, (change state).task.watch? = some watch →
      ∃ watched, system.watches[watch]? = some watched ∧ (change state).Suits watched) :
    next.Arranged where
  present := by
    intro other later used present uses
    rw [tasks, Array.getElem?_modify] at present
    rw [watches]
    split at present
    · rename_i same
      subst same
      rw [found, Option.map_some, Option.some.injEq] at present
      subst present
      exact suits used uses
    · exact arranged.present other later used present uses
  alone := by
    have before (other : Nat) (later : TaskState) (used : Nat)
        (present : next.tasks[other]? = some later) (listens : later.task = .listening used) :
        ∃ earlier, system.tasks[other]? = some earlier ∧ earlier.task = .listening used := by
      rw [tasks, Array.getElem?_modify] at present
      split at present
      · rename_i same
        subst same
        rw [found, Option.map_some, Option.some.injEq] at present
        subst present
        exact ⟨state, found, listening used listens⟩
      · exact ⟨later, present, listens⟩
    intro first second one two used foundOne foundTwo listensOne listensTwo
    rcases before first one used foundOne listensOne with ⟨_, earlierOne, stillOne⟩
    rcases before second two used foundTwo listensTwo with ⟨_, earlierTwo, stillTwo⟩
    exact arranged.alone first second _ _ used earlierOne earlierTwo stillOne stillTwo
  streamed := by
    rw [watches, streams]
    exact arranged.streamed
  apart := by
    rw [watches]
    exact arranged.apart

/-- A task is started that is not the second listener of a watch. -/
theorem Arranged.of_push (arranged : system.Arranged) {task : Task}
    (tasks : next.tasks = system.tasks.push { task }) (watches : next.watches = system.watches)
    (streams : next.streams = system.streams)
    (suits : ∀ watch, task.watch? = some watch →
      ∃ watched, system.watches[watch]? = some watched ∧ TaskState.Suits { task } watched)
    (unheard : ∀ watch, task = .listening watch → ∀ (other : Nat) (state : TaskState),
      system.tasks[other]? = some state → state.task ≠ .listening watch) : next.Arranged where
  present := by
    intro other later used present uses
    rw [tasks, Array.getElem?_push] at present
    rw [watches]
    split at present
    · cases present
      exact suits used uses
    · exact arranged.present other later used present uses
  alone := by
    intro first second one two used foundOne foundTwo listensOne listensTwo
    rw [tasks, Array.getElem?_push] at foundOne foundTwo
    split at foundOne <;> split at foundTwo
    · rename_i last alsoLast
      exact last.trans alsoLast.symm
    · cases foundOne
      exact absurd listensTwo (unheard used listensOne second two foundTwo)
    · cases foundTwo
      exact absurd listensOne (unheard used listensTwo first one foundOne)
    · exact arranged.alone first second one two used foundOne foundTwo listensOne listensTwo
  streamed := by
    rw [watches, streams]
    exact arranged.streamed
  apart := by
    rw [watches]
    exact arranged.apart

/-- A listener changes what its watch has come to, and the stream of the watch. -/
theorem Arranged.of_attend (arranged : system.Arranged) {watch : Nat} {watched : Watch}
    (found : system.watches[watch]? = some watched) (update : Watch → Watch)
    (kept : (update watched).context = watched.context ∧ (update watched).stream = watched.stream)
    (synced : watched.isSynced = true → (update watched).isSynced = true)
    (tasks : next.tasks = system.tasks)
    (watches : next.watches = system.watches.modify watch update)
    (streams : next.streams.size = system.streams.size) : next.Arranged where
  present := by
    intro other later used present uses
    rw [tasks] at present
    rcases arranged.present other later used present uses with ⟨before, foundBefore, suits⟩
    rw [watches, Array.getElem?_modify, foundBefore]
    split
    · rename_i same
      subst same
      rw [found, Option.some.injEq] at foundBefore
      subst foundBefore
      refine ⟨update watched, rfl, fun feed context place task => ?_⟩
      rw [kept.1]
      exact (suits feed context place task).imp_right fun answers succeeded =>
        synced (answers succeeded)
    · exact ⟨before, rfl, suits⟩
  alone := by
    rw [tasks]
    exact arranged.alone
  streamed := by
    intro other later present
    rw [streams]
    rw [watches, Array.getElem?_modify] at present
    split at present
    · rename_i same
      subst same
      rw [found, Option.map_some, Option.some.injEq] at present
      subst present
      rw [kept.2]
      exact arranged.streamed watch watched found
    · exact arranged.streamed other later present
  apart := by
    have before (other : Nat) (later : Watch) (present : next.watches[other]? = some later) :
        ∃ earlier, system.watches[other]? = some earlier ∧ earlier.stream = later.stream := by
      rw [watches, Array.getElem?_modify] at present
      split at present
      · rename_i same
        subst same
        rw [found, Option.map_some, Option.some.injEq] at present
        subst present
        exact ⟨watched, found, kept.2.symm⟩
      · exact ⟨later, present, rfl⟩
    intro first second one two foundOne foundTwo same
    rcases before first one foundOne with ⟨_, earlierOne, sameOne⟩
    rcases before second two foundTwo with ⟨_, earlierTwo, sameTwo⟩
    exact arranged.apart first second _ _ earlierOne earlierTwo
      (sameOne.trans (same.trans sameTwo.symm))

end Tasks

/-! ### Claims -/

section Claims

variable {system next : System} {index : Nat} {state : TaskState}

theorem contexts_congr {watches later : Array Watch} {task : Task}
    (same : ∀ watch, task.watch? = some watch →
      later[watch]?.map (·.context) = watches[watch]?.map (·.context)) :
    task.contexts later = task.contexts watches := by
  cases task with
  | registration feed context watch =>
      cases watch with
      | none => rfl
      | some watch => simp only [Task.contexts, Option.bind_some, same watch.1 rfl]
  | listening watch => simp only [Task.contexts, same watch rfl]
  | _ => rfl

/-- What a task holds is claimed. -/
theorem held_le_claims (found : system.tasks[index]? = some state) (token : Nat) :
    (state.held system.watches).count token ≤ system.claims token := by
  have member : state ∈ system.tasks.toList := Array.mem_toList_iff.mpr
    (Array.mem_of_getElem? found)
  have among : (state.held system.watches).count token ∈
      system.tasks.toList.map fun state => (state.held system.watches).count token :=
    List.mem_map_of_mem member
  exact Nat.le_trans (List.le_sum_of_mem among) (Nat.le_add_right _ _)

theorem claims_congr (system next : System) (tasks : next.tasks = system.tasks)
    (feeds : next.feeds = system.feeds)
    (contexts : ∀ (index : Nat) (state : TaskState) (watch : Nat),
      system.tasks[index]? = some state → state.task.watch? = some watch →
      next.watches[watch]?.map (·.context) = system.watches[watch]?.map (·.context))
    (token : Nat) : next.claims token = system.claims token := by
  simp only [claims, tasks, feeds]
  refine congrArg (fun listed => List.sum listed + _) (List.map_congr_left fun state member => ?_)
  rcases Array.mem_iff_getElem?.mp (Array.mem_toList_iff.mp member) with ⟨index, found⟩
  simp only [TaskState.held, Task.tokens, contexts_congr (contexts index state · found)]

theorem claims_of_modify (next : System) (found : system.tasks[index]? = some state)
    (change : TaskState → TaskState) (tasks : next.tasks = system.tasks.modify index change)
    (watches : next.watches = system.watches) (feeds : next.feeds = system.feeds) (token : Nat) :
    next.claims token + (state.held system.watches).count token =
      system.claims token + ((change state).held system.watches).count token := by
  have listed : system.tasks.toList[index]? = some state := by rw [Array.getElem?_toList, found]
  have changed := sum_modify (fun state => (state.held system.watches).count token) listed change
  simp only [claims, tasks, watches, feeds, Array.toList_modify]
  omega

theorem claims_of_push {task : Task} (tasks : next.tasks = system.tasks.push { task })
    (watches : next.watches = system.watches) (feeds : next.feeds = system.feeds) (token : Nat) :
    next.claims token = system.claims token + (task.tokens system.watches).count token := by
  simp only [claims, tasks, watches, feeds, Array.toList_push, List.map_append, List.sum_append,
    List.map_cons, List.map_nil, List.sum_cons, List.sum_nil, TaskState.held, Option.isSome_none,
    Bool.false_eq_true, if_false]
  omega

theorem claims_of_setFeed (names : (system.feeds.map (·.1)).Nodup) {name : String} {old : Feed}
    (found : system.feeds.lookup name = some old) (new : Feed) (token : Nat) :
    (system.setFeed name new).claims token + old.held.count token =
      system.claims token + new.held.count token := by
  have changed := sum_setFeed (fun feed => feed.held.count token) names found new
  simp only [claims, setFeed]
  omega

theorem setFeed_names (system : System) (name : String) (feed : Feed) :
    (system.setFeed name feed).feeds.map (·.1) = system.feeds.map (·.1) := by
  simp only [setFeed, List.map_map]
  refine List.map_congr_left fun entry _ => ?_
  simp only [Function.comp_apply]
  split
  · rename_i same
    exact same.symm
  · rfl

end Claims

/-! ### Handles that change hands -/

section Handles

variable {system next : System} {underWay : List Nat} {index : Nat} {state : TaskState}
  {context : Context}

theorem Tended.of_eq (tended : system.Tended underWay) (tasks : next.tasks = system.tasks)
    (watches : next.watches = system.watches) (feeds : next.feeds = system.feeds)
    (streams : system.streams.size ≤ next.streams.size)
    (cancellation : next.cancellation = system.cancellation) : next.Tended underWay where
  toArranged := tended.toArranged.congr tasks watches streams
  names := by
    rw [feeds]
    exact tended.names
  rooted := by
    rw [cancellation]
    exact tended.rooted
  covered := by
    intro token
    rw [cancellation, claims_congr system next tasks feeds fun _ _ _ _ _ => by rw [watches]]
    exact tended.covered token
  bound := by
    rw [tasks, watches, cancellation]
    exact tended.bound

theorem Tended.congr (tended : system.Tended underWay) (same : system.SameWork next) :
    next.Tended underWay :=
  tended.of_eq same.tasks same.watches same.feeds (by simp [same.streams]) same.cancellation

theorem Tended.of_le (tended : system.Tended underWay) {fewer : List Nat}
    (fewerTokens : ∀ token, fewer.count token ≤ underWay.count token) : system.Tended fewer where
  toArranged := tended.toArranged
  names := tended.names
  rooted := tended.rooted
  covered := fun token =>
    Nat.le_trans (Nat.add_le_add_left (fewerTokens token) _) (tended.covered token)
  bound := tended.bound

/-- Contexts are made or held, and nothing is given up. -/
theorem Tended.of_extends (tended : system.Tended underWay) {more : List Nat}
    (tasks : next.tasks = system.tasks) (watches : next.watches = system.watches)
    (feeds : next.feeds = system.feeds) (streams : next.streams = system.streams)
    (extended : system.cancellation.Extends next.cancellation)
    (provided : ∀ token, system.cancellation.handles token + more.count token ≤
      next.cancellation.handles token) : next.Tended (more ++ underWay) where
  toArranged := tended.toArranged.congr tasks watches (by simp [streams])
  names := by
    rw [feeds]
    exact tended.names
  rooted := extended.rooted
  covered := by
    intro token
    have before := tended.covered token
    have after := provided token
    rw [claims_congr system next tasks feeds fun _ _ _ _ _ => by rw [watches], List.count_append]
    omega
  bound := by
    rw [tasks, watches]
    intro index state watch watched found unfinished listens present
    rcases tended.bound index state watch watched found unfinished listens present with
      ⟨context, above, binds⟩
    exact ⟨context, above, extended.binds _ _ binds⟩

theorem Tended.holds (tended : system.Tended underWay) {token : Nat} (underway : token ∈ underWay) :
    0 < system.cancellation.handles token := by
  have covered := tended.covered token
  have counted := List.count_pos_iff.mpr underway
  omega

theorem Tended.holds_of_found (tended : system.Tended underWay)
    (found : system.tasks[index]? = some state) {token : Nat}
    (held : token ∈ state.held system.watches) : 0 < system.cancellation.handles token := by
  have covered := tended.covered token
  have claimed := held_le_claims found token
  have counted := List.count_pos_iff.mpr held
  omega

theorem Tended.holdContext (tended : system.Tended underWay)
    (holds : system.cancellation.Holds context) :
    (system.holdContext context).Tended (context.tokens ++ underWay) := by
  have provides := tended.rooted.clone holds
  exact tended.of_extends rfl rfl rfl rfl provides.toExtends provides.provided

/-- The tokens that keep what a listener listens to bound. -/
theorem mem_held_of_listening {watch : Nat} {watched : Watch} (unfinished : state.outcome = none)
    (listens : state.task = .listening watch) (present : system.watches[watch]? = some watched)
    {token : Nat} (member : token ∈ watched.context.tokens) :
    token ∈ state.held system.watches := by
  simpa [TaskState.held, unfinished, Task.tokens, listens, Task.contexts, present] using member

theorem mem_tokens_of_above {other : Context} (above : other.above = context.links) :
    context.token ∈ other.tokens ∧ other.token ∈ other.tokens := by
  refine ⟨List.mem_map.mpr ⟨context.own, ?_, rfl⟩, List.mem_cons_self⟩
  rw [Context.links, above]
  exact List.mem_cons_of_mem _ List.mem_cons_self

/-- A handle that nobody claims any more is given up. -/
theorem Tended.dropContext (tended : system.Tended (context.tokens ++ underWay)) :
    (system.dropContext context).Tended underWay where
  toArranged := tended.toArranged.congr rfl rfl (Nat.le_refl _)
  names := tended.names
  rooted := tended.rooted.drop context
  covered := by
    intro token
    have before := tended.covered token
    rw [List.count_append] at before
    have same : (system.dropContext context).claims token = system.claims token :=
      claims_congr system _ rfl rfl (fun _ _ _ _ _ => rfl) token
    have dropped : (system.dropContext context).cancellation.handles token =
        system.cancellation.handles token - context.tokens.count token :=
      Cancellation.handles_drop context token
    omega
  bound := by
    intro index state watch watched (found : system.tasks[index]? = some state) unfinished listens
      (present : system.watches[watch]? = some watched)
    rcases tended.bound index state watch watched found unfinished listens present with
      ⟨parent, above, binds⟩
    have kept {token : Nat} (member : token ∈ watched.context.tokens) :
        0 < (system.cancellation.drop context).handles token := by
      have claimed := held_le_claims found token
      have counted := List.count_pos_iff.mpr
        (mem_held_of_listening unfinished listens present member)
      have before := tended.covered token
      rw [List.count_append] at before
      rw [Cancellation.handles_drop]
      omega
    have tokens := mem_tokens_of_above above
    exact ⟨parent, above, binds.drop tended.rooted context (kept tokens.1) (kept tokens.2)⟩

/-- One task changes, and takes over or leaves handles that are under way. -/
theorem Tended.of_modify (tended : system.Tended underWay) {after : List Nat}
    (found : system.tasks[index]? = some state) (change : TaskState → TaskState)
    (tasks : next.tasks = system.tasks.modify index change)
    (watches : next.watches = system.watches) (feeds : next.feeds = system.feeds)
    (streams : next.streams = system.streams)
    (cancellation : next.cancellation = system.cancellation)
    (listening : ∀ watch, (change state).task = .listening watch →
      state.task = .listening watch)
    (suits : ∀ watch, (change state).task.watch? = some watch →
      ∃ watched, system.watches[watch]? = some watched ∧ (change state).Suits watched)
    (covers : ∀ token, ((change state).held system.watches).count token + after.count token ≤
      (state.held system.watches).count token + underWay.count token)
    (still : (change state).outcome = none → state.outcome = none) : next.Tended after where
  toArranged := tended.toArranged.of_modify found change tasks watches streams listening suits
  names := by
    rw [feeds]
    exact tended.names
  rooted := by
    rw [cancellation]
    exact tended.rooted
  covered := by
    intro token
    have before := tended.covered token
    have moved := claims_of_modify next found change tasks watches feeds token
    have covered := covers token
    rw [cancellation]
    omega
  bound := by
    intro other later watch watched present unfinished listens foundWatch
    rw [watches] at foundWatch
    rw [cancellation]
    rw [tasks, Array.getElem?_modify] at present
    split at present
    · rename_i same
      subst same
      rw [found, Option.map_some, Option.some.injEq] at present
      subst present
      exact tended.bound index state watch watched found (still unfinished)
        (listening watch listens) foundWatch
    · exact tended.bound other later watch watched present unfinished listens foundWatch

/-- A task ends, and its handles are left to be given up. -/
theorem Tended.of_ended (tended : system.Tended underWay)
    (found : system.tasks[index]? = some state) (unfinished : state.outcome = none)
    (outcome : Outcome)
    (answers : outcome = .registered (.ok ()) → ∀ feed context watch deadline,
      state.task = .registration feed context (some (watch, deadline)) →
      ∃ watched, system.watches[watch]? = some watched ∧ watched.isSynced = true) :
    ({ system with
        tasks := system.tasks.modify index fun state =>
          { state with outcome := some outcome } } : System).Tended
      (state.task.tokens system.watches ++ underWay) := by
  refine tended.of_modify found (fun state => { state with outcome := some outcome })
    rfl rfl rfl rfl rfl (fun _ listens => listens) ?_ ?_ nofun
  · intro watch uses
    rcases tended.present index state watch found uses with ⟨watched, present, suits⟩
    refine ⟨watched, present, fun feed context place task => ?_⟩
    refine ⟨(suits feed context place task).1, fun succeeded => ?_⟩
    rcases answers (Option.some.inj succeeded) feed context place.1 place.2 task with
      ⟨other, foundOther, synced⟩
    have same : place.1 = watch := by
      simpa [Task.watch?, show state.task = _ from task] using uses
    rw [same, present, Option.some.injEq] at foundOther
    rw [foundOther]
    exact synced
  · intro token
    simp [TaskState.held, unfinished]

theorem dropSignal_sameWork (system : System) (signal : Nat) :
    system.SameWork (system.dropSignal signal) := by
  constructor <;> simp

theorem Tended.releaseHoldings (task : Task)
    (tended : system.Tended (task.tokens system.watches ++ underWay)) :
    (system.releaseHoldings task).Tended underWay := by
  have single {used : System} {context : Context}
      (tended : used.Tended ([context].flatMap Context.tokens ++ underWay)) :
      (used.dropContext context).Tended underWay := by
    refine Tended.dropContext ?_
    simpa using tended
  cases task with
  | timer signal delay deadline => exact tended
  | awaitCancellation context => exact single tended
  | awaitStaleness signal => exact tended.congr (dropSignal_sameWork system signal)
  | acquisition context signal => exact single (tended.congr (dropSignal_sameWork system signal))
  | admission job context stage =>
      exact single (tended.congr (dropSignal_sameWork system job.signal))
  | registration feed context watch =>
      simp only [System.releaseHoldings]
      simp only [Task.tokens, Task.contexts] at tended
      cases present : watch.bind fun watch => system.watches[watch.1]? with
      | none =>
          rw [present] at tended
          exact single tended
      | some watched =>
          rw [present] at tended
          refine Tended.dropContext (Tended.dropContext (tended.of_le fun token => ?_))
          simp only [Option.map_some, Option.toList_some, List.flatMap_cons, List.flatMap_nil,
            List.append_nil, List.count_append]
          omega
  | listening watch =>
      simp only [System.releaseHoldings]
      simp only [Task.tokens, Task.contexts] at tended
      cases present : system.watches[watch]? with
      | none =>
          rw [present] at tended
          exact tended
      | some watched =>
          rw [present] at tended
          exact single tended

theorem Tended.finish (tended : system.Tended underWay)
    (found : system.tasks[index]? = some state) (unfinished : state.outcome = none)
    (outcome : Outcome)
    (answers : outcome = .registered (.ok ()) → ∀ feed context watch deadline,
      state.task = .registration feed context (some (watch, deadline)) →
      ∃ watched, system.watches[watch]? = some watched ∧ watched.isSynced = true) :
    (system.finish index outcome).Tended underWay := by
  simp only [System.finish, found]
  refine Tended.releaseHoldings state.task ?_
  have ended := tended.of_ended found unfinished outcome answers
  rw [(note_frame _ _).2.2.1]
  exact ended.congr (note_sameWork _ _)

end Handles

end System

end Admission
