import Admission.Proofs.Holdings

/-!
# Custody of contexts

Whatever a task does, the contexts that tasks and feeds use stay paid for: a task that ends gives up
its own handles and no others, a feed gives up those of the watchers that it forgets, and a
registration makes a context of its own for its watch. The same is true of whatever happens outside,
as long as nobody there uses a context without a handle on it, gives up the handle of somebody else,
or reads what a listener is to read.
-/

namespace Admission

namespace System

section Parts

variable {system next : System} {underWay : List Nat} {index : Nat} {state : TaskState}
  {context : Context}

/-! ### Feeds -/

/-- A feed changes, and takes over or leaves handles that are under way. -/
theorem Tended.setFeed (tended : system.Tended underWay) {after : List Nat} {name : String}
    {old : Feed} (found : system.feeds.lookup name = some old) (new : Feed)
    (covers : ∀ token, new.held.count token + after.count token ≤
      old.held.count token + underWay.count token) : (system.setFeed name new).Tended after where
  toArranged := tended.toArranged.congr rfl rfl (Nat.le_refl _)
  names := by
    rw [setFeed_names]
    exact tended.names
  rooted := tended.rooted
  covered := by
    intro token
    have before := tended.covered token
    have moved := claims_of_setFeed tended.names found new token
    have covered := covers token
    change _ ≤ system.cancellation.handles token
    omega
  bound := tended.bound

theorem Tended.tellStream (tended : system.Tended underWay) (stream : Nat)
    (change : Stream → Stream) : (system.tellStream stream change).Tended underWay :=
  tended.of_eq (by simp) (by simp) (by simp) (by simp) (by simp)

theorem Tended.tellStreams (tended : system.Tended underWay) (streams : List Nat)
    (change : Stream → Stream) :
    (streams.foldl (fun system stream => system.tellStream stream change) system).Tended
      underWay :=
  List.foldlRecOn (motive := fun system : System => system.Tended underWay) streams _ tended
    fun _ tended stream _ => tended.tellStream stream change

/-- A feed passes a change on, and the handles of the watchers that it gives up are given up. -/
theorem Tended.deliver (broadcast : Broadcast)
    (tended : system.Tended (broadcast.givenUp.flatMap (·.context.tokens) ++ underWay)) :
    (system.deliver broadcast).Tended underWay := by
  have left : (broadcast.givenUp.foldl (fun system watcher =>
      (system.tellStream watcher.stream Stream.endWriting).dropContext watcher.context)
        system).Tended underWay := by
    generalize broadcast.givenUp = givenUp at tended ⊢
    induction givenUp generalizing system with
    | nil => exact tended
    | cons watcher rest ih =>
        rw [List.flatMap_cons, List.append_assoc] at tended
        exact ih (tended.tellStream watcher.stream Stream.endWriting).dropContext
  exact List.foldlRecOn (motive := fun system : System => system.Tended underWay) broadcast.told _
    left fun _ tended entry _ => tended.tellStream entry.1.stream _

theorem lookup_of_memoryFeed? {name : String} {feed : MemoryFeed}
    (found : system.memoryFeed? name = some feed) :
    system.feeds.lookup name = some (.memory feed) := by
  simp only [memoryFeed?] at found
  split at found
  · rename_i present
    cases found
    exact present
  · cases found

/-- A feed in memory tells its watchers of a change. -/
theorem Tended.broadcast (tended : system.Tended underWay) {name : String} {feed : MemoryFeed}
    (found : system.memoryFeed? name = some feed) (resources : List JobResource)
    (change : ResourceEvent) :
    ((system.setFeed name (.memory
      ({ feed with resources }.broadcast system.isLive change).1)).deliver
        ({ feed with resources }.broadcast system.isLive change).2).Tended underWay := by
  refine Tended.deliver _ (tended.setFeed (lookup_of_memoryFeed? found) _ fun token => ?_)
  have split := count_flatMap_filter (·.context.tokens) system.isLive feed.watchers token
  simp only [MemoryFeed.broadcast, Feed.held, List.count_append]
  omega

theorem Tended.applyResource (tended : system.Tended underWay) (name : String)
    (resource : JobResource) : (system.applyResource name resource).Tended underWay := by
  simp only [System.applyResource]
  split
  · rename_i feed found
    exact tended.broadcast found _ _
  · exact tended

theorem Tended.deleteResource (tended : system.Tended underWay) (name uid : String) :
    (system.deleteResource name uid).1.Tended underWay := by
  simp only [System.deleteResource]
  split
  · rename_i feed found
    simp only [MemoryFeed.delete]
    split
    · exact Tended.deliver {} (tended.setFeed (lookup_of_memoryFeed? found) _ fun token =>
        Nat.le_refl _)
    · exact tended.broadcast found _ _
  · exact tended

theorem Tended.injectChange (tended : system.Tended underWay) (name : String)
    (change : ResourceEvent) : (system.injectChange name change).Tended underWay := by
  simp only [System.injectChange]
  split
  · rename_i feed found
    exact tended.broadcast found feed.resources change
  · exact tended

theorem Tended.sendItem (tended : system.Tended underWay) (name : String) (item : FeedItem) :
    (system.sendItem name item).1.Tended underWay := by
  simp only [System.sendItem]
  split
  · exact tended.tellStreams _ _
  · exact tended

theorem Tended.closeFeed (tended : system.Tended underWay) (name : String) :
    (system.closeFeed name).Tended underWay := by
  simp only [System.closeFeed]
  split
  · rename_i feed found
    have forgotten := tended.setFeed found (.scripted { feed with streams := [] })
      fun token => Nat.le_refl _
    exact forgotten.tellStreams _ _
  · exact tended

/-- What it is to start a watch: a feed in memory takes a handle on the context. -/
theorem Tended.watchFeed (tended : system.Tended underWay) (name : String)
    (holds : system.cancellation.Holds context) :
    (system.watchFeed name context).1.Tended underWay := by
  simp only [System.watchFeed]
  have opened (stream : Stream) : (system.newStream stream).1.Tended underWay :=
    tended.of_eq rfl rfl rfl (by simp [newStream]) rfl
  split
  · exact tended
  · rename_i feed found
    have held : ((system.newStream { items := feed.replay }).1.holdContext context).Tended
        (context.tokens ++ underWay) := (opened _).holdContext holds
    refine held.setFeed found _ fun token => ?_
    simp only [Feed.held, MemoryFeed.addWatcher, List.flatMap_append, List.count_append,
      List.flatMap_cons, List.flatMap_nil, List.append_nil]
    omega
  · rename_i feed found
    split
    · exact tended
    · exact (opened _).setFeed found _ fun token => Nat.le_refl _

theorem watchFeed_extends (rooted : system.cancellation.Rooted) (name : String)
    (holds : system.cancellation.Holds context) :
    system.cancellation.Extends (system.watchFeed name context).1.cancellation := by
  have unchanged := Cancellation.Extends.refl rooted
  simp only [System.watchFeed]
  split
  · exact unchanged
  · exact (rooted.clone holds).toExtends
  · split
    · exact unchanged
    · exact unchanged

theorem watchFeed_stream {name own : String} {stream : Nat}
    (watching : system.watchFeed name context = (next, .ok (own, stream))) :
    stream = system.streams.size ∧ next.streams.size = system.streams.size + 1 := by
  simp only [System.watchFeed] at watching
  split at watching
  · cases watching
  · cases watching
    simp [newStream]
  · split at watching
    · cases watching
    · cases watching
      simp [newStream]

/-! ### Watches and tasks -/

theorem Tended.attend (tended : system.Tended underWay) {watch : Nat} {watched : Watch}
    (present : system.watches[watch]? = some watched) (update : Watch → Watch)
    (kept : (update watched).context = watched.context ∧ (update watched).stream = watched.stream)
    (synced : watched.isSynced = true → (update watched).isSynced = true)
    (tasks : next.tasks = system.tasks) (feeds : next.feeds = system.feeds)
    (cancellation : next.cancellation = system.cancellation)
    (streams : next.streams.size = system.streams.size)
    (watches : next.watches = system.watches.modify watch update) : next.Tended underWay := by
  have before (other : Nat) : next.watches[other]?.map (·.context) =
      system.watches[other]?.map (·.context) := by
    rw [watches, Array.getElem?_modify]
    split
    · rename_i same
      rw [← same, present, Option.map_some, Option.map_some, Option.map_some, kept.1]
    · rfl
  have arranged := tended.toArranged.of_attend present update kept synced tasks watches streams
  refine ⟨arranged, ?_, ?_, ?_, ?_⟩
  · rw [feeds]
    exact tended.names
  · rw [cancellation]
    exact tended.rooted
  · intro token
    rw [cancellation, claims_congr system next tasks feeds fun _ _ other _ _ => before other]
    exact tended.covered token
  · rw [tasks, cancellation]
    intro other later used after found unfinished listens foundAfter
    have same := before used
    rw [foundAfter, Option.map_some] at same
    rcases Option.map_eq_some_iff.mp same.symm with ⟨earlier, foundEarlier, context⟩
    rw [← context]
    exact tended.bound other later used earlier found unfinished listens foundEarlier

/-- A watch is added that nobody uses yet. -/
theorem Tended.pushWatch (tended : system.Tended underWay) (watch : Watch)
    (inside : watch.stream < system.streams.size)
    (apart : ∀ (other : Nat) (watched : Watch), system.watches[other]? = some watched →
      watched.stream ≠ watch.stream) :
    ({ system with watches := system.watches.push watch } : System).Tended underWay := by
  have known {other : Nat} {watched : Watch} (present : system.watches[other]? = some watched) :
      (system.watches.push watch)[other]? = some watched := by
    have before := (Array.getElem?_eq_some_iff.mp present).1
    rw [Array.getElem?_push, if_neg (Nat.ne_of_lt before), present]
  refine ⟨⟨?_, tended.alone, ?_, ?_⟩, tended.names, tended.rooted, ?_, ?_⟩
  · intro other later used found uses
    rcases tended.present other later used found uses with ⟨watched, present, suits⟩
    exact ⟨watched, known present, suits⟩
  · intro other later present
    rw [Array.getElem?_push] at present
    split at present
    · cases present
      exact inside
    · exact tended.streamed other later present
  · intro first second one two foundOne foundTwo same
    rw [Array.getElem?_push] at foundOne foundTwo
    split at foundOne <;> split at foundTwo
    · rename_i last alsoLast
      exact last.trans alsoLast.symm
    · cases foundOne
      exact absurd same.symm (apart second two foundTwo)
    · cases foundTwo
      exact absurd same (apart first one foundOne)
    · exact tended.apart first second one two foundOne foundTwo same
  · intro token
    have same : System.claims { system with watches := system.watches.push watch } token =
        system.claims token := by
      refine claims_congr system { system with watches := system.watches.push watch } rfl rfl
        (fun other later used found uses => ?_) token
      rcases tended.present other later used found uses with ⟨watched, present, -⟩
      rw [known present, present]
    rw [same]
    exact tended.covered token
  · intro other later used watched found unfinished listens present
    rcases tended.present other later used found (by rw [listens]; rfl) with
      ⟨before, foundBefore, -⟩
    rw [known foundBefore, Option.some.injEq] at present
    rw [← present]
    exact tended.bound other later used before found unfinished listens foundBefore

/-- A task is started that takes over the handles on its contexts. -/
theorem Tended.spawn (task : Task)
    (tended : system.Tended (task.tokens system.watches ++ underWay))
    (suits : ∀ watch, task.watch? = some watch →
      ∃ watched, system.watches[watch]? = some watched ∧ TaskState.Suits { task } watched)
    (unheard : ∀ watch, task = .listening watch → ∀ (other : Nat) (state : TaskState),
      system.tasks[other]? = some state → state.task ≠ .listening watch)
    (bound : ∀ (watch : Nat) (watched : Watch), task = .listening watch →
      system.watches[watch]? = some watched → ∃ context : Context,
        watched.context.above = context.links ∧
          system.cancellation.Binds context.token watched.context.token) :
    (system.spawn task).1.Tended underWay where
  toArranged := tended.toArranged.of_push (by simp) (by simp) (by simp) suits unheard
  names := by simpa using tended.names
  rooted := by simpa using tended.rooted
  covered := by
    intro token
    have before := tended.covered token
    have pushed := claims_of_push (spawn_frame system task).2.1 (by simp) (by simp) token
    rw [List.count_append] at before
    rw [(spawn_frame system task).2.2.2.2.2.1]
    omega
  bound := by
    intro other later watch watched found unfinished listens present
    simp only [spawn_frame] at found present ⊢
    rw [Array.getElem?_push] at found
    split at found
    · cases found
      exact bound watch watched listens present
    · exact tended.bound other later watch watched found unfinished listens present

/-- A timer or a job goes on. -/
theorem Tended.goOn (tended : system.Tended underWay) (found : system.tasks[index]? = some state)
    {task : Task} (advances : state.task.Advances task)
    (unregistered : state.task.isRegistration = false) :
    (system.setTask index task).Tended underWay := by
  have same : task.contexts system.watches = state.task.contexts system.watches ∧
      task.watch? = state.task.watch? ∧
      (∀ watch, task = .listening watch → state.task = .listening watch) ∧
      task.isRegistration = false := by
    rw [← advances.isRegistration_eq] at unregistered
    generalize state.task = before at advances
    refine ⟨?_, ?_, fun watch listens => ?_, unregistered⟩
    · cases advances <;> first | rfl | cases unregistered
    · cases advances <;> first | rfl | cases unregistered
    · cases advances <;> first | exact listens | cases listens
  refine tended.of_modify found (fun state => { state with task }) rfl rfl rfl rfl rfl same.2.2.1 ?_
    ?_ id
  · intro watch uses
    rcases tended.present index state watch found (same.2.1 ▸ uses) with ⟨watched, present, -⟩
    refine ⟨watched, present, fun feed context place registers => ?_⟩
    rw [show task = .registration feed context (some place) from registers] at same
    cases same.2.2.2
  · intro token
    simp [TaskState.held, Task.tokens, same.1]

theorem Tended.abort (tended : system.Tended underWay) (index : Nat) :
    (system.abort index).Tended underWay := by
  rcases abort_cases system index with same | ⟨state, found, unfinished, tasks⟩
  · rw [same]
    exact tended
  · exact tended.of_modify found (fun state => { state with isAborted := true }) tasks (by simp)
      (by simp) (by simp) (by simp) (fun _ listens => listens)
      (fun watch uses => tended.present index state watch found uses) (fun _ => Nat.le_refl _) id

/-- A registration takes over a watch. -/
theorem Tended.setWatch {watch : Nat} {watched : Watch}
    (tended : system.Tended (watched.context.tokens ++ underWay))
    (found : system.tasks[index]? = some state) (unfinished : state.outcome = none) {feed : String}
    (task : state.task = .registration feed context none)
    (present : system.watches[watch]? = some watched)
    (above : watched.context.above = context.links) (deadline : Option Nat) :
    (system.setTask index (.registration feed context (some (watch, deadline)))).Tended
      underWay := by
  refine tended.of_modify found
    (fun state => { state with task := .registration feed context (some (watch, deadline)) })
    rfl rfl rfl rfl rfl nofun ?_ ?_ id
  · intro other uses
    cases uses
    refine ⟨watched, present, fun feed context place registers => ?_⟩
    cases registers
    exact ⟨above, fun succeeded => by cases unfinished.symm.trans succeeded⟩
  · intro token
    simp only [TaskState.held, unfinished, task, Option.isSome_none, Bool.false_eq_true, if_false,
      Task.tokens, Task.contexts, Option.bind_none, Option.bind_some, Option.map_none, present,
      Option.map_some, Option.toList_none, Option.toList_some, List.flatMap_cons, List.flatMap_nil,
      List.append_nil, List.count_append]
    omega

/-- A registration begins its watch, with a context of its own for it. -/
theorem Tended.withListener {watch : Watch}
    (tended : system.Tended (watch.context.tokens ++ underWay))
    (found : system.tasks[index]? = some state) (unfinished : state.outcome = none) {feed : String}
    (task : state.task = .registration feed context none)
    (above : watch.context.above = context.links)
    (binds : system.cancellation.Binds context.token watch.context.token)
    (inside : watch.stream < system.streams.size)
    (apart : ∀ (other : Nat) (watched : Watch), system.watches[other]? = some watched →
      watched.stream ≠ watch.stream) (deadline : Option Nat) :
    (system.withListener index feed context watch deadline).Tended underWay := by
  have last : (system.watches.push watch)[system.watches.size]? = some watch := by simp
  have holds : system.cancellation.Holds watch.context := fun token member =>
    tended.holds (List.mem_append_left _ member)
  have registered : (({ system with watches := system.watches.push watch }.holdContext
      watch.context).setTask index (.registration feed context
        (some (system.watches.size, deadline)))).Tended (watch.context.tokens ++ underWay) :=
    ((tended.pushWatch watch inside apart).holdContext holds).setWatch found unfinished task last
      above deadline
  refine Tended.spawn (.listening system.watches.size) ?_ ?_ ?_ ?_
  · simpa [Task.tokens, Task.contexts, holdContext] using registered
  · intro place uses
    cases uses
    exact ⟨watch, last, fun _ _ _ registers => by cases registers⟩
  · intro place listens other later present stillListens
    cases listens
    have before : system.tasks[other]? = some later := by
      simp only [setTask_frame, holdContext_frame, Array.getElem?_modify] at present
      split at present
      · rename_i same
        rw [← same, found, Option.map_some, Option.some.injEq] at present
        rw [← present] at stillListens
        cases stillListens
      · exact present
    rcases tended.present other later system.watches.size before (by rw [stillListens]; rfl) with
      ⟨watched, inside, -⟩
    exact Nat.lt_irrefl _ (Array.getElem?_eq_some_iff.mp inside).1
  · intro place watched listens present
    cases listens
    have same : watched = watch := Option.some.inj (present.symm.trans last)
    rw [same]
    exact ⟨context, above, (tended.rooted.clone holds).binds _ _ binds⟩

theorem Tended.cancel (tended : system.Tended underWay) (context : Context)
    (cause : Option String) : (system.cancel context cause).Tended underWay := by
  have extended : system.cancellation.Extends (system.cancel context cause).cancellation := by
    rw [cancel_cancellation]
    exact tended.rooted.cancel context cause
  have kept : (system.cancel context cause).Tended ([] ++ underWay) :=
    tended.of_extends (by simp) (by simp) (by simp) (by simp) extended extended.handles
  exact kept

/-- A context is made of which all handles are under way. -/
theorem Tended.ofProvides (tended : system.Tended underWay) {cancellation : Cancellation}
    (provides : system.cancellation.Provides cancellation context) :
    ({ system with cancellation } : System).Tended (context.tokens ++ underWay) :=
  tended.of_extends rfl rfl rfl rfl provides.toExtends provides.provided

/-- The context of a registration is held until the registration ends. -/
theorem Tended.holds_registration (tended : system.Tended underWay)
    (found : system.tasks[index]? = some state) (unfinished : state.outcome = none) {feed : String}
    {watch : Option (Nat × Option Nat)} (task : state.task = .registration feed context watch) :
    system.cancellation.Holds context := by
  refine fun token member => tended.holds_of_found found ?_
  simp only [TaskState.held, unfinished, Option.isSome_none, Bool.false_eq_true, if_false,
    Task.tokens, task, Task.contexts, List.flatMap_cons]
  exact List.mem_append_left _ member

/-- What a task does keeps all contexts in custody that somebody uses. -/
theorem Proceeds.tended (proceeds : Proceeds index system next) (tended : system.Tended underWay) :
    next.Tended underWay := by
  induction proceeds with
  | unchanged => exact tended
  | same _ same before => exact before.congr same
  | finish _ found unfinished outcome answers before =>
      exact before.finish found unfinished outcome answers
  | goOn _ found _ advances unregistered before => exact before.goOn found advances unregistered
  | applyResource _ name resource before => exact before.applyResource name resource
  | cancel _ context cause before => exact before.cancel context cause
  | attend _ _ _ _ present update kept synced change tasks feeds cancellation streams watches
      before =>
      exact before.attend present update kept.2 synced tasks feeds cancellation
        (by simp [streams]) watches
  | @refuse used after state feed context error _ found unfinished task watching before =>
      have provides := (before.rooted.child (before.holds_registration found unfinished task)).1
      have child := before.ofProvides provides
      have opened := child.watchFeed feed fun token member =>
        child.holds (List.mem_append_left _ member)
      rw [watching] at opened
      exact opened.dropContext
  | @begin used after state feed name context stream _ found unfinished task watching deadline
      before =>
      rcases before.rooted.child (before.holds_registration found unfinished task) with
        ⟨provides, above, binds⟩
      have child := before.ofProvides provides
      have holds : (used.cancellation.child context).1.Holds (used.cancellation.child context).2 :=
        fun token member => child.holds (List.mem_append_left _ member)
      have opened := child.watchFeed feed holds
      have extended := watchFeed_extends child.rooted feed holds
      have kept := watchChild_frame watching
      have streams := watchFeed_stream watching
      rw [watching] at opened extended
      refine opened.withListener (by rw [kept.1, found]) unfinished task above
        (extended.binds _ _ binds) ?_ ?_ deadline
      · rw [streams.2]
        exact Nat.lt_of_le_of_lt (Nat.le_of_eq streams.1) (Nat.lt_succ_self _)
      · intro other watched present
        rw [kept.2] at present
        have inside := before.streamed other watched present
        exact fun same => Nat.ne_of_lt inside (same.trans streams.1)

end Parts

/-! ### What may happen -/

/-- Somebody outside has handles on some tokens: nobody else claims all that there are. -/
def HasSpare (system : System) (tokens : List Nat) : Prop :=
  ∀ token ∈ tokens, system.claims token + tokens.count token ≤ system.cancellation.handles token

/-- What may happen outside: nobody uses a context without a handle on it, gives up the handle of
somebody else, or reads what a listener is to read. -/
def AllowsUse (system : System) : Happening → Prop
  | .deriveContext context | .wrapToken context | .wrapChildToken context | .holdContext context
  | .watchFeed _ context => system.cancellation.Holds context
  | .dropContext context => system.HasSpare context.tokens
  | .readStream stream | .dropReader stream => ∀ watch ∈ system.watches, watch.stream ≠ stream
  | _ => True

/-- What may be done: whoever starts a task hands over the contexts that it uses, and leaves its
watch to the task. -/
def Permits (system : System) : Move → Prop
  | .start task => task.watch? = none ∧ system.HasSpare (task.tokens system.watches)
  | .elsewhere happening => system.AllowsUse happening
  | _ => True

/-- Every move of a run is permitted where it is made. -/
def Orderly : System → List Move → Prop
  | _, [] => True
  | system, move :: rest => system.Permits move ∧ Orderly (system.perform move) rest

section Decidability

variable (system : System)

instance (context : Context) : Decidable (system.cancellation.Holds context) :=
  inferInstanceAs (Decidable (∀ token ∈ context.tokens, _))

instance (tokens : List Nat) : Decidable (system.HasSpare tokens) :=
  inferInstanceAs (Decidable (∀ token ∈ tokens, _))

instance : DecidablePred system.AllowsUse
  | .deriveContext context | .wrapToken context | .wrapChildToken context | .holdContext context
  | .watchFeed _ context => inferInstanceAs (Decidable (system.cancellation.Holds context))
  | .dropContext context => inferInstanceAs (Decidable (system.HasSpare context.tokens))
  | .readStream stream | .dropReader stream =>
      inferInstanceAs (Decidable (∀ watch ∈ system.watches, watch.stream ≠ stream))
  | .createContext | .cancel _ _ | .cancelToken _ | .createSignal _ | .holdSignal _ | .dropSignal _
  | .fire _ | .setClock _ | .openGate _ | .instruct _ | .applyResource _ _ | .deleteResource _ _
  | .injectChange _ _ | .sendItem _ _ | .closeFeed _ | .publish _ _ => .isTrue trivial

instance : DecidablePred system.Permits
  | .start task =>
      inferInstanceAs (Decidable
        (task.watch? = none ∧ system.HasSpare (task.tokens system.watches)))
  | .elsewhere happening => inferInstanceAs (Decidable (system.AllowsUse happening))
  | .turn _ | .drop _ | .abort _ | .tryAcquire _ | .tryRelease _ | .reconcile _ => .isTrue trivial

instance decidableOrderly : (system : System) → (moves : List Move) →
    Decidable (system.Orderly moves)
  | _, [] => .isTrue trivial
  | system, move :: rest =>
      have := decidableOrderly (system.perform move) rest
      inferInstanceAs (Decidable (system.Permits move ∧ Orderly (system.perform move) rest))

end Decidability

section Moves

variable {system : System}

theorem Tended.ofSpare (tended : system.Tended []) {tokens : List Nat}
    (spare : system.HasSpare tokens) : system.Tended tokens where
  toArranged := tended.toArranged
  names := tended.names
  rooted := tended.rooted
  covered := by
    intro token
    by_cases member : token ∈ tokens
    · exact spare token member
    · rw [List.count_eq_zero_of_not_mem member]
      exact tended.covered token
  bound := tended.bound

/-- Whoever makes a context outside keeps the handle, and claims nothing. -/
theorem Tended.outside (tended : system.Tended []) {cancellation : Cancellation} {context : Context}
    (provides : system.cancellation.Provides cancellation context) :
    ({ system with cancellation } : System).Tended [] :=
  (tended.ofProvides provides).of_le fun token => by simp

theorem undergo_tended (tended : system.Tended []) {happening : Happening}
    (allowed : system.AllowsUse happening) : (system.undergo happening).Tended [] := by
  have congr {next : System} (same : system.SameWork next) : next.Tended [] := tended.congr same
  cases happening with
  | createContext => exact tended.outside tended.rooted.create
  | deriveContext parent => exact tended.outside (tended.rooted.child allowed).1
  | wrapToken other => exact tended.outside (tended.rooted.wrap allowed)
  | wrapChildToken other => exact tended.outside (tended.rooted.wrapChild allowed)
  | holdContext context => exact tended.outside (tended.rooted.clone allowed)
  | dropContext context =>
      have given : system.Tended (context.tokens ++ []) := by
        rw [List.append_nil]
        exact tended.ofSpare allowed
      exact given.dropContext
  | cancel context cause => exact tended.cancel context cause
  | cancelToken context => exact tended.cancel context none
  | createSignal timed => exact congr ⟨rfl, rfl, rfl, rfl, rfl⟩
  | holdSignal signal => exact congr ⟨rfl, rfl, rfl, rfl, rfl⟩
  | dropSignal signal => exact congr (dropSignal_sameWork system signal)
  | fire signal => exact congr (fire_sameWork system signal)
  | setClock tick => exact congr ⟨rfl, rfl, rfl, rfl, rfl⟩
  | openGate gate => exact congr (by constructor <;> simp [undergo])
  | instruct rules => exact congr ⟨rfl, rfl, rfl, rfl, rfl⟩
  | applyResource feed resource => exact tended.applyResource feed resource
  | deleteResource feed uid => exact tended.deleteResource feed uid
  | injectChange feed change => exact tended.injectChange feed change
  | watchFeed feed context => exact tended.watchFeed feed allowed
  | readStream stream => exact tended.of_eq rfl rfl rfl (by simp [undergo]) rfl
  | dropReader stream => exact tended.of_eq rfl rfl rfl (by simp [undergo]) rfl
  | sendItem feed item => exact tended.sendItem feed item
  | closeFeed feed => exact tended.closeFeed feed
  | publish place event => exact congr (note_sameWork system (.published place event))

theorem perform_tended (tended : system.Tended []) {move : Move} (permitted : system.Permits move) :
    (system.perform move).Tended [] := by
  cases move with
  | turn index => exact (turn_proceeds system index).tended tended
  | drop index => exact (dropNow_proceeds system index).tended tended
  | abort index => exact tended.abort index
  | start task =>
      have given : system.Tended (task.tokens system.watches ++ []) := by
        rw [List.append_nil]
        exact tended.ofSpare permitted.2
      have fresh := permitted.1
      refine given.spawn task ?_ ?_ ?_
      · intro watch uses
        rw [fresh] at uses
        cases uses
      · rintro watch rfl
        cases fresh
      · rintro watch watched rfl
        cases fresh
  | tryAcquire place => exact tended.congr (setPool_sameWork system place _)
  | tryRelease place =>
      exact tended.congr ((setPool_sameWork system place _).trans (noteAll_sameWork _ _))
  | reconcile change =>
      exact tended.congr ((setPool_sameWork system 0 _).trans (noteAll_sameWork _ _))
  | elsewhere happening => exact undergo_tended tended permitted

end Moves

/-- Nothing has been started, watched or made yet. -/
structure IsNew (system : System) : Prop where
  tasks : system.tasks = #[]
  watches : system.watches = #[]
  streams : system.streams = #[]
  cancellation : system.cancellation = .empty
  names : (system.feeds.map (·.1)).Nodup
  unwatched : ∀ entry ∈ system.feeds, entry.2.held = []

theorem IsNew.tended {system : System} (new : system.IsNew) : system.Tended [] where
  present := by simp [new.tasks]
  alone := by simp [new.tasks]
  streamed := by simp [new.watches]
  apart := by simp [new.watches]
  names := new.names
  rooted := by
    rw [new.cancellation]
    exact
      { distinct := List.nodup_nil
        grown := nofun
        quiet := nofun
        rooted := fun token held => absurd held (Nat.lt_irrefl 0) }
  covered := by
    intro token
    have none : system.feeds.map (fun entry => entry.2.held.count token) =
        List.replicate system.feeds.length 0 := by
      refine List.eq_replicate_iff.mpr ⟨List.length_map .., fun count member => ?_⟩
      rcases List.mem_map.mp member with ⟨entry, listed, rfl⟩
      rw [new.unwatched entry listed, List.count_nil]
    simp [claims, new.tasks, none]
  bound := by simp [new.tasks]

end System

end Admission
