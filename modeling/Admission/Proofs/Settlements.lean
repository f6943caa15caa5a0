import Admission.Proofs.Beginnings

/-!
# How a registration ends

A registration looks at each of its turns whether it is over. If its context is cancelled, it ends
with the cause; otherwise with success once the listener has met a mark; otherwise because the
listener has ended; and otherwise when the time limit has passed since its feed was watched. What
the listener has met and whether it has ended is read off the run here, and not off the notes that
the two tasks keep for each other.

A registration that fails leaves nothing behind: it cancels its watch, and from then on the
listener applies and tells nothing. One whose feed refuses to be watched has not even begun.
-/

namespace Admission

namespace Cancellation

section Causes

variable {state next : Cancellation} {context : Context}

theorem cause_congr
    (cancelled : ∀ token ∈ context.tokens, next.tokenCancelled token = state.tokenCancelled token)
    (recorded : ∀ record, next.recorded record = state.recorded record) :
    next.cause context = state.cause context := by
  have along (links : List Link)
      (same : ∀ link ∈ links, next.tokenCancelled link.token = state.tokenCancelled link.token) :
      next.causeAlong links = state.causeAlong links := by
    induction links with
    | nil => rfl
    | cons link rest ih =>
        rw [causeAlong, causeAlong, same link List.mem_cons_self, recorded,
          ih fun other member => same other (List.mem_cons_of_mem link member)]
  exact along context.links fun link member => cancelled _ (List.mem_map_of_mem member)

theorem cause_clone (state : Cancellation) (context other : Context) :
    (state.clone other).cause context = state.cause context := by
  have same := state.clone_same other
  refine cause_congr (fun token _ => ?_) fun record => ?_
  · simp only [tokenCancelled, same.1]
  · simp only [Cancellation.recorded, same.2]

/-- A context that is derived changes no cause of those that are held. -/
theorem cause_child (holds : state.Holds context) (parent : Context) :
    (state.child parent).1.cause context = state.cause context := by
  have cloned := cause_clone ((state.newTokenUnder parent.token).1.newRecord).1 context
    (state.child parent).2
  refine cloned.trans (cause_congr (fun token member => ?_) fun record => ?_)
  · have other : token ≠ state.holders.size :=
      Nat.ne_of_lt (lt_size_of_handles (holds token member))
    simp only [newRecord, newTokenUnder]
    split
    · simp [tokenCancelled, other]
    · rfl
  · have causes : (state.newTokenUnder parent.token).1.causes = state.causes := by
      simp only [newTokenUnder]
      split <;> rfl
    simp only [newRecord, Cancellation.recorded, causes, Array.getElem?_push]
    split
    · rename_i last
      simp [last]
    · rfl

/-- A context that is cancelled is cancelled. -/
theorem isCancelled_cancel (state : Cancellation) (context : Context) (cause : Option String) :
    (state.cancel context cause).1.isCancelled context = true := by
  have own (state : Cancellation) (token : Nat) :
      (state.cancelToken token).1.tokenCancelled token = true := by
    by_cases cancelled : state.tokenCancelled token = true
    · rw [cancelToken, if_pos cancelled]
      exact cancelled
    · rw [cancelToken, if_neg cancelled]
      simp [tokenCancelled]
  cases cause with
  | none => exact own state context.token
  | some cause => exact own (state.recordCause context cause) context.token

end Causes

end Cancellation

namespace System

/-- How a registration stands after a turn, given when its watch began, whether the listener has met
a mark, and whether it has ended. -/
inductive Stands (system : System) (context : Context) (feed : String) (limit : Option Duration)
    (began : Nat) (met ended : Prop) : Option Outcome → Prop where
  | canceled {cause : String} (cancelled : system.isCancelled context = true)
      (reported : system.cancellation.cause context = some cause) :
      Stands system context feed limit began met ended
        (some (.registered (.error (.canceled cause))))
  | synced (live : system.isCancelled context = false) (synced : met) :
      Stands system context feed limit began met ended (some (.registered (.ok ())))
  | closed (live : system.isCancelled context = false) (unsynced : ¬met) (closed : ended) :
      Stands system context feed limit began met ended
        (some (.registered (.error (.feedClosed feed))))
  /-- The clock counts milliseconds, a time limit nanoseconds. -/
  | timedOut {span : Duration} (live : system.isCancelled context = false) (unsynced : ¬met)
      (goesOn : ¬ended) (limited : limit = some span)
      (elapsed : began * 1000000 + span.nanoseconds ≤ system.now * 1000000) :
      Stands system context feed limit began met ended
        (some (.registered (.error (.timeout span))))
  | waiting (live : system.isCancelled context = false) (unsynced : ¬met) (goesOn : ¬ended)
      (inTime : ∀ span, limit = some span →
        system.now * 1000000 < began * 1000000 + span.nanoseconds) :
      Stands system context feed limit began met ended none

/-- The listener of a watch has come to its end. -/
def Ended (system : System) (place : Nat) : Prop :=
  ∃ (index : Nat) (state : TaskState), system.tasks[index]? = some state ∧
    state.task = .listening place ∧ state.outcome = some .ended

/-- A watch is marked as ended exactly if its listener has ended. -/
def TellsEnd (place : Nat) (system : System) : Prop :=
  ∀ watched, system.watches[place]? = some watched →
    (watched.hasEnded = true ↔ system.Ended place)

section Endings

variable {system used next : System} {place index : Nat} {state : TaskState} {watched : Watch}

theorem ended_congr (tasks : next.tasks = system.tasks) :
    next.Ended place ↔ system.Ended place := by
  simp only [Ended, tasks]

/-- A task changes that is not the listener ending. -/
theorem ended_of_modify (found : system.tasks[index]? = some state)
    (change : TaskState → TaskState) (tasks : next.tasks = system.tasks.modify index change)
    (same : ((change state).task = .listening place ∧ (change state).outcome = some .ended) ↔
      (state.task = .listening place ∧ state.outcome = some .ended)) :
    next.Ended place ↔ system.Ended place := by
  simp only [Ended, tasks]
  refine exists_congr fun other => ?_
  rw [Array.getElem?_modify]
  split
  · rename_i own
    subst own
    simp [found, same]
  · rfl

/-- A task that is started has not ended. -/
theorem ended_of_push (task : Task) (tasks : next.tasks = system.tasks.push { task }) :
    next.Ended place ↔ system.Ended place := by
  simp only [Ended, tasks]
  refine exists_congr fun other => ?_
  rw [Array.getElem?_push]
  split
  · rename_i last
    simp [last]
  · rfl

/-- Nobody has listened to a watch that there is not. -/
theorem not_ended_of_absent (tended : system.Tended []) (absent : system.watches[place]? = none) :
    ¬system.Ended place := by
  rintro ⟨index, state, found, listens, -⟩
  rcases tended.present index state place found (by rw [listens]; rfl) with ⟨watched, present, -⟩
  rw [absent] at present
  cases present

theorem TellsEnd.congr (tells : TellsEnd place system)
    (watch : next.watches[place]? = system.watches[place]?)
    (ended : next.Ended place ↔ system.Ended place) : TellsEnd place next := by
  intro watched present
  rw [watch] at present
  rw [ended]
  exact tells watched present

/-- Whatever somebody else does. -/
theorem Proceeds.tellsEnd (proceeds : Proceeds index system next) (tended : system.Tended [])
    (deaf : ∀ state, system.tasks[index]? = some state → state.task ≠ .listening place)
    (tells : TellsEnd place system) : TellsEnd place next := by
  induction proceeds with
  | unchanged => exact tells
  | same _ same before => exact before.congr (by rw [same.watches]) (ended_congr same.tasks)
  | finish proceeds found _ outcome _ before =>
      refine before.congr (by simp) (ended_of_modify found
        (fun state => { state with outcome := some outcome }) (by simp) ?_)
      refine and_congr_right fun listens => ?_
      rcases proceeds.listens found listens with ⟨earlier, original, listened⟩
      exact absurd listened (deaf earlier original)
  | @goOn used state proceeds found _ task advances _ before =>
      refine before.congr rfl (ended_of_modify found (fun state => { state with task }) rfl ?_)
      refine and_congr_left fun _ => ⟨fun listens => ?_, fun listens => ?_⟩
      · rw [show task = .listening place from listens] at advances
        exact advances.eq_listening
      · rw [listens] at advances
        exact advances.listening_eq
  | applyResource _ name resource before => exact before.congr (by simp) (ended_congr (by simp))
  | cancel _ context cause before => exact before.congr (by simp) (ended_congr (by simp))
  | @attend used after state watch watched proceeds found _ task present update _ _ change tasks _ _
      streams watches before =>
      have other : watch ≠ place := by
        rintro rfl
        rcases proceeds.listens found task with ⟨earlier, original, listens⟩
        exact deaf earlier original listens
      refine before.congr ?_ (ended_congr tasks)
      rw [watches, Array.getElem?_modify, if_neg other]
  | refuse _ _ _ _ watching before =>
      rcases watchChild_frame watching with ⟨tasks, watches⟩
      exact before.congr (congrArg (·[place]?) watches) (ended_congr tasks)
  | @begin used after state feed name context stream proceeds found unfinished task watching
      deadline before =>
      rcases watchChild_frame watching with ⟨tasks, watches⟩
      let registered : System := { used with
        tasks := used.tasks.modify index fun state => { state with
          task := .registration feed context (some (used.watches.size, deadline)) } }
      have ended : (after.withListener index feed context
          ⟨name, (used.cancellation.child context).2, stream, false, false⟩ deadline).Ended place ↔
            used.Ended place := by
        have pushed : (after.withListener index feed context
            ⟨name, (used.cancellation.child context).2, stream, false, false⟩ deadline).Ended
              place ↔ registered.Ended place :=
          ended_of_push (.listening used.watches.size) (by rw [withListener_tasks, tasks, watches])
        exact pushed.trans (ended_of_modify found
          (fun state => { state with
            task := .registration feed context (some (used.watches.size, deadline)) }) rfl
          (by simp [task]))
      -- The new watch is not marked, and nobody can have listened to it before.
      by_cases fresh : place = used.watches.size
      · intro watched present
        have absent : used.watches[place]? = none := by simp [fresh]
        rw [(withListener_frame _ _ _ _ _ _).1, watches, fresh, Array.getElem?_push_size,
          Option.some.injEq] at present
        rw [ended, ← present]
        exact ⟨nofun, fun ends => absurd ends (not_ended_of_absent (proceeds.tended tended) absent)⟩
      · refine before.congr ?_ ended
        rw [(withListener_frame _ _ _ _ _ _).1, watches, Array.getElem?_push, if_neg fresh]

theorem dropTask_tellsEnd (found : system.tasks[index]? = some state)
    (unfinished : state.outcome = none) (tells : TellsEnd place system) :
    TellsEnd place (system.dropTask index state.task) :=
  tells.congr (by simp) (ended_of_modify found
    (fun state => { state with outcome := some .aborted }) (by simp) (by simp [unfinished]))

/-- The listener has a turn, and is marked as ended if it ends. -/
theorem turn_tellsEnd (present : system.watches[place]? = some watched)
    (hears : system.heardBy index = some place) (tells : TellsEnd place system) :
    TellsEnd place (system.turn index) := by
  rcases heardBy_eq_some.mp hears with ⟨state, found, unfinished, unmarked, task⟩
  have turned : system.turn index = system.listen index place := by
    simp [turn, found, unfinished, unmarked, task]
  have attended : TellsEnd place (system.attended place watched) := by
    intro later foundLater
    simp only [System.attended, noteAll_frame, Array.getElem?_modify, if_true, present,
      Option.map_some, Option.some.injEq] at foundLater
    have same : (system.attended place watched).Ended place ↔ system.Ended place :=
      ended_congr (by simp [System.attended])
    rw [← foundLater, same]
    exact tells watched present
  have ends {next : System} (stays : next.tasks[index]? = some state)
      (known : ∃ later, next.watches[place]? = some later) :
      TellsEnd place (next.endListening index place watched) := by
    rcases known with ⟨later, foundLater⟩
    intro last foundLast
    simp only [endListening, finish_frame, note_frame, Array.getElem?_modify, if_true, foundLater,
      Option.map_some, Option.some.injEq] at foundLast
    rw [← foundLast]
    refine ⟨fun _ => ⟨index, { state with outcome := some .ended }, ?_, task, rfl⟩, fun _ => rfl⟩
    simp [endListening, Array.getElem?_modify, stays]
  rw [turned, listen_eq present]
  split
  · exact ends found ⟨watched, present⟩
  · split
    · exact attended.congr (by simp) (ended_congr (by simp))
    · split
      · exact attended
      · exact ends (by simpa [System.attended] using found)
          (by simp [System.attended, Array.getElem?_modify, present])

theorem perform_tellsEnd (tended : system.Tended []) (move : Move) (tells : TellsEnd place system) :
    TellsEnd place (system.perform move) := by
  have unchanged (watches : (system.perform move).watches = system.watches)
      (tasks : (system.perform move).tasks = system.tasks) : TellsEnd place (system.perform move) :=
    tells.congr (by rw [watches]) (ended_congr tasks)
  cases move with
  | turn index =>
      by_cases hears : system.heardBy index = some place
      · rcases heardBy_eq_some.mp hears with ⟨state, found, -, -, listens⟩
        rcases tended.present index state place found (by rw [listens]; rfl) with
          ⟨watched, present, -⟩
        exact turn_tellsEnd present hears tells
      · rcases turn_cases_of_deaf hears with same | ⟨state, found, unfinished, drops⟩ | elsewhere
        · exact unchanged (congrArg watches same) (congrArg tasks same)
        · rw [perform, drops]
          exact dropTask_tellsEnd found unfinished tells
        · exact (turn_proceeds system index).tellsEnd tended elsewhere tells
  | drop index =>
      rcases dropNow_cases system index with same | ⟨state, found, unfinished, dropped⟩
      · exact unchanged (congrArg watches same) (congrArg tasks same)
      · rw [perform, dropped]
        exact dropTask_tellsEnd found unfinished tells
  | abort index =>
      rcases abort_cases system index with same | ⟨state, found, -, tasks⟩
      · exact unchanged (congrArg watches same) (congrArg System.tasks same)
      · exact tells.congr (by simp [perform]) (ended_of_modify found
          (fun state => { state with isAborted := true }) tasks Iff.rfl)
  | start task => exact tells.congr (by simp [perform]) (ended_of_push task (by simp [perform]))
  | tryAcquire other => exact unchanged rfl rfl
  | tryRelease other =>
      exact unchanged (by simp [perform, tryRelease]) (by simp [perform, tryRelease])
  | reconcile change =>
      exact unchanged (by simp [perform, reconcile]) (by simp [perform, reconcile])
  | elsewhere happening => exact unchanged (by simp [perform]) (by simp [perform])

/-- In every run, a watch is marked as ended when its listener has ended. -/
theorem tellsEnd_of_orderly {start : System} {moves : List Move} (new : start.IsNew)
    (limited : 0 < start.limiters.length) (orderly : start.Orderly moves) (place : Nat) :
    TellsEnd place (start.run moves) := by
  induction moves using List.reverseRecOn with
  | nil =>
      intro watched present
      rw [run_nil, new.watches] at present
      simp at present
  | append_singleton moves move ih =>
      rw [orderly_append] at orderly
      rw [run_append]
      exact perform_tellsEnd (chronicle_of_orderly new limited orderly.1).tended move
        (ih orderly.1)

end Endings

/-! ### Turns of a registration -/

/-- What is left of a watch after its registration has failed: nothing is applied or told for it,
and its listener leaves the pool alone. -/
structure Silent (place : Nat) (system : System) (late : List Move) : Prop where
  applied : system.gather (appliedIn place) late = []
  told : system.gather (newsIn place) late = []
  idle : ∀ middle other rest, late = middle ++ .turn other :: rest →
    (system.run middle).heardBy other = some place →
    (system.run (middle ++ [.turn other])).pool 0 = (system.run middle).pool 0 ∧
      (system.run (middle ++ [.turn other])).news = (system.run middle).news

/-- What comes of a turn of a registration between earlier moves and later ones. -/
inductive Settles (start : System) (early late : List Move) (index : Nat) (feed : String)
    (context : Context) : Prop where
  /-- The feed refuses to be watched, and nothing is touched. -/
  | refused {error : SyncError} {after : System}
      (refuses : { start.run early with
        cancellation := ((start.run early).cancellation.child context).1 }.watchFeed feed
          ((start.run early).cancellation.child context).2 = (after, .error error))
      (answer : (start.run (early ++ [.turn index])).outcome? index =
        some (.registered (.error error)))
      (limiters : (start.run (early ++ [.turn index])).limiters = (start.run early).limiters)
      (news : (start.run (early ++ [.turn index])).news = (start.run early).news)
      (watches : (start.run (early ++ [.turn index])).watches = (start.run early).watches)
      (tasks : (start.run (early ++ [.turn index])).tasks.size = (start.run early).tasks.size)
  /-- The registration has begun its watch, maybe in this very turn, and looks how it stands. -/
  | watched {first rest : List Move} {source : Feed} {place : Nat} {deadline : Option Nat}
      (turns : early ++ [.turn index] = first ++ .turn index :: rest)
      (begins : (start.run first).Begins index feed context source place deadline)
      (stands : Stands (start.run early) context source.label start.syncLimit (start.run first).now
        (.synced ∈ (start.gather (appliedIn place) early).map (·.2))
        ((start.run early).Ended place) ((start.run (early ++ [.turn index])).outcome? index))
      (silent : ∀ error, (start.run (early ++ [.turn index])).outcome? index =
        some (.registered (.error error)) →
          Silent place (start.run (early ++ [.turn index])) late)

section Settling

variable {system next : System} {context : Context} {feed : String} {limit : Option Duration}
  {began index place : Nat} {met ended : Prop} {outcome : Option Outcome} {state : TaskState}
  {watched : Watch} {deadline : Option Nat}

theorem Stands.congr (stands : Stands system context feed limit began met ended outcome)
    (cause : next.cancellation.cause context = system.cancellation.cause context)
    (now : next.now = system.now) {synced closed : Prop} (sync : synced ↔ met)
    (close : closed ↔ ended) : Stands next context feed limit began synced closed outcome := by
  have cancelled : next.isCancelled context = system.isCancelled context := by
    rw [isCancelled, ← Cancellation.cause_isSome, cause, Cancellation.cause_isSome]
    rfl
  rw [propext sync, propext close]
  cases stands with
  | canceled isCancelled reported =>
      exact .canceled (cancelled.trans isCancelled) (cause.trans reported)
  | synced live synced => exact .synced (cancelled.trans live) synced
  | closed live unsynced closed => exact .closed (cancelled.trans live) unsynced closed
  | timedOut live unsynced goesOn limited elapsed =>
      exact .timedOut (cancelled.trans live) unsynced goesOn limited (now ▸ elapsed)
  | waiting live unsynced goesOn inTime =>
      exact .waiting (cancelled.trans live) unsynced goesOn (now ▸ inTime)

theorem elapsed_iff (began now : Nat) (span : Duration) :
    began + span.ticks ≤ now ↔ began * 1000000 + span.nanoseconds ≤ now * 1000000 := by
  simp only [Duration.ticks]
  omega

theorem settle_outcome? (found : system.tasks[index]? = some state)
    (unfinished : state.outcome = none) (present : system.watches[place]? = some watched) :
    (system.settleRegistration index context place deadline).outcome? index =
      (Registration.verdict watched (system.cancellation.cause context) system.syncLimit
        (system.isOver deadline)).map .registered := by
  rw [settleRegistration_eq present]
  cases Registration.verdict watched (system.cancellation.cause context) system.syncLimit
    (system.isOver deadline) with
  | none => rw [outcome?, found, Option.bind_some, unfinished, Option.map_none]
  | some result =>
      cases result with
      | ok answer => exact finish_outcome? (by simpa using found) _
      | error error => exact finish_outcome? (by simpa using found) _

/-- What a registration finds when it looks. -/
theorem verdict_stands (context : Context) (watched : Watch)
    (limited : deadline = system.syncLimit.map fun limit => began + limit.ticks) :
    Stands system context watched.feed system.syncLimit began (watched.isSynced = true)
      (watched.hasEnded = true)
      ((Registration.verdict watched (system.cancellation.cause context) system.syncLimit
        (system.isOver deadline)).map .registered) := by
  have isSome := system.cancellation.cause_isSome context
  cases cause : system.cancellation.cause context with
  | some reason =>
      rw [cause] at isSome
      exact .canceled isSome.symm cause
  | none =>
      rw [cause] at isSome
      have live : system.isCancelled context = false := isSome.symm
      simp only [Registration.verdict]
      cases synced : watched.isSynced with
      | true => exact .synced live rfl
      | false =>
          cases closed : watched.hasEnded with
          | true => exact .closed live Bool.false_ne_true rfl
          | false =>
              simp only [Bool.false_eq_true, if_false]
              cases limit : system.syncLimit with
              | none => exact .waiting live id id (by simp)
              | some span =>
                  have isOver : system.isOver deadline =
                      decide (began + span.ticks ≤ system.now) := by
                    rw [isOver, limited, limit, Option.map_some, Option.map_some, Option.getD_some]
                  by_cases elapsed : began + span.ticks ≤ system.now
                  · simp only [isOver, elapsed, decide_true, if_true]
                    exact .timedOut live id id rfl ((elapsed_iff _ _ _).mp elapsed)
                  · simp only [isOver, elapsed, decide_false, Bool.false_eq_true, if_false]
                    refine .waiting live id id fun other same => ?_
                    cases same
                    exact Nat.lt_of_not_le fun late => elapsed ((elapsed_iff _ _ _).mpr late)

/-- A registration that fails cancels its watch. -/
theorem settle_cancels (found : system.tasks[index]? = some state)
    (unfinished : state.outcome = none) (present : system.watches[place]? = some watched)
    {error : SyncError}
    (fails : (system.settleRegistration index context place deadline).outcome? index =
      some (.registered (.error error))) :
    (system.settleRegistration index context place deadline).isCancelled watched.context =
      true := by
  rw [settle_outcome? found unfinished present] at fails
  rcases Option.map_eq_some_iff.mp fails with ⟨result, verdict, same⟩
  cases same
  let failing : System := (system.cancel watched.context none).note
    (Registration.failedNotice watched.feed error)
  have cancelled : failing.isCancelled watched.context = true := by
    simp only [failing, isCancelled, note_frame, cancel_cancellation]
    exact Cancellation.isCancelled_cancel _ _ _
  have ends : failing.Persists (failing.finish index (.registered (.error error))) :=
    finish_persists (by simpa [failing] using found) unfinished _
  rw [settleRegistration_eq present]
  simp only [verdict]
  exact Cancellation.tokenCancelled_iff.mpr
    (ends.cancelled (Cancellation.tokenCancelled_iff.mp cancelled))

/-- In its first turn, a registration whose feed can be watched looks at a watch that is new. -/
theorem stands_of_begun {source : Feed} {begun : System}
    (holds : system.cancellation.Holds context)
    (begins : system.Begun index feed context source begun) :
    Stands system context source.label system.syncLimit system.now False False
      ((system.startRegistration index feed context).outcome? index) := by
  have cause : begun.cancellation.cause context = system.cancellation.cause context := by
    refine (Cancellation.cause_congr (fun token _ => ?_) fun record => ?_).trans
      (Cancellation.cause_child holds context)
    · simp only [Cancellation.tokenCancelled, begins.cancelled]
    · simp only [Cancellation.recorded, begins.causes]
  have limited : system.deadlineFrom =
      begun.syncLimit.map fun limit => system.now + limit.ticks := by
    rw [begins.limit]
    rfl
  have stands := verdict_stands context ⟨source.label, (system.cancellation.child context).2,
    system.streams.size, false, false⟩ limited
  rw [begins.settles, settle_outcome? begins.found rfl begins.present, ← begins.limit]
  exact stands.congr cause.symm begins.now.symm (by simp) (by simp)

end Settling

section Runs

variable {start : System} {early late moves : List Move} {index place : Nat} {feed : String}
  {context : Context} {deadline : Option Nat} {watch : Option (Nat × Option Nat)} {watched : Watch}
  {state : TaskState} {error : SyncError}

/-- Nothing more comes of the watch of a registration once it is cancelled. -/
theorem silent_of_isCancelled (new : start.IsNew) (limited : 0 < start.limiters.length)
    (orderly : start.Orderly (moves ++ late)) (found : (start.run moves).tasks[index]? = some state)
    (task : state.task = .registration feed context (some (place, deadline)))
    (present : (start.run moves).watches[place]? = some watched)
    (cancelled : (start.run moves).isCancelled watched.context = true) :
    Silent place (start.run moves) late := by
  have chronicle := chronicle_of_orderly new limited (orderly_append.mp orderly).1
  have above : watched.context.above = context.links := by
    rcases chronicle.tended.present index state place found (by rw [task]; rfl) with
      ⟨same, alsoPresent, suits⟩
    rw [present, Option.some.injEq] at alsoPresent
    exact alsoPresent ▸ (suits feed context (place, deadline) task).1
  -- What is cancelled stays so, whence every later move can be looked at by itself.
  have reached {middle rest : List Move} {move : Move} (split : late = middle ++ move :: rest) :
      Chronicle start (moves ++ middle) ∧
        ((start.run moves).run middle).appliedIn place move = [] ∧
        ((start.run moves).run middle).newsIn place move = [] := by
    rw [split, ← List.append_assoc, orderly_append] at orderly
    have before := chronicle_of_orderly new limited orderly.1
    rcases (run_persists (start.run moves) middle).watches place watched present with
      ⟨later, foundLater, -, kept, -⟩
    have silent := before.silent_of_cancelled (.refl _)
      (by rw [run_append]; exact foundLater) (kept ▸ above)
      (Or.inr (kept ▸ run_append start moves middle ▸ isCancelled_of_run cancelled middle)) move
    rw [run_append] at silent
    exact ⟨before, silent⟩
  refine ⟨gather_eq_nil fun _ _ _ split => (reached split).2.1,
    gather_eq_nil fun _ _ _ split => (reached split).2.2, fun middle other rest split hears => ?_⟩
  have before := (reached split).1
  have nothing := (reached split).2.1
  rw [run_append, ← run_append start] at *
  rcases heardBy_eq_some.mp hears with ⟨listener, foundTask, -, -, listens⟩
  rcases before.tended.present other listener place foundTask (by rw [listens]; rfl) with
    ⟨own, foundOwn, -⟩
  have hearing := turn_hearing before.tended before.limited foundOwn hears
  rw [nothing] at hearing
  exact ⟨hearing.pool, hearing.news.trans (List.append_nil _)⟩

/-- A registration that fails in a turn leaves nothing behind. -/
theorem silent_of_failure {before : System} (new : start.IsNew)
    (limited : 0 < start.limiters.length) (orderly : start.Orderly (moves ++ late))
    (found : before.tasks[index]? =
      some { task := .registration feed context (some (place, deadline)) })
    (present : before.watches[place]? = some watched)
    (settles : start.run moves = before.settleRegistration index context place deadline)
    (fails : (start.run moves).outcome? index = some (.registered (.error error))) :
    Silent place (start.run moves) late := by
  rw [settles] at fails
  have cancelled := settle_cancels found rfl present fails
  rcases settleRegistration_found found context place deadline with ⟨outcome, settled⟩
  have frame := before.settleRegistration_frame index context place deadline
  rw [← settles] at cancelled settled frame
  exact silent_of_isCancelled new limited orderly settled rfl (by rw [frame.1, present]) cancelled

/-- The feed refuses to be watched. -/
theorem settles_of_refused (late : List Move)
    (found : (start.run early).tasks[index]? = some { task := .registration feed context none })
    {after : System}
    (watching : { start.run early with
      cancellation := ((start.run early).cancellation.child context).1 }.watchFeed feed
        ((start.run early).cancellation.child context).2 = (after, .error error)) :
    Settles start early late index feed context := by
  have ends : start.run (early ++ [.turn index]) =
      (after.dropContext ((start.run early).cancellation.child context).2).finish index
        (.registered (.error error)) := by
    rw [run_append, run_cons, run_nil, perform]
    simp only [turn, found, startRegistration, watching]
    rfl
  have same := watchFeed_of_refused watching
  refine .refused watching ?_ ?_ ?_ ?_ ?_
  all_goals rw [ends, same]
  · exact finish_outcome? (by simpa using found) _
  · simp
  · rw [finish_news]
    rfl
  · simp
  · simp

/-- The watch begins, and the registration looks at it in the same turn. -/
theorem settles_of_opened (new : start.IsNew) (limited : 0 < start.limiters.length)
    (orderly : start.Orderly ((early ++ [.turn index]) ++ late))
    (found : (start.run early).tasks[index]? = some { task := .registration feed context none })
    {after : System} {opened : String × Nat}
    (watching : { start.run early with
      cancellation := ((start.run early).cancellation.child context).1 }.watchFeed feed
        ((start.run early).cancellation.child context).2 = (after, .ok opened)) :
    Settles start early late index feed context := by
  have chronicle := chronicle_of_orderly new limited
    (orderly_append.mp (orderly_append.mp orderly).1).1
  rcases begun_of_ok found watching with ⟨source, begun, begins⟩
  have turned : start.run (early ++ [.turn index]) =
      (start.run early).startRegistration index feed context := by
    rw [run_append, run_cons, run_nil, perform]
    simp [turn, found]
  have unbegun := chronicle.unbegun (start.run early).watches.size (by simp)
  have stands := stands_of_begun (chronicle.tended.holds_registration found rfl rfl) begins
  rw [← turned, (run_sameLimits start early).syncLimit_eq] at stands
  refine .watched rfl (begins.begins found) (stands.congr rfl rfl ?_ ?_) fun error fails => ?_
  · simp [unbegun.1]
  · exact iff_false_intro (not_ended_of_absent chronicle.tended (by simp))
  · exact silent_of_failure new limited orderly begins.found begins.present
      (turned.trans begins.settles) fails

/-- The watch began in an earlier turn. -/
theorem settles_of_begun (new : start.IsNew) (limited : 0 < start.limiters.length)
    (orderly : start.Orderly ((early ++ [.turn index]) ++ late))
    (found : (start.run early).tasks[index]? =
      some { task := .registration feed context (some (place, deadline)) }) :
    Settles start early late index feed context := by
  have before := (orderly_append.mp (orderly_append.mp orderly).1).1
  have chronicle := chronicle_of_orderly new limited before
  rcases begins_of_run new.tasks before found rfl with ⟨first, rest, source, split, begins⟩
  rcases chronicle.tended.present index _ place found rfl with ⟨watched, present, -⟩
  have turned : start.run (early ++ [.turn index]) =
      (start.run early).settleRegistration index context place deadline := by
    rw [run_append, run_cons, run_nil, perform]
    simp [turn, found]
  have named : watched.feed = source.label := by
    have same : start.run early = ((start.run first).turn index).run rest := by
      rw [split, run_append]
      rfl
    rcases (run_persists ((start.run first).turn index) rest).watches place _ begins.watch with
      ⟨later, foundLater, named, -⟩
    rw [← same, present, Option.some.injEq] at foundLater
    rw [foundLater, named]
  have limit (moves : List Move) : (start.run moves).syncLimit = start.syncLimit :=
    (run_sameLimits start moves).syncLimit_eq
  -- The deadline was set in the first turn, with a limit that no move changes.
  have deadlineSet : deadline = (start.run early).syncLimit.map fun limit =>
      (start.run first).now + limit.ticks := by
    rw [begins.limited, deadlineFrom, limit, limit]
  have stands := verdict_stands context watched deadlineSet
  rw [← settle_outcome? found rfl present, ← turned, limit, named] at stands
  have turns : early ++ [.turn index] = first ++ .turn index :: (rest ++ [.turn index]) := by
    rw [split]
    simp
  refine .watched turns begins (stands.congr rfl rfl ?_ ?_) fun error fails => ?_
  · rw [(chronicle.logged place watched present).synced, decide_eq_true_eq]
  · exact (tellsEnd_of_orderly new limited before place watched present).symm
  · exact silent_of_failure new limited orderly found present turned fails

/-- Whatever is done before and after, a turn of a registration settles it as its context, the
listener and the clock stand. -/
theorem settles_of_orderly (new : start.IsNew) (limited : 0 < start.limiters.length)
    (orderly : start.Orderly (early ++ .turn index :: late))
    (found : (start.run early).tasks[index]? =
      some { task := .registration feed context watch }) :
    Settles start early late index feed context := by
  have onward : start.Orderly ((early ++ [.turn index]) ++ late) := by
    rw [List.append_assoc]
    exact orderly
  cases watch with
  | some watch => exact settles_of_begun new limited onward found
  | none =>
      cases watching : { start.run early with
          cancellation := ((start.run early).cancellation.child context).1 }.watchFeed feed
            ((start.run early).cancellation.child context).2 with
      | mk after result =>
          cases result with
          | error error => exact settles_of_refused late found watching
          | ok opened => exact settles_of_opened new limited onward found watching

/-- A limiter that waits five milliseconds for a feed to sync, and a feed that tells nothing. -/
def withSilentFeed : System :=
  { limiters := [{ pool := .full 2, next := "end", syncTimeout := some ⟨5000000⟩ }]
    feeds := [("jobs", .scripted {})] }

/-- A registration that has waited for five milliseconds. -/
def waitingForSync : List Move :=
  [.elsewhere .createContext, .start (.registration "jobs" ⟨⟨0, 0⟩, []⟩ none), .turn 0,
    .elsewhere (.setClock 5)]

/-- What the feed sends too late. -/
def belatedly : List Move :=
  [.elsewhere (.sendItem "jobs" (.event (.deleted (.running "a" "a")))), .turn 1]

theorem settles_too_late :
    (withSilentFeed.run (waitingForSync ++ [.turn 0])).outcome? 0 =
        some (.registered (.error (.timeout ⟨5000000⟩))) ∧
      Settles withSilentFeed waitingForSync belatedly 0 "jobs" ⟨⟨0, 0⟩, []⟩ := by
  have new : withSilentFeed.IsNew :=
    { tasks := rfl
      watches := rfl
      streams := rfl
      cancellation := rfl
      names := by decide
      unwatched := by simp [withSilentFeed, Feed.held] }
  have found : (withSilentFeed.run waitingForSync).tasks[0]? =
      some { task := .registration "jobs" ⟨⟨0, 0⟩, []⟩ (some (0, some 5)) } := rfl
  have present : (withSilentFeed.run waitingForSync).watches[0]? =
      some ⟨"script", ⟨⟨1, 1⟩, [⟨0, 0⟩]⟩, 0, false, false⟩ := rfl
  have turned : withSilentFeed.run (waitingForSync ++ [.turn 0]) =
      (withSilentFeed.run waitingForSync).settleRegistration 0 ⟨⟨0, 0⟩, []⟩ 0 (some 5) := by
    rw [run_append, run_cons, run_nil, perform]
    simp [turn, found]
  refine ⟨?_, settles_of_orderly new (by decide) (by decide +kernel) found⟩
  rw [turned, settle_outcome? found rfl present]
  rfl

end Runs

end System

end Admission
