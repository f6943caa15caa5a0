import Admission.Proofs.ContextCalls

/-!
# Which contexts are cancelled, and why

In every run of calls that are made on contexts that the program holds, a context is cancelled
exactly if its token, or one that this descends from, was cancelled. A token that was dropped in the
meantime makes no difference: what was grown under it still hears of what is above.

The cause of a cancelled context is the one recorded nearest to it among the contexts that it was
derived from, itself first. The walk along this chain stops at contexts that are live, and it may do
so since a context with a recorded cause is cancelled, and with it all that was derived from it.
-/

namespace Admission

open Relation

namespace Cancellation

variable {state : Cancellation} {context : Context} {cause : String}

theorem cause_of_live (live : state.isCancelled context = false) : state.cause context = none := by
  rw [← Option.isNone_iff_eq_none, ← Option.isSome_eq_false_iff, cause_isSome]
  exact live

theorem cause_of_recorded (cancelled : state.isCancelled context = true)
    (recorded : state.recorded context.own.record = some cause) :
    state.cause context = some cause := by
  simp only [isCancelled, Context.token] at cancelled
  simp [Cancellation.cause, Context.links, causeAlong, cancelled, recorded]

theorem cause_of_unrecorded (cancelled : state.isCancelled context = true)
    (unrecorded : state.recorded context.own.record = none) :
    state.cause context = some ((state.causeAlong context.above).getD defaultCause) := by
  simp only [isCancelled, Context.token] at cancelled
  simp [Cancellation.cause, Context.links, causeAlong, cancelled, unrecorded]

end Cancellation

namespace ContextCall

open Cancellation

/-- A cause that a context finds along the contexts that it was derived from, nearest first. -/
inductive Finds (calls : List ContextCall) : Context → String → Prop where
  | own {context : Context} {cause : String} (recorded : Records calls context cause) :
      Finds calls context cause
  | above {parent context : Context} {cause : String}
      (unrecorded : ∀ own, ¬Records calls context own) (derived : Derived calls parent context)
      (found : Finds calls parent cause) : Finds calls context cause

/-- What a cancelled context reports: the cause that it finds, and the default if there is none. -/
def Reports (calls : List ContextCall) (context : Context) (cause : String) : Prop :=
  Finds calls context cause ∨ ((∀ found, ¬Finds calls context found) ∧ cause = defaultCause)

/-- What the state after a run has to do with the run. -/
structure Tracks (calls : List ContextCall) : Prop where
  follows : (after calls).state.Follows (Grown calls) (Cut calls)
  /-- There is a handle for every token of every context that is held. -/
  covered : ∀ token, ((after calls).held.flatMap Context.tokens).count token ≤
    (after calls).state.handles token
  made : ∀ context ∈ (after calls).held, ∃ maker, Makes calls maker context
  subjects : ∀ before call, before ++ [call] <+: calls → ∀ subject ∈ call.subject?,
    ∃ maker, Makes before maker subject
  recorded : ∀ maker context, Makes calls maker context → ∀ cause,
    (after calls).state.recorded context.own.record = some cause ↔ Records calls context cause

section Tracking

variable {calls : List ContextCall} {call last : ContextCall} {context parent : Context}
  {token : Nat} {cause : String}

theorem Tracks.holds (tracks : Tracks calls) (held : context ∈ (after calls).held) :
    (after calls).state.Holds context := by
  intro token member
  refine Nat.lt_of_lt_of_le (List.count_pos_iff.mpr ?_) (tracks.covered token)
  exact List.mem_flatMap.mpr ⟨context, held, member⟩

theorem Tracks.knows (tracks : Tracks calls) (held : context ∈ (after calls).held)
    (member : token ∈ context.tokens) : (after calls).state.Knows token :=
  tracks.follows.rooted.rooted token (tracks.holds held token member)

/-- A token of a context that is held is cancelled exactly if the run cancelled it. -/
theorem Tracks.tokenCancelled_iff (tracks : Tracks calls) (held : context ∈ (after calls).held)
    (member : token ∈ context.tokens) :
    (after calls).state.tokenCancelled token = true ↔ Felled calls token := by
  rw [Cancellation.tokenCancelled_iff]
  exact tracks.follows.mem_cancelled_iff (tracks.knows held member)

theorem Tracks.isCancelled_iff (tracks : Tracks calls) (held : context ∈ (after calls).held) :
    (after calls).state.isCancelled context = true ↔ Felled calls context.token :=
  tracks.tokenCancelled_iff held List.mem_cons_self

/-- What got a cause was made before. -/
theorem Tracks.makes_of_records (tracks : Tracks calls) (records : Records calls context cause) :
    ∃ maker, Makes calls maker context := by
  rcases records with ⟨before, occurs, -⟩
  rcases tracks.subjects before _ occurs context rfl with ⟨maker, makes⟩
  exact ⟨maker, makes.mono ((List.prefix_append _ _).trans occurs)⟩

/-- What others were derived from was made before. -/
theorem Tracks.makes_parent (tracks : Tracks calls) (derived : Derived calls parent context) :
    ∃ maker, Makes calls maker parent := by
  rcases derived with ⟨before, occurs, -⟩
  rcases tracks.subjects before _ occurs parent rfl with ⟨maker, makes⟩
  exact ⟨maker, makes.mono ((List.prefix_append _ _).trans occurs)⟩

/-- Only the context that is cancelled gets a cause, and only if it was live. -/
theorem Tracks.recorded_of_cancel {other : Context} {maker : ContextCall} {given : String}
    (tracks : Tracks calls) (held : other ∈ (after calls).held)
    (makes : Makes calls maker context) :
    ((after calls).state.recordCause other given).recorded context.own.record = some cause ↔
      Records calls context cause ∨
        (other = context ∧ given = cause ∧ ¬Felled calls other.token) := by
  have before := tracks.recorded maker context makes
  have felled := tracks.isCancelled_iff held
  cases cancelled : (after calls).state.isCancelled other with
  | true =>
      rw [recordCause, if_pos cancelled, before, or_iff_left]
      rintro ⟨-, -, live⟩
      exact live (felled.mp cancelled)
  | false =>
      have live : ¬Felled calls other.token := by
        rw [← felled, cancelled]
        exact Bool.false_ne_true
      rcases tracks.made other held with ⟨otherMaker, otherMakes⟩
      rw [recorded_recordCause cancelled otherMakes.record_lt]
      split
      · rename_i same
        have equal := makes.eq_of_same_record otherMakes same
        subst equal
        have unrecorded : (after calls).state.recorded context.own.record = none := by
          refine Option.eq_none_iff_forall_ne_some.mpr fun found recorded => ?_
          exact live ((before found).mp recorded).felled
        rw [unrecorded, or_iff_right fun records => live records.felled]
        simp [live]
      · rename_i apart
        rw [before, or_iff_left]
        rintro ⟨rfl, -, -⟩
        exact apart rfl

theorem tracks_nil : Tracks [] where
  follows := by
    refine follows_empty.of_iff (fun upper lower => ?_) fun token => ?_
    · simp [Grown, Makes, MakesAt]
    · simp [Cut]
  covered := by simp [after, Holder.start]
  made := by simp [after, Holder.start]
  subjects := by simp
  recorded := by simp [Makes, MakesAt]

/-! ### One more call -/

section Concat

variable (tracks : Tracks calls) (allowed : (after calls).Allows last)

include tracks allowed

theorem Tracks.subjectHeld : ∀ subject ∈ last.subject?, (after calls).state.Holds subject :=
  fun subject member => tracks.holds (allowed subject member)

theorem Tracks.subjectKnown :
    ∀ subject ∈ last.subject?, (after calls).state.Knows subject.token :=
  fun subject member => tracks.knows (allowed subject member) List.mem_cons_self

theorem Tracks.follows_concat :
    (after (calls ++ [last])).state.Follows (Grown (calls ++ [last])) (Cut (calls ++ [last])) := by
  have holds := tracks.subjectHeld allowed
  have knows := tracks.subjectKnown allowed
  rw [after_concat]
  cases making : last.making? (after calls).state with
  | some made =>
      rcases made with ⟨next, context⟩
      rw [perform_of_making making]
      refine (making_follows making tracks.follows holds).of_iff (fun upper lower => ?_)
        fun token => ?_
      · simp [grown_concat, making]
      · simp [cut_concat, cuts_of_making making]
  | none =>
      have grown (upper lower : Nat) :
          Grown (calls ++ [last]) upper lower ↔ Grown calls upper lower := by
        simp [grown_concat, making]
      have cut (token : Nat) : Cut (calls ++ [last]) token ↔
          Cut calls token ∨ last.cuts? = some token := cut_concat
      cases last with
      | create | child parent | wrap other | wrapChild other => cases making
      | clone other =>
          have provides := tracks.follows.rooted.clone (holds other rfl)
          exact (tracks.follows.clone provides.rooted).of_iff grown (by simp [cut, cuts?])
      | cancel other cause =>
          exact (tracks.follows.cancel (knows other rfl) cause).of_iff grown
            (by simp [cut, cuts?, eq_comm])
      | cancelToken other =>
          exact (tracks.follows.cancelToken (knows other rfl)).of_iff grown
            (by simp [cut, cuts?, eq_comm])
      | drop other => exact (tracks.follows.drop other).of_iff grown (by simp [cut, cuts?])

theorem Tracks.covered_concat (token : Nat) :
    ((after (calls ++ [last])).held.flatMap Context.tokens).count token ≤
      (after (calls ++ [last])).state.handles token := by
  have holds := tracks.subjectHeld allowed
  have covered := tracks.covered token
  have rooted := tracks.follows.rooted
  rw [after_concat]
  -- A context that is taken up brings a handle for each of its tokens.
  have taken {made : Cancellation × Context}
      (provides : (after calls).state.Provides made.1 made.2) :
      (((after calls).take made).held.flatMap Context.tokens).count token ≤
        ((after calls).take made).state.handles token := by
    have provided := provides.provided token
    simp only [Holder.take, List.flatMap_cons, List.count_append]
    omega
  cases making : last.making? (after calls).state with
  | some made =>
      rw [perform_of_making making]
      exact taken (making_provides making rooted holds)
  | none =>
      cases last with
      | create | child parent | wrap other | wrapChild other => cases making
      | clone other => exact taken (rooted.clone (holds other rfl))
      | cancel other cause => exact Nat.le_trans covered ((rooted.cancel other cause).handles token)
      | cancelToken other =>
          exact Nat.le_trans covered ((rooted.cancelToken other.token).handles token)
      | drop other =>
          have split := (List.perm_cons_erase (allowed other rfl)).flatMap_right Context.tokens
          have counted := split.count_eq token
          rw [List.flatMap_cons, List.count_append] at counted
          simp only [Holder.perform, handles_drop]
          omega

theorem Tracks.made_concat :
    ∀ context ∈ (after (calls ++ [last])).held, ∃ maker, Makes (calls ++ [last]) maker context := by
  have earlier {context : Context} (held : context ∈ (after calls).held) :
      ∃ maker, Makes (calls ++ [last]) maker context := by
    rcases tracks.made context held with ⟨maker, makes⟩
    exact ⟨maker, makes.mono (List.prefix_append _ _)⟩
  intro context held
  rw [after_concat] at held
  cases making : last.making? (after calls).state with
  | some made =>
      rw [perform_of_making making] at held
      rcases List.mem_cons.mp held with rfl | before
      · exact ⟨last, makes_concat.mpr (Or.inr ⟨rfl, made.1, making⟩)⟩
      · exact earlier before
  | none =>
      cases last with
      | create | child parent | wrap other | wrapChild other => cases making
      | clone other =>
          rcases List.mem_cons.mp held with rfl | before
          · exact earlier (allowed _ rfl)
          · exact earlier before
      | cancel other cause => exact earlier held
      | cancelToken other => exact earlier held
      | drop other => exact earlier (List.mem_of_mem_erase held)

theorem Tracks.subjects_concat (before : List ContextCall) (call : ContextCall)
    (occurs : before ++ [call] <+: calls ++ [last]) :
    ∀ subject ∈ call.subject?, ∃ maker, Makes before maker subject := by
  rcases occurs_concat.mp occurs with earlier | ⟨rfl, rfl⟩
  · exact tracks.subjects before call earlier
  · exact fun subject member => tracks.made subject (allowed subject member)

theorem Tracks.recorded_concat (maker : ContextCall) (context : Context)
    (makes : Makes (calls ++ [last]) maker context) (cause : String) :
    (after (calls ++ [last])).state.recorded context.own.record = some cause ↔
      Records (calls ++ [last]) context cause := by
  rw [after_concat, records_concat]
  cases making : last.making? (after calls).state with
  | some made =>
      rcases made with ⟨next, new⟩
      rcases making_record making with ⟨causes, record⟩
      have notLast : ¬(last = .cancel context (some cause) ∧ ¬Felled calls context.token) := by
        rintro ⟨rfl, -⟩
        cases making
      rw [perform_of_making making, recorded_push causes, or_iff_left notLast]
      rcases makes_concat.mp makes with earlier | ⟨-, next', making'⟩
      · exact tracks.recorded maker context earlier cause
      · rw [making] at making'
        cases making'
        -- Nobody can have cancelled the new context before.
        constructor
        · intro found
          simp [Cancellation.recorded, record] at found
        · intro records
          rcases tracks.makes_of_records records with ⟨maker, makes⟩
          exact absurd makes.record_lt (by omega)
  | none =>
      have earlier : Makes calls maker context := by
        refine (makes_concat.mp makes).resolve_right ?_
        rintro ⟨-, next, making'⟩
        rw [making] at making'
        cases making'
      rcases perform_causes (after calls).held making with
        ⟨others, causes⟩ | ⟨other, given, rfl, causes⟩
      · rw [recorded_congr causes, or_iff_left fun same => others _ _ same.1]
        exact tracks.recorded maker context earlier cause
      · rw [recorded_congr causes, tracks.recorded_of_cancel (allowed other rfl) earlier]
        refine or_congr_right ?_
        constructor
        · rintro ⟨rfl, rfl, live⟩
          exact ⟨rfl, live⟩
        · rintro ⟨same, live⟩
          cases same
          exact ⟨rfl, rfl, live⟩

theorem Tracks.concat : Tracks (calls ++ [last]) where
  follows := tracks.follows_concat allowed
  covered := tracks.covered_concat allowed
  made := tracks.made_concat allowed
  subjects := tracks.subjects_concat allowed
  recorded := tracks.recorded_concat allowed

end Concat

theorem tracks_of_lawful (lawful : Lawful calls) : Tracks calls := by
  induction calls using List.reverseRecOn with
  | nil => exact tracks_nil
  | append_singleton calls last ih =>
      rcases lawful_concat.mp lawful with ⟨before, allowed⟩
      exact (ih before).concat allowed


/-! ### Along the chain -/

theorem above_of_derived (derived : Derived calls parent context) :
    context.above = parent.links := by
  rcases derived with ⟨before, -, next, making⟩
  exact congrArg Context.above (made_of_some making).2.symm

theorem derived_unique {other : Context} (derived : Derived calls parent context)
    (derived' : Derived calls other context) : parent = other := by
  have same : parent.links = other.links :=
    (above_of_derived derived).symm.trans (above_of_derived derived')
  rcases parent with ⟨own, above⟩
  rcases other with ⟨own', above'⟩
  simpa [Context.links] using same

/-- A context that finds a cause is cancelled. -/
theorem Finds.felled (finds : Finds calls context cause) : Felled calls context.token := by
  induction finds with
  | own recorded => exact recorded.felled
  | above _ derived _ ih => exact ih.below (grown_of_derived derived)

theorem Tracks.records_unique (tracks : Tracks calls) {other : String}
    (records : Records calls context cause) (records' : Records calls context other) :
    cause = other := by
  rcases tracks.makes_of_records records with ⟨maker, makes⟩
  have found := (tracks.recorded maker context makes cause).mpr records
  rw [(tracks.recorded maker context makes other).mpr records'] at found
  exact (Option.some.inj found).symm

theorem Tracks.finds_unique (tracks : Tracks calls) {other : String}
    (finds : Finds calls context cause) (finds' : Finds calls context other) : cause = other := by
  induction finds with
  | own recorded =>
      cases finds' with
      | own recorded' => exact tracks.records_unique recorded recorded'
      | above unrecorded _ _ => exact absurd recorded (unrecorded _)
  | above unrecorded derived _ ih =>
      cases finds' with
      | own recorded' => exact absurd recorded' (unrecorded _)
      | above _ derived' found' =>
          rw [derived_unique derived' derived] at found'
          exact ih found'

theorem Tracks.reports_unique (tracks : Tracks calls) {other : String}
    (reports : Reports calls context cause) (reports' : Reports calls context other) :
    cause = other := by
  rcases reports with finds | ⟨none, rfl⟩ <;> rcases reports' with finds' | ⟨none', rfl⟩
  · exact tracks.finds_unique finds finds'
  · exact absurd finds (none' _)
  · exact absurd finds' (none _)
  · rfl

/-- What a derived context without a cause of its own reports, its parent reports. -/
theorem reports_of_parent (unrecorded : ∀ own, ¬Records calls context own)
    (derived : Derived calls parent context) (reports : Reports calls parent cause) :
    Reports calls context cause := by
  rcases reports with finds | ⟨none, same⟩
  · exact Or.inl (.above unrecorded derived finds)
  · refine Or.inr ⟨fun found finds => ?_, same⟩
    cases finds with
    | own recorded => exact unrecorded found recorded
    | above _ derived' finds =>
        rw [derived_unique derived' derived] at finds
        exact none found finds

theorem reports_default (unrecorded : ∀ own, ¬Records calls context own)
    (silent : ∀ parent, Derived calls parent context → ¬Felled calls parent.token) :
    Reports calls context defaultCause := by
  refine Or.inr ⟨fun found finds => ?_, rfl⟩
  cases finds with
  | own recorded => exact unrecorded found recorded
  | above _ derived finds => exact silent _ derived finds.felled

/-- Whether the state knows of each token of a context if the run cancelled it. -/
def Informed (calls : List ContextCall) (context : Context) : Prop :=
  ∀ token ∈ context.tokens,
    ((after calls).state.tokenCancelled token = true ↔ Felled calls token)

theorem Informed.above (informed : Informed calls context)
    (derived : Derived calls parent context) : Informed calls parent := by
  intro token member
  refine informed token (List.mem_cons_of_mem _ ?_)
  rw [above_of_derived derived]
  exact member

theorem Informed.isCancelled_iff (informed : Informed calls context) :
    (after calls).state.isCancelled context = true ↔ Felled calls context.token :=
  informed context.token List.mem_cons_self

section Reporting

variable (tracks : Tracks calls) (made : ∃ maker, Makes calls maker context)
  (informed : Informed calls context) (felled : Felled calls context.token)

include tracks made informed felled

/-- What a cancelled context reports is right if this holds of the one that it was derived from. -/
theorem Tracks.report_step
    (inherited : ∀ parent, Derived calls parent context → Felled calls parent.token →
      ∃ cause, (after calls).state.cause parent = some cause ∧ Reports calls parent cause) :
    ∃ cause, (after calls).state.cause context = some cause ∧ Reports calls context cause := by
  rcases made with ⟨maker, makes⟩
  have cancelled := informed.isCancelled_iff.mpr felled
  cases recorded : (after calls).state.recorded context.own.record with
  | some cause =>
      refine ⟨cause, cause_of_recorded cancelled recorded, Or.inl (.own ?_)⟩
      exact (tracks.recorded maker context makes cause).mp recorded
  | none =>
      have unrecorded (own : String) : ¬Records calls context own := by
        intro records
        rw [(tracks.recorded maker context makes own).mpr records] at recorded
        cases recorded
      refine ⟨_, cause_of_unrecorded cancelled recorded, ?_⟩
      rcases makes with ⟨before, occurs, next, making⟩
      rcases making_above making with ⟨parent, rfl, above⟩ | ⟨-, above⟩
      · have derived : Derived calls parent context := ⟨before, occurs, next, making⟩
        rw [above]
        by_cases parentFelled : Felled calls parent.token
        · rcases inherited parent derived parentFelled with ⟨cause, found, reports⟩
          simp only [Cancellation.cause] at found
          rw [found]
          exact reports_of_parent unrecorded derived reports
        · have live : (after calls).state.cause parent = none := by
            refine cause_of_live (eq_false_of_ne_true fun parentCancelled => ?_)
            exact parentFelled ((informed.above derived).isCancelled_iff.mp parentCancelled)
          simp only [Cancellation.cause] at live
          rw [live]
          refine reports_default unrecorded fun other derived' => ?_
          rw [derived_unique derived' derived]
          exact parentFelled
      · rw [above]
        refine reports_default unrecorded fun parent derived => ?_
        have same := (above_of_derived derived).symm.trans above
        cases same

/-- A cancelled context reports a cause, and it is the one that the run gives it. -/
theorem Tracks.exists_report :
    ∃ cause, (after calls).state.cause context = some cause ∧ Reports calls context cause := by
  generalize chain : context.above = above at *
  induction above generalizing context with
  | nil =>
      refine tracks.report_step made informed felled fun parent derived => ?_
      rw [above_of_derived derived] at chain
      cases chain
  | cons link rest ih =>
      refine tracks.report_step made informed felled fun parent derived parentFelled => ?_
      rw [above_of_derived derived] at chain
      exact ih (tracks.makes_parent derived) (informed.above derived) parentFelled
        (List.cons.inj chain).2

end Reporting

theorem Tracks.informed (tracks : Tracks calls) (held : context ∈ (after calls).held) :
    Informed calls context :=
  fun _ member => tracks.tokenCancelled_iff held member

theorem Tracks.cause_eq_none_iff (tracks : Tracks calls) (held : context ∈ (after calls).held) :
    (after calls).state.cause context = none ↔ ¬Felled calls context.token := by
  rw [← tracks.isCancelled_iff held, ← cause_isSome, Bool.not_eq_true, Option.isSome_eq_false_iff,
    Option.isNone_iff_eq_none]

theorem Tracks.cause_eq_some_iff (tracks : Tracks calls) (held : context ∈ (after calls).held)
    (felled : Felled calls context.token) (cause : String) :
    (after calls).state.cause context = some cause ↔ Reports calls context cause := by
  rcases tracks.exists_report (tracks.made context held) (tracks.informed held) felled with
    ⟨found, same, reports⟩
  rw [same, Option.some.injEq]
  constructor
  · rintro rfl
    exact reports
  · exact tracks.reports_unique reports

/-- What a context tells of itself is what the run amounts to. -/
structure Agrees (calls : List ContextCall) (context : Context) : Prop where
  isCancelled : (after calls).state.isCancelled context = true ↔ Felled calls context.token
  live : (after calls).state.cause context = none ↔ ¬Felled calls context.token
  cause : Felled calls context.token → ∀ cause,
    (after calls).state.cause context = some cause ↔ Reports calls context cause
  recorded : ∀ cause,
    (after calls).state.recorded context.own.record = some cause ↔ Records calls context cause

/-- Every context of which the program holds a handle tells the truth, and no two calls make
contexts that share a record. -/
theorem contexts_agree_of_lawful (lawful : Lawful calls) :
    (∀ context ∈ (after calls).held, Agrees calls context) ∧
      ∀ before call context before' call' context', MakesAt calls before call context →
        MakesAt calls before' call' context' → context.own.record = context'.own.record →
          before = before' ∧ call = call' := by
  have tracks := tracks_of_lawful lawful
  constructor
  · intro context held
    refine ⟨tracks.isCancelled_iff held, tracks.cause_eq_none_iff held,
      tracks.cause_eq_some_iff held, ?_⟩
    rcases tracks.made context held with ⟨maker, makes⟩
    exact tracks.recorded maker context makes
  · intro before call context before' call' context' makes makes' same
    exact makes.eq_of_same_record makes' same

/-- The tokens of three contexts grow under each other. The handle in the middle is dropped, and the
first of the three is cancelled with a cause after another context was derived from it. -/
def grafted : List ContextCall :=
  let root : Context := ⟨⟨0, 0⟩, []⟩
  let inner : Context := ⟨⟨1, 1⟩, []⟩
  [.create, .wrapChild root, .wrapChild inner, .drop inner, .child root,
    .cancel root (some "stop")]

/-- The last of the three is cancelled without a cause of its own, and the derived one for the cause
of the first. -/
theorem contexts_agree_grafted :
    let deep : Context := ⟨⟨2, 2⟩, []⟩
    let derived : Context := ⟨⟨3, 3⟩, [⟨0, 0⟩]⟩
    Lawful grafted ∧ Felled grafted deep.token ∧ Reports grafted deep defaultCause ∧
      Felled grafted derived.token ∧ Reports grafted derived "stop" := by
  intro deep derived
  have lawful : Lawful grafted := by decide +kernel
  have agrees := (contexts_agree_of_lawful lawful).1
  have ofDeep := agrees deep (by decide +kernel)
  have ofDerived := agrees derived (by decide +kernel)
  have deepFelled := ofDeep.isCancelled.mp (by decide +kernel)
  have derivedFelled := ofDerived.isCancelled.mp (by decide +kernel)
  exact ⟨lawful, deepFelled, (ofDeep.cause deepFelled _).mp (by decide +kernel),
    derivedFelled, (ofDerived.cause derivedFelled _).mp (by decide +kernel)⟩

end Tracking

end ContextCall

end Admission
