import Admission.Proofs.Descent
import Mathlib.Data.List.Induction

/-!
# Programs that make and cancel contexts

A program makes contexts, on tokens of their own, derived from others, or around the tokens of
others; it clones them, cancels them and drops its handles. This file says what a run of such calls
amounts to without looking at the state: which token was grown under which, which context was
derived from which, which tokens were cancelled, and which cause a context got.

The state keeps up with all of this as long as every call is made on a context of which the program
holds a handle.
-/

namespace Admission

open Relation

/-- A call of a program that uses contexts. -/
inductive ContextCall where
  | create
  | child (parent : Context)
  | clone (context : Context)
  /-- A context of its own around the token of another. -/
  | wrap (other : Context)
  /-- A context of its own around a token under that of another. -/
  | wrapChild (other : Context)
  | cancel (context : Context) (cause : Option String)
  | cancelToken (context : Context)
  | drop (context : Context)
deriving DecidableEq, Repr

namespace ContextCall

/-- The context on which a call is made. -/
def subject? : ContextCall → Option Context
  | .create => none
  | .child context | .clone context | .wrap context | .wrapChild context | .cancel context _
  | .cancelToken context | .drop context => some context

/-- The token under which a call grows a new one. -/
def under? : ContextCall → Option Nat
  | .child context | .wrapChild context => some context.token
  | .create | .clone _ | .wrap _ | .cancel _ _ | .cancelToken _ | .drop _ => none

/-- The token that a call cancels. -/
def cuts? : ContextCall → Option Nat
  | .cancel context _ | .cancelToken context => some context.token
  | .create | .child _ | .clone _ | .wrap _ | .wrapChild _ | .drop _ => none

/-- The context that a call makes, and the state that it leaves. -/
def making? (state : Cancellation) : ContextCall → Option (Cancellation × Context)
  | .create => some state.create
  | .child context => some (state.child context)
  | .wrap context => some (state.wrap context)
  | .wrapChild context => some (state.wrapChild context)
  | .clone _ | .cancel _ _ | .cancelToken _ | .drop _ => none

end ContextCall

/-- The state of all contexts, and the handles that a program holds. -/
structure Holder where
  state : Cancellation
  held : List Context

namespace Holder

def start : Holder :=
  { state := .empty, held := [] }

def take (holder : Holder) (made : Cancellation × Context) : Holder :=
  { state := made.1, held := made.2 :: holder.held }

def perform (holder : Holder) : ContextCall → Holder
  | .create => holder.take holder.state.create
  | .child context => holder.take (holder.state.child context)
  | .wrap context => holder.take (holder.state.wrap context)
  | .wrapChild context => holder.take (holder.state.wrapChild context)
  | .clone context => holder.take (holder.state.clone context, context)
  | .cancel context cause => { holder with state := (holder.state.cancel context cause).1 }
  | .cancelToken context => { holder with state := (holder.state.cancelToken context.token).1 }
  | .drop context =>
      { state := holder.state.drop context, held := holder.held.erase context }

/-- Whether the program holds what the call is made on. -/
def Allows (holder : Holder) (call : ContextCall) : Prop :=
  ∀ context ∈ call.subject?, context ∈ holder.held

instance (holder : Holder) (call : ContextCall) : Decidable (holder.Allows call) :=
  inferInstanceAs (Decidable (∀ context ∈ call.subject?, context ∈ holder.held))

end Holder

namespace ContextCall

def after (calls : List ContextCall) : Holder :=
  calls.foldl Holder.perform .start

/-- Whether every call of a run is made on a context that is held. -/
def LawfulFrom : Holder → List ContextCall → Prop
  | _, [] => True
  | holder, call :: rest => holder.Allows call ∧ LawfulFrom (holder.perform call) rest

def decidableLawfulFrom : (holder : Holder) → (calls : List ContextCall) →
    Decidable (LawfulFrom holder calls)
  | _, [] => .isTrue trivial
  | holder, call :: rest =>
      have := decidableLawfulFrom (holder.perform call) rest
      inferInstanceAs (Decidable (holder.Allows call ∧ LawfulFrom (holder.perform call) rest))

instance (holder : Holder) (calls : List ContextCall) : Decidable (LawfulFrom holder calls) :=
  decidableLawfulFrom holder calls

abbrev Lawful (calls : List ContextCall) : Prop :=
  LawfulFrom .start calls

/-! ### What a run amounts to -/

/-- A call that follows on some others of the run makes a context. -/
def MakesAt (calls before : List ContextCall) (call : ContextCall) (context : Context) : Prop :=
  before ++ [call] <+: calls ∧ ∃ next, call.making? (after before).state = some (next, context)

def Makes (calls : List ContextCall) (call : ContextCall) (context : Context) : Prop :=
  ∃ before, MakesAt calls before call context

/-- A token was grown under another. -/
def Grown (calls : List ContextCall) (upper lower : Nat) : Prop :=
  ∃ call context, Makes calls call context ∧ call.under? = some upper ∧ context.token = lower

/-- A context was derived from another. -/
def Derived (calls : List ContextCall) (parent context : Context) : Prop :=
  Makes calls (.child parent) context

/-- A token was cancelled itself. -/
def Cut (calls : List ContextCall) (token : Nat) : Prop :=
  ∃ call ∈ calls, call.cuts? = some token

/-- A token or one that it descends from was cancelled. -/
def Felled (calls : List ContextCall) (token : Nat) : Prop :=
  ∃ upper, ReflTransGen (Grown calls) upper token ∧ Cut calls upper

/-- A context was cancelled with a cause while it was live. -/
def Records (calls : List ContextCall) (context : Context) (cause : String) : Prop :=
  ∃ before, before ++ [.cancel context (some cause)] <+: calls ∧ ¬Felled before context.token

section Runs

variable {calls before : List ContextCall} {call last : ContextCall} {context : Context}
  {upper lower token : Nat} {cause : String} {holder : Holder}

theorem after_concat (calls : List ContextCall) (last : ContextCall) :
    after (calls ++ [last]) = (after calls).perform last :=
  List.foldl_concat ..

theorem lawfulFrom_append (holder : Holder) (calls more : List ContextCall) :
    LawfulFrom holder (calls ++ more) ↔
      LawfulFrom holder calls ∧ LawfulFrom (calls.foldl Holder.perform holder) more := by
  induction calls generalizing holder with
  | nil => simp [LawfulFrom]
  | cons call rest ih => simp [LawfulFrom, ih, and_assoc]

theorem lawful_concat :
    Lawful (calls ++ [last]) ↔ Lawful calls ∧ (after calls).Allows last := by
  rw [Lawful, lawfulFrom_append]
  exact and_congr_right fun _ => and_iff_left trivial

theorem occurs_concat :
    before ++ [call] <+: calls ++ [last] ↔
      before ++ [call] <+: calls ∨ (before = calls ∧ call = last) := by
  rw [List.prefix_concat_iff, or_comm]
  refine or_congr_right ⟨fun same => ?_, fun ⟨first, second⟩ => by rw [first, second]⟩
  exact ⟨List.append_inj_left' same rfl, by simpa using List.append_inj_right' same rfl⟩

theorem makes_concat :
    Makes (calls ++ [last]) call context ↔ Makes calls call context ∨
      (call = last ∧ ∃ next, last.making? (after calls).state = some (next, context)) := by
  simp only [Makes, MakesAt, occurs_concat, or_and_right, exists_or]
  refine or_congr_right ⟨?_, ?_⟩
  · rintro ⟨before, ⟨rfl, rfl⟩, made⟩
    exact ⟨rfl, made⟩
  · rintro ⟨rfl, made⟩
    exact ⟨calls, ⟨rfl, rfl⟩, made⟩

theorem grown_concat :
    Grown (calls ++ [last]) upper lower ↔ Grown calls upper lower ∨
      (last.under? = some upper ∧
        ∃ next context, last.making? (after calls).state = some (next, context) ∧
          context.token = lower) := by
  simp only [Grown, makes_concat, or_and_right, exists_or]
  refine or_congr_right ⟨?_, ?_⟩
  · rintro ⟨call, context, ⟨rfl, next, made⟩, under, same⟩
    exact ⟨under, next, context, made, same⟩
  · rintro ⟨under, next, context, made, same⟩
    exact ⟨last, context, ⟨rfl, next, made⟩, under, same⟩

theorem cut_concat : Cut (calls ++ [last]) token ↔ Cut calls token ∨ last.cuts? = some token := by
  simp [Cut, or_and_right, exists_or]

theorem records_concat :
    Records (calls ++ [last]) context cause ↔ Records calls context cause ∨
      (last = .cancel context (some cause) ∧ ¬Felled calls context.token) := by
  simp only [Records, occurs_concat, or_and_right, exists_or]
  refine or_congr_right ⟨?_, ?_⟩
  · rintro ⟨before, ⟨rfl, rfl⟩, live⟩
    exact ⟨rfl, live⟩
  · rintro ⟨rfl, live⟩
    exact ⟨calls, ⟨rfl, rfl⟩, live⟩

theorem Makes.mono {more : List ContextCall} (makes : Makes calls call context)
    (goesOn : calls <+: more) : Makes more call context := by
  rcases makes with ⟨before, occurs, made⟩
  exact ⟨before, occurs.trans goesOn, made⟩

theorem Grown.mono {more : List ContextCall} (grown : Grown calls upper lower)
    (goesOn : calls <+: more) : Grown more upper lower := by
  rcases grown with ⟨call, context, makes, under, same⟩
  exact ⟨call, context, makes.mono goesOn, under, same⟩

theorem Felled.mono {more : List ContextCall} (felled : Felled calls token)
    (goesOn : calls <+: more) : Felled more token := by
  rcases felled with ⟨upper, path, call, member, cuts⟩
  exact ⟨upper, ReflTransGen.mono (fun _ _ grown => grown.mono goesOn) _ _ path,
    call, goesOn.subset member, cuts⟩

theorem Records.mono {more : List ContextCall} (records : Records calls context cause)
    (goesOn : calls <+: more) : Records more context cause := by
  rcases records with ⟨before, occurs, live⟩
  exact ⟨before, occurs.trans goesOn, live⟩

/-- A context that got a cause is cancelled. -/
theorem Records.felled (records : Records calls context cause) : Felled calls context.token := by
  rcases records with ⟨before, occurs, -⟩
  have member : ContextCall.cancel context (some cause) ∈ calls :=
    occurs.subset (List.mem_append_right _ List.mem_cons_self)
  exact ⟨context.token, .refl, _, member, rfl⟩

theorem Felled.below (felled : Felled calls upper) (grown : Grown calls upper lower) :
    Felled calls lower := by
  rcases felled with ⟨top, path, cut⟩
  exact ⟨top, path.tail grown, cut⟩

theorem grown_of_derived {parent : Context} (derived : Derived calls parent context) :
    Grown calls parent.token context.token :=
  ⟨_, context, derived, rfl, rfl⟩

end Runs

end ContextCall

/-! ### What a call does to the state -/

namespace Cancellation

variable {state : Cancellation}

theorem newTokenUnder_causes (state : Cancellation) (parent : Nat) :
    (state.newTokenUnder parent).1.causes = state.causes := by
  simp only [newTokenUnder]
  split <;> rfl

theorem around_causes (state : Cancellation) (token : Nat) (above : List Link) :
    (state.around token above).1.causes = state.causes.push none := by
  rcases state.newRecord.1.clone_frame (state.around token above).2 with ⟨holders, same, -⟩
  exact congrArg Cancellation.causes same

theorem letGo_causes (state : Cancellation) (token : Nat) :
    (state.letGo token).causes = state.causes := by
  simp only [letGo]
  split <;> rfl

theorem drop_causes (state : Cancellation) (context : Context) :
    (state.drop context).causes = state.causes :=
  List.foldlRecOn (motive := fun later : Cancellation => later.causes = state.causes)
    context.links _ rfl fun later same link _ => (later.letGo_causes link.token).trans same

theorem cancelToken_causes (state : Cancellation) (token : Nat) :
    (state.cancelToken token).1.causes = state.causes := by
  simp only [cancelToken]
  split <;> rfl

theorem recorded_congr {next : Cancellation} (causes : next.causes = state.causes) (record : Nat) :
    next.recorded record = state.recorded record := by
  rw [recorded, recorded, causes]

theorem recorded_push {next : Cancellation} (causes : next.causes = state.causes.push none)
    (record : Nat) : next.recorded record = state.recorded record := by
  rw [recorded, recorded, causes, Array.getElem?_push]
  split
  · rename_i last
    simp [last]
  · rfl

/-- A live context without a cause takes the one that it is given. -/
theorem recorded_recordCause {context : Context} {cause : String}
    (live : state.isCancelled context = false) (inside : context.own.record < state.causes.size)
    (record : Nat) :
    (state.recordCause context cause).recorded record =
      if record = context.own.record then some ((state.recorded record).getD cause)
      else state.recorded record := by
  simp only [recordCause, live, Bool.false_eq_true, if_false, recorded, Array.getElem?_modify]
  split
  · rename_i same
    subst same
    simp [Array.getElem?_eq_getElem inside]
  · rename_i apart
    rw [if_neg (Ne.symm apart)]

end Cancellation

namespace ContextCall

open Cancellation

variable {calls before : List ContextCall} {call last : ContextCall} {context : Context}
  {state next : Cancellation} {upper lower token : Nat} {cause : String}
  {grown : Nat → Nat → Prop} {cut : Nat → Prop}

theorem made_of_some {made : Cancellation × Context} (making : some made = some (next, context)) :
    made.1 = next ∧ made.2 = context := by
  cases making
  exact ⟨rfl, rfl⟩

section Making

variable (making : call.making? state = some (next, context))

include making

theorem perform_of_making {held : List Context} :
    Holder.perform ⟨state, held⟩ call = ⟨next, context :: held⟩ := by
  cases call with
  | create | child parent | wrap other | wrapChild other =>
      simp only [making?, Option.some.injEq] at making
      simp only [Holder.perform, Holder.take, making]
  | clone other | cancel other cause | cancelToken other | drop other => cases making

/-- A context that is made gets a record of its own, without a cause. -/
theorem making_record :
    next.causes = state.causes.push none ∧ context.own.record = state.causes.size := by
  have under (parent : Nat) (above : List Link) :
      ((state.newTokenUnder parent).1.around (state.newTokenUnder parent).2 above).1.causes =
        state.causes.push none ∧
      (state.newTokenUnder parent).1.causes.size = state.causes.size := by
    rw [around_causes, newTokenUnder_causes]
    exact ⟨rfl, rfl⟩
  cases call with
  | create | wrap other =>
      rcases made_of_some making with ⟨rfl, rfl⟩
      exact ⟨around_causes _ _ _, rfl⟩
  | child other | wrapChild other =>
      rcases made_of_some making with ⟨rfl, rfl⟩
      exact under other.token _
  | clone other | cancel other cause | cancelToken other | drop other => cases making

theorem cuts_of_making : call.cuts? = none := by
  cases call with
  | create | child parent | wrap other | wrapChild other => rfl
  | clone other | cancel other cause | cancelToken other | drop other => cases making

theorem making_above :
    (∃ parent, call = .child parent ∧ context.above = parent.links) ∨
      ((∀ parent, call ≠ .child parent) ∧ context.above = []) := by
  cases call with
  | child parent =>
      rcases made_of_some making with ⟨rfl, rfl⟩
      exact Or.inl ⟨parent, rfl, rfl⟩
  | create | wrap other | wrapChild other =>
      rcases made_of_some making with ⟨rfl, rfl⟩
      exact Or.inr ⟨fun _ => nofun, rfl⟩
  | clone other | cancel other cause | cancelToken other | drop other => cases making

theorem making_provides (rooted : state.Rooted)
    (holds : ∀ subject ∈ call.subject?, state.Holds subject) : state.Provides next context := by
  cases call with
  | create =>
      rcases made_of_some making with ⟨rfl, rfl⟩
      exact rooted.create
  | child parent =>
      rcases made_of_some making with ⟨rfl, rfl⟩
      exact (rooted.child (holds parent rfl)).1
  | wrap other =>
      rcases made_of_some making with ⟨rfl, rfl⟩
      exact rooted.wrap (holds other rfl)
  | wrapChild other =>
      rcases made_of_some making with ⟨rfl, rfl⟩
      exact rooted.wrapChild (holds other rfl)
  | clone other | cancel other cause | cancelToken other | drop other => cases making

/-- A new token was grown under the one that the call names. -/
theorem making_follows (follows : state.Follows grown cut)
    (holds : ∀ subject ∈ call.subject?, state.Holds subject) :
    next.Follows (fun upper lower => grown upper lower ∨
      (call.under? = some upper ∧ context.token = lower)) cut := by
  have rooted := (making_provides making follows.rooted holds).rooted
  have under (other : Context) (held : state.Holds other) :
      (state.newTokenUnder other.token).1.Follows (fun upper lower => grown upper lower ∨
        (some other.token = some upper ∧ (state.newTokenUnder other.token).2 = lower)) cut := by
    have known := follows.rooted.rooted _ (held other.token List.mem_cons_self)
    refine (follows.newTokenUnder known).of_iff (fun upper lower => ?_) fun _ => Iff.rfl
    simp only [state.newTokenUnder_token, Option.some.injEq, eq_comm]
  cases call with
  | create =>
      rcases made_of_some making with ⟨rfl, rfl⟩
      exact (follows.newToken.around rooted).of_iff (by simp [under?]) fun _ => Iff.rfl
  | wrap other =>
      rcases made_of_some making with ⟨rfl, rfl⟩
      exact (follows.around rooted).of_iff (by simp [under?]) fun _ => Iff.rfl
  | child other =>
      rcases made_of_some making with ⟨rfl, rfl⟩
      exact (under other (holds other rfl)).around rooted
  | wrapChild other =>
      rcases made_of_some making with ⟨rfl, rfl⟩
      exact (under other (holds other rfl)).around rooted
  | clone other | cancel other cause | cancelToken other | drop other => cases making

end Making

/-- A call that makes no context leaves all records, but for the one that it fills. -/
theorem perform_causes (held : List Context) (making : call.making? state = none) :
    ((∀ other cause, call ≠ .cancel other (some cause)) ∧
        (Holder.perform ⟨state, held⟩ call).state.causes = state.causes) ∨
      ∃ other cause, call = .cancel other (some cause) ∧
        (Holder.perform ⟨state, held⟩ call).state.causes =
          (state.recordCause other cause).causes := by
  cases call with
  | create | child parent | wrap other | wrapChild other => cases making
  | clone other =>
      rcases state.clone_frame other with ⟨holders, same, -⟩
      have causes := congrArg Cancellation.causes same
      exact Or.inl ⟨nofun, causes⟩
  | cancel other given =>
      cases given with
      | none => exact Or.inl ⟨nofun, cancelToken_causes _ _⟩
      | some given => exact Or.inr ⟨other, given, rfl, cancelToken_causes _ _⟩
  | cancelToken other => exact Or.inl ⟨nofun, cancelToken_causes _ _⟩
  | drop other => exact Or.inl ⟨nofun, state.drop_causes other⟩

theorem causes_size_le_concat (calls : List ContextCall) (last : ContextCall) :
    (after calls).state.causes.size ≤ (after (calls ++ [last])).state.causes.size := by
  rw [after_concat]
  cases making : last.making? (after calls).state with
  | some made =>
      rw [perform_of_making making, (making_record making).1, Array.size_push]
      exact Nat.le_succ _
  | none =>
      rcases perform_causes (after calls).held making with
        ⟨-, same⟩ | ⟨other, cause, -, same⟩
      · exact Nat.le_of_eq (congrArg Array.size same.symm)
      · rw [same, recordCause]
        split <;> simp

theorem causes_size_mono (goesOn : before <+: calls) :
    (after before).state.causes.size ≤ (after calls).state.causes.size := by
  rcases goesOn with ⟨rest, rfl⟩
  induction rest using List.reverseRecOn with
  | nil => simp
  | append_singleton rest last ih =>
      rw [← List.append_assoc]
      exact Nat.le_trans ih (causes_size_le_concat _ last)

theorem MakesAt.record_lt (makes : MakesAt calls before call context) :
    context.own.record < (after calls).state.causes.size := by
  rcases makes with ⟨occurs, next, making⟩
  refine Nat.lt_of_lt_of_le ?_ (causes_size_mono occurs)
  rw [after_concat, perform_of_making making, (making_record making).1, (making_record making).2,
    Array.size_push]
  exact Nat.lt_succ_self _

theorem Makes.record_lt (makes : Makes calls call context) :
    context.own.record < (after calls).state.causes.size := by
  rcases makes with ⟨before, makes⟩
  exact makes.record_lt

section Records

variable {before' : List ContextCall} {call' : ContextCall} {context' : Context}

theorem MakesAt.record_ne (makes : MakesAt calls before call context)
    (makes' : MakesAt calls before' call' context') (earlier : before.length < before'.length) :
    context.own.record ≠ context'.own.record := by
  rcases makes with ⟨occurs, made⟩
  rcases makes' with ⟨occurs', next, making⟩
  have inside : before ++ [call] <+: before' := by
    refine List.prefix_of_prefix_length_le occurs ((List.prefix_append _ _).trans occurs') ?_
    rw [List.length_append, List.length_singleton]
    exact earlier
  have older : MakesAt before' before call context := ⟨inside, made⟩
  rw [(making_record making).2]
  exact Nat.ne_of_lt older.record_lt

/-- Every context that is made has a record of its own. -/
theorem MakesAt.eq_of_same_record (makes : MakesAt calls before call context)
    (makes' : MakesAt calls before' call' context')
    (same : context.own.record = context'.own.record) : before = before' ∧ call = call' := by
  rcases Nat.lt_trichotomy before.length before'.length with earlier | equal | later
  · exact absurd same (makes.record_ne makes' earlier)
  · have whole := List.prefix_of_prefix_length_le makes.1 makes'.1 (by simp [equal])
    have equalLists := whole.eq_of_length (by simp [equal])
    exact ⟨List.append_inj_left' equalLists rfl,
      by simpa using List.append_inj_right' equalLists rfl⟩
  · exact absurd same.symm (makes'.record_ne makes later)

theorem Makes.eq_of_same_record (makes : Makes calls call context)
    (makes' : Makes calls call' context') (same : context.own.record = context'.own.record) :
    context = context' := by
  rcases makes with ⟨before, makes⟩
  rcases makes' with ⟨before', makes'⟩
  rcases makes.eq_of_same_record makes' same with ⟨rfl, rfl⟩
  rcases makes with ⟨-, next, making⟩
  rcases makes' with ⟨-, next', making'⟩
  rw [making] at making'
  cases making'
  rfl

end Records

end ContextCall

end Admission
