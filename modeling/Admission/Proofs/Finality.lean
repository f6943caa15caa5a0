import Admission.Proofs.Causes

/-!
# How long a reported cause stands

A context that reports a recorded cause reports it for ever. The default is reported only as long as
nobody on the chain above the context has recorded a cause, and it gives way at most once: to the
cause with which the first context on the chain that is still live is cancelled.

The reason is that a context records a cause only while it is live. When a context is cancelled,
everything that was derived from it is cancelled with it, and so nothing can come in between a
context and the place where it found its cause.
-/

namespace Admission

open Relation

namespace ContextCall

variable {early late calls more before : List ContextCall} {call maker : ContextCall}
  {context parent : Context} {token : Nat} {cause : String}

/-! ### What was found is found again -/

/-- Whatever was cancelled early records no cause late. -/
theorem Records.of_felled (records : Records (calls ++ more) context cause)
    (felled : Felled calls context.token) : Records calls context cause := by
  rcases records with ⟨before, occurs, live⟩
  rcases List.prefix_or_prefix_of_prefix occurs (List.prefix_append calls more) with inside | beyond
  · exact ⟨before, inside, live⟩
  · rcases List.prefix_concat_iff.mp beyond with rfl | earlier
    · exact ⟨before, List.prefix_refl _, live⟩
    · exact absurd (felled.mono earlier) live

theorem Derived.mono (derived : Derived calls parent context) (goesOn : calls <+: more) :
    Derived more parent context :=
  Makes.mono derived goesOn

/-- A context is derived when it is made, and not later. -/
theorem Derived.of_makes (derived : Derived (calls ++ more) parent context)
    (makes : Makes calls maker context) : Derived calls parent context := by
  rcases makes with ⟨before, occurs, made⟩
  rcases derived with ⟨before', derived⟩
  have makes : MakesAt (calls ++ more) before maker context :=
    ⟨occurs.trans (List.prefix_append _ _), made⟩
  rcases makes.eq_of_same_record derived rfl with ⟨rfl, rfl⟩
  exact ⟨before, occurs, made⟩

theorem Finds.append (finds : Finds calls context cause) (more : List ContextCall) :
    Finds (calls ++ more) context cause := by
  induction finds with
  | own recorded => exact .own (recorded.mono (List.prefix_append _ _))
  | above unrecorded derived found ih =>
      refine .above (fun own records => ?_) (derived.mono (List.prefix_append _ _)) ih
      have felled := found.felled.below (grown_of_derived derived)
      exact unrecorded own (records.of_felled felled)

/-! ### What was not found before -/

/-- A context that has found no cause until now finds the one that is recorded by the last call, and
only on a context above it that was live until then. -/
theorem Tracks.finds_last (tracks : Tracks calls) (makes : ∃ maker, Makes calls maker context)
    (unfound : ∀ found, ¬Finds calls context found)
    (finds : Finds (calls ++ [call]) context cause) :
    ∃ ancestor, call = .cancel ancestor (some cause) ∧ ¬Felled calls ancestor.token ∧
      ReflTransGen (Derived calls) ancestor context := by
  induction finds with
  | @own context cause recorded =>
      rcases records_concat.mp recorded with before | ⟨rfl, live⟩
      · exact absurd (.own before) (unfound cause)
      · exact ⟨context, rfl, live, .refl⟩
  | @above parent context cause unrecorded derived _ ih =>
      rcases makes with ⟨maker, makes⟩
      have derivedBefore := derived.of_makes makes
      have unfoundAbove (found : String) : ¬Finds calls parent found := fun above =>
        unfound found (.above (fun own records =>
          unrecorded own (records.mono (List.prefix_append _ _))) derivedBefore above)
      rcases ih (tracks.makes_parent derivedBefore) unfoundAbove with ⟨ancestor, same, live, path⟩
      exact ⟨ancestor, same, live, path.tail derivedBefore⟩

/-- A cause that takes the place of the default: the first one that is recorded on a live context
above one that has found none. -/
def Overtakes (early late : List ContextCall) (context : Context) (given : String) : Prop :=
  ∃ before ancestor rest, late = before ++ .cancel ancestor (some given) :: rest ∧
    (∀ found, ¬Finds (early ++ before) context found) ∧
    ¬Felled (early ++ before) ancestor.token ∧
    TransGen (Derived (early ++ before)) ancestor context

theorem Overtakes.append {given : String} (overtakes : Overtakes early late context given)
    (more : List ContextCall) : Overtakes early (late ++ more) context given := by
  rcases overtakes with ⟨before, ancestor, rest, rfl, unfound, live, path⟩
  exact ⟨before, ancestor, rest ++ more, by simp, unfound, live, path⟩

/-- A cancelled context that found no cause finds none later, or is overtaken by the one that it
finds. -/
theorem finds_of_overtakes (lawful : Lawful (early ++ late))
    (makes : ∃ maker, Makes early maker context) (felled : Felled early context.token)
    (unfound : ∀ found, ¬Finds early context found) :
    (∀ found, ¬Finds (early ++ late) context found) ∨
      ∃ given, Overtakes early late context given ∧ Finds (early ++ late) context given := by
  induction late using List.reverseRecOn with
  | nil =>
      rw [List.append_nil]
      exact Or.inl unfound
  | append_singleton late last ih =>
      rw [← List.append_assoc] at lawful ⊢
      have before := (lawful_concat.mp lawful).1
      rcases ih before with still | ⟨given, overtakes, finds⟩
      · by_cases found : ∃ given, Finds (early ++ late ++ [last]) context given
        · rcases found with ⟨given, finds⟩
          have madeBefore : ∃ maker, Makes (early ++ late) maker context := by
            rcases makes with ⟨maker, makes⟩
            exact ⟨maker, makes.mono (List.prefix_append _ _)⟩
          rcases (tracks_of_lawful before).finds_last madeBefore still finds with
            ⟨ancestor, rfl, live, path⟩
          -- The context itself is not live any more, so that the cause comes from above it.
          rcases reflTransGen_iff_eq_or_transGen.mp path with rfl | above
          · exact absurd (felled.mono (List.prefix_append _ _)) live
          · exact Or.inr ⟨given, ⟨late, ancestor, [], rfl, still, live, above⟩, finds⟩
        · exact Or.inl (not_exists.mp found)
      · exact Or.inr ⟨given, overtakes.append [last], finds.append [last]⟩

/-! ### Later reports -/

/-- What a context that has reported a cause reports later. -/
inductive Stands (early late : List ContextCall) (context : Context) (reported : String) :
    Option String → Prop where
  /-- A recorded cause is final. -/
  | final (found : Finds early context reported) :
      Stands early late context reported (some reported)
  | default (unfound : ∀ found, ¬Finds (early ++ late) context found)
      (same : reported = defaultCause) : Stands early late context reported (some defaultCause)
  | overtaken {given : String} (unfound : ∀ found, ¬Finds early context found)
      (same : reported = defaultCause) (overtakes : Overtakes early late context given) :
      Stands early late context reported (some given)

/-- A reported cause stands, unless it is the default and a context above is cancelled with a cause
for the first time. -/
theorem cause_stands_of_lawful (lawful : Lawful (early ++ late))
    (held : context ∈ (after early).held) (stillHeld : context ∈ (after (early ++ late)).held)
    (reported : (after early).state.cause context = some cause) :
    Stands early late context cause ((after (early ++ late)).state.cause context) := by
  have lawfulEarly := ((lawfulFrom_append .start early late).mp lawful).1
  have tracks := tracks_of_lawful lawfulEarly
  have later := tracks_of_lawful lawful
  have felled : Felled early context.token := by
    by_contra live
    rw [(tracks.cause_eq_none_iff held).mpr live] at reported
    cases reported
  have felledLater := felled.mono (List.prefix_append early late)
  have reports {given : String} (found : Reports (early ++ late) context given) :
      (after (early ++ late)).state.cause context = some given :=
    (later.cause_eq_some_iff stillHeld felledLater given).mpr found
  rcases (tracks.cause_eq_some_iff held felled cause).mp reported with finds | ⟨unfound, same⟩
  · rw [reports (Or.inl (finds.append late))]
    exact .final finds
  · rcases finds_of_overtakes lawful (tracks.made context held) felled unfound with
      still | ⟨given, overtakes, finds⟩
    · rw [reports (Or.inr ⟨still, rfl⟩)]
      exact .default still same
    · rw [reports (Or.inl finds)]
      exact .overtaken unfound same overtakes

/-! ### The default gives way -/

def builds : ContextCall → Bool
  | .create | .child _ | .clone _ => true
  | .wrap _ | .wrapChild _ | .cancel _ _ | .cancelToken _ | .drop _ => false

def cancels : ContextCall → Bool
  | .cancel _ _ => true
  | .create | .child _ | .clone _ | .wrap _ | .wrapChild _ | .cancelToken _ | .drop _ => false

/-- A context and one that is derived from it. -/
def pair : List ContextCall :=
  [.create, .child ⟨⟨0, 0⟩, []⟩]

/-- The derived one is cancelled. -/
def without : List ContextCall :=
  [.cancel ⟨⟨1, 1⟩, [⟨0, 0⟩]⟩ none]

/-- The one above is cancelled for a cause. -/
def withCause : List ContextCall :=
  [.cancel ⟨⟨0, 0⟩, []⟩ (some "stop")]

theorem cause_stands_pair :
    let leaf : Context := ⟨⟨1, 1⟩, [⟨0, 0⟩]⟩
    Lawful (pair ++ without ++ withCause) ∧
      Stands (pair ++ without) withCause leaf defaultCause (some "stop") := by
  intro leaf
  have lawful : Lawful (pair ++ without ++ withCause) := by decide +kernel
  have later : (after (pair ++ without ++ withCause)).state.cause leaf = some "stop" := by
    decide +kernel
  have stands : Stands (pair ++ without) withCause leaf defaultCause
      ((after (pair ++ without ++ withCause)).state.cause leaf) :=
    cause_stands_of_lawful lawful (by decide +kernel) (by decide +kernel) (by decide +kernel)
  rw [later] at stands
  exact ⟨lawful, stands⟩

/-- Not every cause that was reported stays the one that is reported. -/
theorem reported_cause_changes :
    ¬∀ tree early late : List ContextCall, (∀ call ∈ tree, call.builds = true) →
      (∀ call ∈ early ++ late, call.cancels = true) → Lawful (tree ++ early ++ late) →
      ∀ context ∈ (after (tree ++ early)).held, ∀ cause,
        (after (tree ++ early)).state.cause context = some cause →
          (after (tree ++ early ++ late)).state.cause context = some cause := by
  intro final
  have kept := final pair without withCause (by decide) (by decide) (by decide +kernel)
    ⟨⟨1, 1⟩, [⟨0, 0⟩]⟩ (by decide +kernel) defaultCause (by decide +kernel)
  exact absurd kept (by decide +kernel)

end ContextCall

end Admission
