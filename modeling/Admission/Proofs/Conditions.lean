import Admission.Scenario.ResourceScript
import Mathlib.Data.List.Induction
import Mathlib.Data.List.Nodup

/-!
# Conditions that are set

The list of conditions of a job is open to any writer, so that a kind may occur in it more than
once. A call that sets a kind reaches the first condition of the kind only, or adds one where there
is none; whether a job is finished is asked of all of them. A condition of the kind that stands
behind the first one therefore lingers: it goes on to hold whatever is set.

What a call does is said once, of the conditions of one kind in their order. The rest follows from
that: what holds of a kind afterwards, whether the job is finished, and what a whole sequence of
calls leaves. Where no kind is repeated nothing lingers, and a call sets what it is called for.
-/

namespace Admission

namespace ConditionKind

/-- The kinds after which a job does not go on. -/
def terminals : List ConditionKind :=
  [complete, failed]

theorem mem_terminals (kind : ConditionKind) : kind ∈ terminals ↔ kind.isTerminal = true := by
  cases kind <;> decide

end ConditionKind

namespace Condition

/-- The conditions of a kind, in their order. -/
def ofKind (kind : ConditionKind) (conditions : List Condition) : List Condition :=
  conditions.filter fun condition => condition.kind == kind

section Set

variable {kind other : ConditionKind} {flag : Bool} {conditions : List Condition}

theorem ofKind_cons_self {condition : Condition} (same : condition.kind = kind) :
    ofKind kind (condition :: conditions) = condition :: ofKind kind conditions := by
  simp [ofKind, same]

theorem ofKind_cons_of_ne {condition : Condition} (apart : condition.kind ≠ kind) :
    ofKind kind (condition :: conditions) = ofKind kind conditions := by
  simp [ofKind, apart]

/-- Of the conditions of its kind a call replaces the first one, or adds one. -/
theorem ofKind_setCondition (kind : ConditionKind) (flag : Bool) (conditions : List Condition) :
    ofKind kind (setCondition kind flag conditions) =
      ⟨kind, flag⟩ :: (ofKind kind conditions).tail := by
  induction conditions with
  | nil => exact ofKind_cons_self rfl
  | cons condition rest ih =>
      by_cases same : condition.kind = kind
      · rw [setCondition, if_pos same, ofKind_cons_self same, List.tail_cons]
        exact ofKind_cons_self rfl
      · rw [setCondition, if_neg same, ofKind_cons_of_ne same, ofKind_cons_of_ne same]
        exact ih

theorem filter_setCondition (kind : ConditionKind) (flag : Bool) (conditions : List Condition) :
    (setCondition kind flag conditions).filter (fun condition => condition.kind != kind) =
      conditions.filter fun condition => condition.kind != kind := by
  induction conditions with
  | nil => simp [setCondition]
  | cons condition rest ih =>
      by_cases same : condition.kind = kind
      · simp [setCondition, same]
      · simp [setCondition, same, ih]

theorem ofKind_setCondition_of_ne (apart : other ≠ kind) (flag : Bool)
    (conditions : List Condition) :
    ofKind other (setCondition kind flag conditions) = ofKind other conditions := by
  have among (listed : List Condition) :
      ofKind other (listed.filter fun condition => condition.kind != kind) =
        ofKind other listed := by
    rw [ofKind, List.filter_filter]
    apply List.filter_congr
    intro condition _
    by_cases same : condition.kind = other
    · simp [same, apart]
    · simp [same]
  rw [← among, filter_setCondition, among]

end Set

end Condition

namespace JobStatus

/-- Whether some condition of a kind holds. -/
def holds (kind : ConditionKind) (status : JobStatus) : Bool :=
  (Condition.ofKind kind status.conditions).any (·.status)

/-- Whether a condition of a kind holds that stands behind another one of the kind. -/
def lingers (kind : ConditionKind) (status : JobStatus) : Bool :=
  (Condition.ofKind kind status.conditions).tail.any (·.status)

/-- A call sets the conditions of its kind and leaves everything else as it is. -/
structure Sets (status : JobStatus) (kind : ConditionKind) (flag : Bool) : Prop where
  own : (status.withCondition kind flag).holds kind = flag
  others : (status.withCondition kind flag).conditions.filter
      (fun condition => condition.kind != kind) =
    status.conditions.filter fun condition => condition.kind != kind
  counters : (status.withCondition kind flag).active = status.active ∧
    (status.withCondition kind flag).succeeded = status.succeeded ∧
    (status.withCondition kind flag).failed = status.failed
  finished : (status.withCondition kind flag).isFinished =
    (flag && kind.isTerminal ||
      ConditionKind.terminals.any fun other => other != kind && status.holds other)

section Set

variable {status : JobStatus} {kind other : ConditionKind} {flag : Bool}

theorem isFinished_eq (status : JobStatus) :
    status.isFinished = ConditionKind.terminals.any fun kind => status.holds kind := by
  rw [Bool.eq_iff_iff]
  simp only [isFinished, holds, Condition.ofKind, List.any_eq_true, List.mem_filter,
    Bool.and_eq_true, beq_iff_eq, ConditionKind.mem_terminals]
  constructor
  · rintro ⟨condition, member, holds, terminal⟩
    exact ⟨condition.kind, terminal, condition, ⟨member, rfl⟩, holds⟩
  · rintro ⟨kind, terminal, condition, ⟨member, rfl⟩, holds⟩
    exact ⟨condition, member, holds, terminal⟩

theorem holds_withCondition (status : JobStatus) (kind : ConditionKind) (flag : Bool) :
    (status.withCondition kind flag).holds kind = (flag || status.lingers kind) := by
  rw [holds, withCondition, Condition.ofKind_setCondition, List.any_cons]
  rfl

theorem holds_withCondition_of_ne (apart : other ≠ kind) (status : JobStatus) (flag : Bool) :
    (status.withCondition kind flag).holds other = status.holds other := by
  rw [holds, withCondition, Condition.ofKind_setCondition_of_ne apart]
  rfl

/-- Whether the job is finished after a call: by the kind of the call, or by another one. -/
theorem isFinished_withCondition (status : JobStatus) (kind : ConditionKind) (flag : Bool) :
    (status.withCondition kind flag).isFinished =
      ((flag || status.lingers kind) && kind.isTerminal ||
        ConditionKind.terminals.any fun other => other != kind && status.holds other) := by
  rw [isFinished_eq, Bool.eq_iff_iff, Bool.or_eq_true, Bool.and_eq_true,
    ← holds_withCondition status kind flag, ← ConditionKind.mem_terminals]
  simp only [List.any_eq_true, Bool.and_eq_true, bne_iff_ne]
  constructor
  · rintro ⟨other, terminal, held⟩
    by_cases own : other = kind
    · subst own
      exact Or.inl ⟨held, terminal⟩
    · rw [holds_withCondition_of_ne own] at held
      exact Or.inr ⟨other, terminal, own, held⟩
  · rintro (⟨held, terminal⟩ | ⟨other, terminal, apart, held⟩)
    · exact ⟨kind, terminal, held⟩
    · refine ⟨other, terminal, ?_⟩
      rw [holds_withCondition_of_ne apart]
      exact held

/-- A call does what it should exactly if it asks for a condition to hold or nothing lingers. -/
theorem sets_iff (status : JobStatus) (kind : ConditionKind) (flag : Bool) :
    status.Sets kind flag ↔ flag = true ∨ status.lingers kind = false := by
  have own := status.holds_withCondition kind flag
  constructor
  · intro sets
    rw [sets.own] at own
    cases flag with
    | true => exact Or.inl rfl
    | false => exact Or.inr (Bool.or_eq_false_iff.mp own.symm).2
  · intro reached
    have same : (flag || status.lingers kind) = flag := by
      rcases reached with rfl | gone
      · rfl
      · rw [gone, Bool.or_false]
    refine ⟨own.trans same, ?_, ⟨rfl, rfl, rfl⟩, ?_⟩
    · exact Condition.filter_setCondition kind flag status.conditions
    · rw [isFinished_withCondition, same]

/-- Of two conditions of a kind that hold the second one outlasts a call: the kind goes on to hold,
and the job stays finished. -/
theorem repeated_condition_outlasts_call :
    let status : JobStatus := { conditions := [⟨.complete, true⟩, ⟨.complete, true⟩] }
    ¬ status.Sets .complete false ∧
      (status.withCondition .complete false).holds .complete = true ∧
      (status.withCondition .complete false).isFinished = true := by
  intro status
  refine ⟨?_, by decide, by decide⟩
  intro sets
  have held : (status.withCondition .complete false).holds .complete = true := by decide
  exact Bool.false_ne_true (sets.own.symm.trans held)

theorem lingers_of_nodup (unrepeated : (status.conditions.map (·.kind)).Nodup)
    (kind : ConditionKind) : status.lingers kind = false := by
  have alone : (Condition.ofKind kind status.conditions).length ≤ 1 := by
    have counted := List.nodup_iff_count_le_one.mp unrepeated kind
    rw [List.count_eq_countP, List.countP_map, List.countP_eq_length_filter] at counted
    exact counted
  have none : (Condition.ofKind kind status.conditions).tail = [] := by
    apply List.eq_nil_of_length_eq_zero
    rw [List.length_tail]
    omega
  rw [lingers, none, List.any_nil]

end Set

end JobStatus

/-- The kind that a step sets, and what it sets it to. -/
def ResourceStep.setting? : ResourceStep → Option (ConditionKind × Bool)
  | complete => some (.complete, true)
  | fail => some (.failed, true)
  | condition kind flag => some (kind, flag)
  | _ => none

/-- What a sequence of steps sets a kind to last. -/
def ResourceStep.lastFlag (kind : ConditionKind) (steps : List ResourceStep) : Option Bool :=
  (steps.filterMap setting?).reverse.lookup kind

namespace JobResource

/-- The resource after a sequence of steps. -/
def afterAll (resource : JobResource) (steps : List ResourceStep) : JobResource :=
  steps.foldl after resource

section Steps

variable {resource : JobResource} {step : ResourceStep} {steps : List ResourceStep}
  {kind : ConditionKind} {flag : Bool}

theorem after_conditions (resource : JobResource) (setting : step.setting? = some (kind, flag)) :
    (resource.after step).status.conditions = setCondition kind flag resource.status.conditions := by
  cases step with
  | complete => cases setting; rfl
  | fail => cases setting; rfl
  | condition kind flag => cases setting; rfl
  | push condition => cases setting
  | status status => cases setting

theorem lastFlag_concat (steps : List ResourceStep) (setting : step.setting? = some (kind, flag))
    (other : ConditionKind) :
    ResourceStep.lastFlag other (steps ++ [step]) =
      if other = kind then some flag else ResourceStep.lastFlag other steps := by
  simp only [ResourceStep.lastFlag, List.filterMap_append, List.filterMap_cons, setting,
    List.filterMap_nil, List.reverse_append, List.reverse_singleton, List.singleton_append,
    List.lookup_cons]
  by_cases same : other = kind
  · simp [same]
  · rw [beq_eq_false_iff_ne.mpr same, if_neg same]

/-- After a sequence of steps the first condition of a kind is the one set last, and those behind it
are as they were. -/
theorem ofKind_afterAll (resource : JobResource)
    (settings : ∀ step ∈ steps, step.setting?.isSome = true) (kind : ConditionKind) :
    Condition.ofKind kind (resource.afterAll steps).status.conditions =
      match ResourceStep.lastFlag kind steps with
      | some flag => ⟨kind, flag⟩ :: (Condition.ofKind kind resource.status.conditions).tail
      | none => Condition.ofKind kind resource.status.conditions := by
  induction steps using List.reverseRecOn with
  | nil => rfl
  | append_singleton steps step ih =>
      have before := ih fun other member => settings other (List.mem_append_left _ member)
      rcases Option.isSome_iff_exists.mp (settings step (by simp)) with ⟨⟨set, flag⟩, setting⟩
      have same : (resource.afterAll (steps ++ [step])).status.conditions =
          setCondition set flag (resource.afterAll steps).status.conditions := by
        rw [afterAll, List.foldl_append]
        exact after_conditions _ setting
      rw [same, lastFlag_concat steps setting]
      by_cases own : kind = set
      · subst own
        rw [if_pos rfl, Condition.ofKind_setCondition, before]
        cases ResourceStep.lastFlag kind steps <;> rfl
      · rw [if_neg own, Condition.ofKind_setCondition_of_ne own, before]

theorem holds_afterAll (resource : JobResource)
    (settings : ∀ step ∈ steps, step.setting?.isSome = true) (kind : ConditionKind) :
    (resource.afterAll steps).status.holds kind =
      match ResourceStep.lastFlag kind steps with
      | some flag => flag || resource.status.lingers kind
      | none => resource.status.holds kind := by
  rw [JobStatus.holds, ofKind_afterAll resource settings]
  cases ResourceStep.lastFlag kind steps <;> rfl

end Steps

/-- What the calls on a resource come to, whatever its list of conditions is. -/
structure Settles (resource : JobResource) : Prop where
  /-- A call does what it should exactly if it asks for a condition to hold or nothing lingers. -/
  sets_iff : ∀ kind flag,
    resource.status.Sets kind flag ↔ flag = true ∨ resource.status.lingers kind = false
  /-- The conditions of its kind hold if the call says so or one of them lingers. -/
  own : ∀ kind flag, (resource.status.withCondition kind flag).holds kind =
    (flag || resource.status.lingers kind)
  /-- No call touches the conditions of another kind, or a counter. -/
  others : ∀ kind flag, (resource.status.withCondition kind flag).conditions.filter
      (fun condition => condition.kind != kind) =
    resource.status.conditions.filter fun condition => condition.kind != kind
  counters : ∀ kind flag,
    { resource.status.withCondition kind flag with conditions := resource.status.conditions } =
      resource.status
  finished : ∀ kind flag, (resource.status.withCondition kind flag).isFinished =
    ((flag || resource.status.lingers kind) && kind.isTerminal ||
      ConditionKind.terminals.any fun other => other != kind && resource.status.holds other)
  completes : resource.complete.isFinished = true
  fails : resource.fail.isFinished = true
  /-- After any calls only what each terminal kind was set to last counts, and what lingers. -/
  runs : ∀ steps : List ResourceStep, (∀ step ∈ steps, step.setting?.isSome = true) →
    (resource.afterAll steps).isFinished = ConditionKind.terminals.any fun kind =>
      match ResourceStep.lastFlag kind steps with
      | some flag => flag || resource.status.lingers kind
      | none => resource.status.holds kind
  /-- Nothing lingers where no kind is repeated. -/
  unrepeated : (resource.status.conditions.map (·.kind)).Nodup →
    ∀ kind, resource.status.lingers kind = false

theorem isFinished_of_setting (resource : JobResource) (step : ResourceStep)
    (kind : ConditionKind) (terminal : kind ∈ ConditionKind.terminals)
    (setting : step.setting? = some (kind, true)) :
    (resource.after step).isFinished = true := by
  have held : (resource.after step).status.holds kind = true := by
    rw [JobStatus.holds, after_conditions resource setting, Condition.ofKind_setCondition]
    rfl
  rw [isFinished, JobStatus.isFinished_eq, List.any_eq_true]
  exact ⟨kind, terminal, held⟩

/-- Every call sets its kind but for the conditions that linger, and after any calls a job is
finished exactly if some terminal kind was last set to hold, or lingers. -/
theorem calls_settle_conditions (resource : JobResource) : resource.Settles where
  sets_iff := resource.status.sets_iff
  own := resource.status.holds_withCondition
  others := fun kind flag => Condition.filter_setCondition kind flag resource.status.conditions
  counters := fun _ _ => rfl
  finished := resource.status.isFinished_withCondition
  completes := resource.isFinished_of_setting .complete .complete (by decide) rfl
  fails := resource.isFinished_of_setting .fail .failed (by decide) rfl
  runs := by
    intro steps settings
    rw [isFinished, JobStatus.isFinished_eq]
    apply congrArg (ConditionKind.terminals.any ·)
    funext kind
    exact resource.holds_afterAll settings kind
  unrepeated := JobStatus.lingers_of_nodup

end JobResource

end Admission
