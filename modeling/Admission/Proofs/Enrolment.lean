import Admission.Proofs.Meters
import Mathlib.Data.List.Infix
import Mathlib.Data.List.Nodup
import Mathlib.Data.List.TakeDrop

/-!
# Metrics join a registry whole

A set of metrics joins a registry family by family, and the first family that is refused ends the
attempt. Nothing takes the earlier ones out again, so that an attempt could leave a part of its
families behind. It does not: two namespaces never give the same full name, whatever they are made
of, and the names of one namespace are all fit or all unfit. Either the first family is refused
already, or none is.

The names of a registry are followed through all calls made on it. What the first attempt that
passes puts there stands for that namespace from then on, and nothing else does.
-/

namespace Admission

/-- What is done with a registry. -/
inductive RegistryCall where
  /-- A set of metrics is to join it. -/
  | enroll (space : String)
  /-- The metrics of a namespace are to read a pool. -/
  | watchPool (space : String) (pool : Nat)
  /-- The metrics of a namespace are given an event. -/
  | record (space : String) (event : Event)

def RegistryCall.perform (registry : Registry) : RegistryCall → Registry × Option MetricsError
  | enroll space => LimiterMetrics.enroll space registry
  | watchPool space pool =>
      match LimiterMetrics.watchPool space pool registry with
      | .ok next => (next, none)
      | .error error => (registry, some error)
  | record space event => (LimiterMetrics.record space registry event, none)

namespace Registry

def names (registry : Registry) : List String :=
  registry.families.map (·.name)

/-- The registry after calls that were made one after the other, the first one on an empty one. -/
def afterCalls (calls : List RegistryCall) : Registry :=
  calls.foldl (fun registry call => (call.perform registry).1) {}

/-- A call was made and was not refused. -/
def Passed (call : RegistryCall) (calls : List RegistryCall) : Prop :=
  ∃ earlier later, calls = earlier ++ call :: later ∧ (call.perform (afterCalls earlier)).2 = none

/-- The metrics of a namespace joined the registry. -/
def Enrolled (space : String) (calls : List RegistryCall) : Prop :=
  Passed (.enroll space) calls

/-- The metrics of a namespace read some pool. -/
def Watched (space : String) (calls : List RegistryCall) : Prop :=
  ∃ pool, Passed (.watchPool space pool) calls

/-- Calls that can be made: only metrics that have joined are given events or pools. -/
inductive Lawful : List RegistryCall → Prop where
  | none : Lawful []
  | enroll {calls : List RegistryCall} (before : Lawful calls) (space : String) :
      Lawful (calls ++ [.enroll space])
  | watchPool {calls : List RegistryCall} {space : String} (before : Lawful calls)
      (enrolled : Enrolled space calls) (pool : Nat) : Lawful (calls ++ [.watchPool space pool])
  | record {calls : List RegistryCall} {space : String} (before : Lawful calls)
      (enrolled : Enrolled space calls) (event : Event) : Lawful (calls ++ [.record space event])

end Registry

/-! ### Full names -/

namespace LimiterMetrics

/-- The families of a set of metrics without their namespace. -/
def ownNames : List String :=
  [maxInFlight, tokenWait, added, updated, deleted, staleJobs, canceledWaits, handlerErrors]

/-- Whether a namespace gives the names of metrics. -/
def isNamespace (space : String) : Bool :=
  space == "" || Registry.isName space

theorem names_families (space : String) :
    (families space).map (·.name) = ownNames.map (fullName space) :=
  rfl

theorem fullName_of_ne {space : String} (filled : space ≠ "") (family : String) :
    fullName space family = space ++ "_" ++ "limiter_" ++ family := by
  simp [fullName, filled]

/-- What stands before a family in its full name, up to the part that all full names share. -/
theorem exists_fullName (space : String) :
    ∃ front : String, (front = "" ∧ space = "" ∨ front = space ++ "_" ∧ space ≠ "") ∧
      ∀ family, (fullName space family).toList = front.toList ++ ("limiter_" ++ family).toList := by
  by_cases empty : space = ""
  · refine ⟨"", Or.inl ⟨rfl, empty⟩, ?_⟩
    intro family
    simp [fullName, empty]
  · refine ⟨space ++ "_", Or.inr ⟨rfl, empty⟩, ?_⟩
    intro family
    rw [fullName_of_ne empty]
    simp [String.toList_append]

/-- No family ends in the whole of another one. -/
theorem eq_of_suffix : ∀ family ∈ tokensAvailable :: ownNames,
    ∀ other ∈ tokensAvailable :: ownNames,
    ("limiter_" ++ family).toList <:+ ("limiter_" ++ other).toList → family = other := by
  decide +kernel

/-- A full name tells its namespace and its family, whatever the namespace is made of. -/
theorem fullName_inj {space other family second : String}
    (own : family ∈ tokensAvailable :: ownNames) (known : second ∈ tokensAvailable :: ownNames)
    (same : fullName space family = fullName other second) : space = other ∧ family = second := by
  rcases exists_fullName space with ⟨front, shape, full⟩
  rcases exists_fullName other with ⟨back, shape', full'⟩
  have lists : front.toList ++ ("limiter_" ++ family).toList =
      back.toList ++ ("limiter_" ++ second).toList := by
    rw [← full, ← full', same]
  have families : family = second := by
    rcases List.suffix_or_suffix_of_suffix (List.suffix_append _ _)
      (lists ▸ List.suffix_append _ _) with ends | ends
    · exact (eq_of_suffix second known family own ends).symm
    · exact eq_of_suffix family own second known ends
  subst families
  have fronts : front = back := String.toList_inj.mp (List.append_cancel_right lists)
  refine ⟨?_, rfl⟩
  rcases shape with ⟨rfl, empty⟩ | ⟨rfl, filled⟩
  · rcases shape' with ⟨rfl, empty'⟩ | ⟨rfl, filled'⟩
    · rw [empty, empty']
    · simp at fronts
  · rcases shape' with ⟨rfl, empty'⟩ | ⟨rfl, filled'⟩
    · simp at fronts
    · simpa using fronts

theorem nodup_ownNames (space : String) : (ownNames.map (fullName space)).Nodup := by
  apply List.Nodup.map
  · intro family other same
    exact (fullName_eq_iff space family other).mp same
  · decide

theorem isName_append {text rest : String} (filled : text ≠ "") :
    Registry.isName (text ++ rest) =
      (Registry.isName text && rest.toList.all fun character =>
        Registry.beginsName character || character.isDigit) := by
  rw [Registry.isName, Registry.isName, String.toList_append]
  cases letters : text.toList with
  | nil => exact absurd (String.toList_eq_nil_iff.mp letters) filled
  | cons first others => simp [List.all_append, Bool.and_assoc]

/-- The names of a namespace are all names of metrics, or none of them is. -/
theorem isName_fullName (space : String) {family : String}
    (own : family ∈ tokensAvailable :: ownNames) :
    Registry.isName (fullName space family) = isNamespace space := by
  have fit : ∀ family ∈ tokensAvailable :: ownNames,
      Registry.isName ("limiter_" ++ family) = true ∧
      (("_" ++ "limiter_" ++ family).toList.all fun character =>
        Registry.beginsName character || character.isDigit) = true := by
    decide +kernel
  by_cases empty : space = ""
  · subst empty
    simpa [fullName, isNamespace] using (fit family own).1
  · rw [fullName_of_ne empty, String.append_assoc, String.append_assoc, isName_append empty,
      ← String.append_assoc, (fit family own).2]
    simp [isNamespace, empty]

end LimiterMetrics

open LimiterMetrics

/-! ### What a registry does with a family -/

namespace Registry

section Families

variable {registry : Registry} {family : Family} {families : List Family} {name : String}

theorem find?_isSome (registry : Registry) (name : String) :
    (registry.find? name).isSome = true ↔ name ∈ registry.names := by
  simp [find?, names, List.find?_isSome]

theorem register_of_fresh (fit : isName family.name = true) (fresh : family.name ∉ registry.names) :
    registry.register family = .ok ⟨registry.families ++ [family]⟩ := by
  rw [← find?_isSome] at fresh
  simp [register, fit, fresh]

theorem register_of_unfit (unfit : isName family.name = false) :
    registry.register family = .error (.invalidName family.name) := by
  simp [register, unfit]

theorem register_of_taken (fit : isName family.name = true) (taken : family.name ∈ registry.names) :
    registry.register family = .error .duplicate := by
  rw [← find?_isSome] at taken
  simp [register, fit, taken]

/-- The first family that is refused ends the attempt. -/
theorem registerAll_of_refused {error : MetricsError}
    (refused : registry.register family = .error error) :
    registry.registerAll (family :: families) = (registry, some error) := by
  rw [registerAll, refused]

/-- Families with fit names that are new, also among themselves, all join. -/
theorem registerAll_of_fresh (fit : ∀ family ∈ families, isName family.name = true)
    (fresh : ∀ family ∈ families, family.name ∉ registry.names)
    (distinct : (families.map (·.name)).Nodup) :
    registry.registerAll families = (⟨registry.families ++ families⟩, none) := by
  induction families generalizing registry with
  | nil => simp [registerAll]
  | cons family rest ih =>
      rw [List.map_cons, List.nodup_cons] at distinct
      have joined := register_of_fresh (fit family (by simp)) (fresh family (by simp))
      rw [registerAll, joined]
      dsimp only
      rw [ih]
      · rw [List.append_assoc, List.singleton_append]
      · intro other member
        exact fit other (List.mem_cons_of_mem _ member)
      · intro other member taken
        rw [names, List.map_append, List.mem_append, List.map_singleton, List.mem_singleton]
          at taken
        rcases taken with old | same
        · exact fresh other (List.mem_cons_of_mem _ member) old
        · exact distinct.1 (same ▸ List.mem_map_of_mem member)
      · exact distinct.2

theorem names_adjust (registry : Registry) (name : String) (change : Instrument → Instrument) :
    (registry.adjust name change).names = registry.names := by
  rw [names, names, adjust, List.map_map]
  apply List.map_congr_left
  intro family _
  by_cases same : family.name = name
  · simp [same]
  · simp [same]

end Families

theorem names_record (space : String) (registry : Registry) (event : Event) :
    (record space registry event).names = registry.names := by
  have recorded := record_recorded space registry event
  generalize record space registry event = next at recorded ⊢
  cases recorded with
  | configured capacity kind told => apply names_adjust
  | observed wait kind told => apply names_adjust
  | counted family unobserved counts unset => apply names_adjust
  | ignored unobserved uncounted unset => rfl

/-! ### What has joined -/

section Calls

variable {calls : List RegistryCall} {call last : RegistryCall} {space : String}

theorem afterCalls_concat (calls : List RegistryCall) (last : RegistryCall) :
    afterCalls (calls ++ [last]) = (last.perform (afterCalls calls)).1 := by
  rw [afterCalls, List.foldl_append]
  rfl

theorem passed_concat :
    Passed call (calls ++ [last]) ↔
      Passed call calls ∨ call = last ∧ (call.perform (afterCalls calls)).2 = none := by
  constructor
  · rintro ⟨earlier, later, split, passed⟩
    rcases List.eq_nil_or_concat later with rfl | ⟨front, end_, rfl⟩
    · rcases List.append_inj' split rfl with ⟨rfl, same⟩
      exact Or.inr ⟨(List.singleton_inj.mp same).symm, passed⟩
    · rw [List.concat_eq_append, ← List.cons_append, ← List.append_assoc] at split
      exact Or.inl ⟨earlier, front, List.append_inj_left' split rfl, passed⟩
  · rintro (⟨earlier, later, rfl, passed⟩ | ⟨rfl, passed⟩)
    · exact ⟨earlier, later ++ [last], by simp, passed⟩
    · exact ⟨calls, [], rfl, passed⟩

/-- A call that is refused and changes nothing leaves what has passed as it is. -/
theorem passed_concat_of_refused (refused : (last.perform (afterCalls calls)).2 ≠ none) :
    Passed call (calls ++ [last]) ↔ Passed call calls := by
  rw [passed_concat]
  constructor
  · rintro (passed | ⟨rfl, passed⟩)
    · exact passed
    · exact absurd passed refused
  · exact Or.inl

theorem passed_concat_of_ne (apart : call ≠ last) :
    Passed call (calls ++ [last]) ↔ Passed call calls := by
  rw [passed_concat]
  exact or_iff_left fun same => apart same.1

/-- What the names of a registry tell about the calls made on it. -/
structure Stands (calls : List RegistryCall) : Prop where
  distinct : (afterCalls calls).names.Nodup
  fit : ∀ space, Enrolled space calls → isNamespace space = true
  own : ∀ space, ∀ family ∈ ownNames,
    (fullName space family ∈ (afterCalls calls).names ↔ Enrolled space calls)
  gauges : ∀ space,
    fullName space tokensAvailable ∈ (afterCalls calls).names ↔ Watched space calls

end Calls

section Attempts

variable {calls : List RegistryCall} {last : RegistryCall} {space : String}

theorem enroll_of_unfit (registry : Registry) (unfit : isNamespace space = false) :
    enroll space registry = (registry, some (.invalidName (fullName space maxInFlight))) := by
  have first : isName (fullName space maxInFlight) = false :=
    (isName_fullName space (by decide)).trans unfit
  apply registerAll_of_refused
  exact register_of_unfit first

theorem Stands.enroll_of_enrolled (stands : Stands calls) (enrolled : Enrolled space calls) :
    enroll space (afterCalls calls) = (afterCalls calls, some .duplicate) := by
  have first : isName (fullName space maxInFlight) = true :=
    (isName_fullName space (by decide)).trans (stands.fit space enrolled)
  have taken := (stands.own space maxInFlight (by decide)).mpr enrolled
  apply registerAll_of_refused
  exact register_of_taken first taken

theorem Stands.enroll_of_new (stands : Stands calls) (fit : isNamespace space = true)
    (new : ¬ Enrolled space calls) :
    enroll space (afterCalls calls) =
      (⟨(afterCalls calls).families ++ LimiterMetrics.families space⟩, none) := by
  have named {family : Family} (member : family ∈ LimiterMetrics.families space) :
      ∃ own ∈ ownNames, fullName space own = family.name := by
    have listed : family.name ∈ (LimiterMetrics.families space).map (·.name) :=
      List.mem_map_of_mem member
    rw [names_families] at listed
    exact List.mem_map.mp listed
  apply registerAll_of_fresh
  · intro family member
    rcases named member with ⟨own, known, same⟩
    rw [← same, isName_fullName space (List.mem_cons_of_mem _ known)]
    exact fit
  · intro family member
    rcases named member with ⟨own, known, same⟩
    rw [← same, stands.own space own known]
    exact new
  · exact nodup_ownNames space

theorem Stands.watchPool_of_watched (stands : Stands calls) (fit : isNamespace space = true)
    (watched : Watched space calls) (pool : Nat) :
    (RegistryCall.watchPool space pool).perform (afterCalls calls) =
      (afterCalls calls, some .duplicate) := by
  have valid : isName (fullName space tokensAvailable) = true :=
    (isName_fullName space (by decide)).trans fit
  have taken := (stands.gauges space).mpr watched
  have refused : (afterCalls calls).register (poolFamily space pool) = .error .duplicate :=
    register_of_taken valid taken
  rw [RegistryCall.perform, LimiterMetrics.watchPool, refused]

theorem Stands.watchPool_of_new (stands : Stands calls) (fit : isNamespace space = true)
    (new : ¬ Watched space calls) (pool : Nat) :
    (RegistryCall.watchPool space pool).perform (afterCalls calls) =
      (⟨(afterCalls calls).families ++ [poolFamily space pool]⟩, none) := by
  have valid : isName (fullName space tokensAvailable) = true :=
    (isName_fullName space (by decide)).trans fit
  have fresh : fullName space tokensAvailable ∉ (afterCalls calls).names :=
    fun taken => new ((stands.gauges space).mp taken)
  have joined : (afterCalls calls).register (poolFamily space pool) =
      .ok ⟨(afterCalls calls).families ++ [poolFamily space pool]⟩ :=
    register_of_fresh valid fresh
  rw [RegistryCall.perform, LimiterMetrics.watchPool, joined]

/-- A call that is refused leaves the registry as it was. -/
theorem Stands.perform_of_refused (stands : Stands calls)
    (refused : (last.perform (afterCalls calls)).2 ≠ none) :
    (last.perform (afterCalls calls)).1 = afterCalls calls := by
  cases last with
  | enroll space =>
      change (enroll space (afterCalls calls)).2 ≠ none at refused
      change (enroll space (afterCalls calls)).1 = afterCalls calls
      by_cases fit : isNamespace space = true
      · by_cases enrolled : Enrolled space calls
        · rw [stands.enroll_of_enrolled enrolled]
        · rw [stands.enroll_of_new fit enrolled] at refused
          exact absurd rfl refused
      · rw [enroll_of_unfit _ (eq_false_of_ne_true fit)]
  | watchPool space pool =>
      simp only [RegistryCall.perform] at refused ⊢
      split at refused
      · exact absurd rfl refused
      · rfl
  | record space event => exact absurd rfl refused

end Attempts

/-! ### Calls one after the other -/

section Runs

variable {calls : List RegistryCall} {last : RegistryCall} {space : String}

theorem Stands.of_refused (stands : Stands calls)
    (refused : (last.perform (afterCalls calls)).2 ≠ none) : Stands (calls ++ [last]) := by
  have same : afterCalls (calls ++ [last]) = afterCalls calls :=
    (afterCalls_concat calls last).trans (stands.perform_of_refused refused)
  have enrolled (space : String) : Enrolled space (calls ++ [last]) ↔ Enrolled space calls :=
    passed_concat_of_refused refused
  have watched (space : String) : Watched space (calls ++ [last]) ↔ Watched space calls :=
    exists_congr fun pool => passed_concat_of_refused refused
  constructor
  · rw [same]
    exact stands.distinct
  · intro space
    rw [enrolled]
    exact stands.fit space
  · intro space family own
    rw [same, enrolled]
    exact stands.own space family own
  · intro space
    rw [same, watched]
    exact stands.gauges space

theorem Stands.enroll (stands : Stands calls) (space : String) :
    Stands (calls ++ [.enroll space]) := by
  by_cases refused : ((RegistryCall.enroll space).perform (afterCalls calls)).2 ≠ none
  · exact stands.of_refused refused
  have passes := not_not.mp refused
  have fit : isNamespace space = true := by
    by_contra unfit
    rw [RegistryCall.perform, enroll_of_unfit _ (eq_false_of_ne_true unfit)] at passes
    cases passes
  have new : ¬ Enrolled space calls := by
    intro enrolled
    rw [RegistryCall.perform, stands.enroll_of_enrolled enrolled] at passes
    cases passes
  have joined : (afterCalls (calls ++ [.enroll space])).names =
      (afterCalls calls).names ++ ownNames.map (fullName space) := by
    rw [afterCalls_concat, RegistryCall.perform, stands.enroll_of_new fit new, names,
      List.map_append, names_families]
    rfl
  have enrolled (other : String) :
      Enrolled other (calls ++ [.enroll space]) ↔ Enrolled other calls ∨ other = space := by
    rw [Enrolled, passed_concat]
    apply or_congr Iff.rfl
    constructor
    · intro last
      exact RegistryCall.enroll.inj last.1
    · rintro rfl
      exact ⟨rfl, passes⟩
  constructor
  · rw [joined]
    apply List.Nodup.append stands.distinct (nodup_ownNames space)
    intro name old listed
    rcases List.mem_map.mp listed with ⟨family, own, rfl⟩
    exact new ((stands.own space family own).mp old)
  · intro other
    rw [enrolled]
    rintro (old | rfl)
    · exact stands.fit other old
    · exact fit
  · intro other family own
    rw [joined, List.mem_append, stands.own other family own, enrolled]
    apply or_congr Iff.rfl
    constructor
    · intro listed
      rcases List.mem_map.mp listed with ⟨second, known, same⟩
      exact (fullName_inj (List.mem_cons_of_mem _ known) (List.mem_cons_of_mem _ own) same).1.symm
    · rintro rfl
      exact List.mem_map_of_mem own
  · intro other
    have watched : Watched other (calls ++ [.enroll space]) ↔ Watched other calls :=
      exists_congr fun pool => passed_concat_of_ne (by simp)
    rw [joined, List.mem_append, stands.gauges, watched]
    apply or_iff_left
    intro listed
    rcases List.mem_map.mp listed with ⟨family, own, same⟩
    have kind := (fullName_inj (List.mem_cons_of_mem _ own) (by simp) same).2
    subst kind
    revert own
    decide

theorem Stands.watchPool (stands : Stands calls) (enrolled : Enrolled space calls) (pool : Nat) :
    Stands (calls ++ [.watchPool space pool]) := by
  by_cases refused : ((RegistryCall.watchPool space pool).perform (afterCalls calls)).2 ≠ none
  · exact stands.of_refused refused
  have passes := not_not.mp refused
  have fit := stands.fit space enrolled
  have new : ¬ Watched space calls := by
    intro watched
    rw [stands.watchPool_of_watched fit watched] at passes
    cases passes
  have joined : (afterCalls (calls ++ [.watchPool space pool])).names =
      (afterCalls calls).names ++ [fullName space tokensAvailable] := by
    rw [afterCalls_concat, stands.watchPool_of_new fit new, names, List.map_append]
    rfl
  have others (other : String) :
      Enrolled other (calls ++ [.watchPool space pool]) ↔ Enrolled other calls :=
    passed_concat_of_ne (by simp)
  have watched (other : String) :
      Watched other (calls ++ [.watchPool space pool]) ↔ Watched other calls ∨ other = space := by
    constructor
    · rintro ⟨read, passed⟩
      rcases passed_concat.mp passed with old | ⟨same, _⟩
      · exact Or.inl ⟨read, old⟩
      · exact Or.inr (RegistryCall.watchPool.inj same).1
    · rintro (⟨read, old⟩ | rfl)
      · exact ⟨read, passed_concat.mpr (Or.inl old)⟩
      · exact ⟨pool, passed_concat.mpr (Or.inr ⟨rfl, passes⟩)⟩
  constructor
  · rw [joined]
    apply List.Nodup.append stands.distinct (List.nodup_singleton _)
    intro name old listed
    rw [List.mem_singleton.mp listed] at old
    exact new ((stands.gauges space).mp old)
  · intro other
    rw [others]
    exact stands.fit other
  · intro other family own
    rw [joined, List.mem_append, stands.own other family own, others]
    apply or_iff_left
    intro listed
    have kind := (fullName_inj (List.mem_cons_of_mem _ own) (by simp)
      (List.mem_singleton.mp listed)).2
    subst kind
    revert own
    decide
  · intro other
    rw [joined, List.mem_append, stands.gauges, watched]
    apply or_congr Iff.rfl
    constructor
    · intro listed
      exact (fullName_inj (by simp) (by simp) (List.mem_singleton.mp listed)).1
    · rintro rfl
      exact List.mem_singleton_self _

theorem Stands.record (stands : Stands calls) (space : String) (event : Event) :
    Stands (calls ++ [.record space event]) := by
  have same : (afterCalls (calls ++ [.record space event])).names = (afterCalls calls).names := by
    rw [afterCalls_concat]
    exact names_record space (afterCalls calls) event
  have enrolled (other : String) :
      Enrolled other (calls ++ [.record space event]) ↔ Enrolled other calls :=
    passed_concat_of_ne (by simp)
  have watched (other : String) :
      Watched other (calls ++ [.record space event]) ↔ Watched other calls :=
    exists_congr fun pool => passed_concat_of_ne (by simp)
  constructor
  · rw [same]
    exact stands.distinct
  · intro other
    rw [enrolled]
    exact stands.fit other
  · intro other family own
    rw [same, enrolled]
    exact stands.own other family own
  · intro other
    rw [same, watched]
    exact stands.gauges other

theorem Stands.nil : Stands [] where
  distinct := List.nodup_nil
  fit := by
    rintro space ⟨earlier, later, split, _⟩
    simp at split
  own := by
    intro space family own
    constructor
    · intro listed
      cases listed
    · rintro ⟨earlier, later, split, _⟩
      simp at split
  gauges := by
    intro space
    constructor
    · intro listed
      cases listed
    · rintro ⟨pool, earlier, later, split, _⟩
      simp at split

theorem stands_of_lawful (lawful : Lawful calls) : Stands calls := by
  induction lawful with
  | none => exact Stands.nil
  | enroll before space ih => exact ih.enroll space
  | watchPool before enrolled pool ih => exact ih.watchPool enrolled pool
  | record before enrolled event ih => exact ih.record _ event

/-- What comes of any further call after a sequence of calls. -/
structure JoinsWhole (calls : List RegistryCall) : Prop where
  /-- Metrics are refused exactly for a namespace that is unfit or has joined before. -/
  refused : ∀ space, (LimiterMetrics.enroll space (afterCalls calls)).2 ≠ none ↔
    isNamespace space = false ∨ Enrolled space calls
  /-- What they are refused for is the first name, or that it is taken. -/
  unfit : ∀ space, isNamespace space = false →
    (LimiterMetrics.enroll space (afterCalls calls)).2 =
      some (.invalidName (fullName space maxInFlight))
  taken : ∀ space, Enrolled space calls →
    (LimiterMetrics.enroll space (afterCalls calls)).2 = some .duplicate
  /-- Metrics that are accepted bring their families, under names of their own, and no change of the
  families that were there. -/
  joined : ∀ space, (LimiterMetrics.enroll space (afterCalls calls)).2 = none →
    (LimiterMetrics.enroll space (afterCalls calls)).1.families =
        (afterCalls calls).families ++ LimiterMetrics.families space ∧
      (LimiterMetrics.enroll space (afterCalls calls)).1.names.Nodup
  /-- A pool is refused exactly where the metrics of the namespace read one. -/
  poolRefused : ∀ space pool, Enrolled space calls →
    (((RegistryCall.watchPool space pool).perform (afterCalls calls)).2 ≠ none ↔
      Watched space calls)
  poolJoined : ∀ space pool,
    ((RegistryCall.watchPool space pool).perform (afterCalls calls)).2 = none →
    ((RegistryCall.watchPool space pool).perform (afterCalls calls)).1.families =
      (afterCalls calls).families ++ [poolFamily space pool]
  /-- Whatever is refused leaves the registry as it was. -/
  kept : ∀ call : RegistryCall, (call.perform (afterCalls calls)).2 ≠ none →
    (call.perform (afterCalls calls)).1 = afterCalls calls
  /-- The names in the registry are those of what joined it. -/
  stands : Stands calls

/-- After any lawful calls on a registry, metrics join it with all their families or not at all. -/
theorem metrics_join_whole (lawful : Lawful calls) : JoinsWhole calls := by
  have stands := stands_of_lawful lawful
  have refused (space : String) : (LimiterMetrics.enroll space (afterCalls calls)).2 ≠ none ↔
      isNamespace space = false ∨ Enrolled space calls := by
    constructor
    · intro refused
      by_contra both
      rw [not_or] at both
      rw [stands.enroll_of_new (Bool.of_not_eq_false both.1) both.2] at refused
      exact refused rfl
    · rintro (unfit | enrolled)
      · rw [enroll_of_unfit _ unfit]
        exact Option.some_ne_none _
      · rw [stands.enroll_of_enrolled enrolled]
        exact Option.some_ne_none _
  refine ⟨refused, ?_, ?_, ?_, ?_, ?_, fun _ => stands.perform_of_refused, stands⟩
  · intro space unfit
    rw [enroll_of_unfit _ unfit]
  · intro space enrolled
    rw [stands.enroll_of_enrolled enrolled]
  · intro space passes
    refine ⟨families_of_registerAll passes, ?_⟩
    have after := (stands.enroll space).distinct
    rw [afterCalls_concat] at after
    exact after
  · intro space pool enrolled
    have fit := stands.fit space enrolled
    constructor
    · intro refused
      by_contra new
      rw [stands.watchPool_of_new fit new] at refused
      exact refused rfl
    · intro watched
      rw [stands.watchPool_of_watched fit watched]
      exact Option.some_ne_none _
  · intro space pool passes
    simp only [RegistryCall.perform] at passes ⊢
    split at passes
    · rename_i next accepted
      exact families_of_register accepted
    · cases passes

/-- A namespace that holds the beginning of a full name of another one. -/
theorem metrics_join_whole_nested :
    Lawful [.enroll "a", .enroll "a_limiter", .watchPool "a_limiter" 0] ∧
      JoinsWhole [.enroll "a", .enroll "a_limiter", .watchPool "a_limiter" 0] := by
  have nested : Enrolled "a_limiter" [.enroll "a", .enroll "a_limiter"] :=
    ⟨[.enroll "a"], [], rfl, by decide +kernel⟩
  have lawful : Lawful [.enroll "a", .enroll "a_limiter", .watchPool "a_limiter" 0] :=
    .watchPool (.enroll (.enroll .none "a") "a_limiter") nested 0
  exact ⟨lawful, metrics_join_whole lawful⟩

end Runs

end Registry

end Admission
