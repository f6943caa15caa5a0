import Admission.Metrics.Limiter

/-!
# What a set of metrics shows

Each event that is recorded adds one to the counter that its kind calls for, or to the observations of
the histogram, or sets the gauge. After any number of events a counter stands at how many of them it
counts, in whatever order they came.
-/

namespace Admission

/-- How high a gauge or a counter stands, and how many observations a histogram has. -/
def Instrument.reading? : Instrument → Option Nat
  | .gauge value => some value
  | .counter count => some count
  | .histogram observations => some observations.total
  | .poolGauge _ => none

namespace Registry

def instrument? (registry : Registry) (name : String) : Option Instrument :=
  (registry.find? name).map (·.instrument)

/-- What the family of a name shows, if it is there and shows a number of its own. -/
def reading? (registry : Registry) (name : String) : Option Nat :=
  (registry.instrument? name).bind Instrument.reading?

/-- A change of one family leaves the others alone. -/
theorem instrument?_adjust (registry : Registry) (name other : String)
    (change : Instrument → Instrument) :
    (registry.adjust name change).instrument? other =
      if other = name then (registry.instrument? other).map change
      else registry.instrument? other := by
  rcases registry with ⟨families⟩
  simp only [instrument?, find?, adjust]
  induction families with
  | nil => split <;> rfl
  | cons family rest ih =>
      rw [List.map_cons]
      by_cases here : family.name = other
      · subst here
        by_cases changed : family.name = name
        · simp [changed]
        · simp [changed]
      · by_cases changed : family.name = name
        · subst changed
          simpa [here] using ih
        · simpa [here, changed] using ih

theorem families_of_register {registry next : Registry} {family : Family}
    (accepted : registry.register family = .ok next) :
    next.families = registry.families ++ [family] := by
  simp only [register] at accepted
  split at accepted
  · cases accepted
  · split at accepted
    · cases accepted
    · cases accepted
      rfl

/-- Families that are all accepted join those that were there before. -/
theorem families_of_registerAll {registry : Registry} {families : List Family}
    (accepted : (registry.registerAll families).2 = none) :
    (registry.registerAll families).1.families = registry.families ++ families := by
  induction families generalizing registry with
  | nil => exact (List.append_nil _).symm
  | cons family rest ih =>
      simp only [registerAll] at accepted ⊢
      split at accepted
      · rename_i next registered
        rw [ih accepted, families_of_register registered, List.append_assoc]
        rfl
      · cases accepted

end Registry

namespace LimiterMetrics

theorem fullName_eq_iff (space family other : String) :
    fullName space family = fullName space other ↔ family = other := by
  simp [fullName]

/-- Whether an event brings an observation of a wait. -/
def isObserved (event : Event) : Bool :=
  event.kind == .tokenAcquired && event.wait.isSome

/-- Whether an event counts for a counter. -/
def isCountedBy (family : String) (event : Event) : Bool :=
  counterOf event == some family

/-- No event is counted by what is not a counter. -/
theorem counterOf_ne (event : Event) :
    counterOf event ≠ some maxInFlight ∧ counterOf event ≠ some tokenWait := by
  simp only [counterOf]
  split <;> first | decide | skip
  cases event.notification with
  | none => decide
  | some kind => cases kind <;> decide

/-- What recording an event does to a registry. -/
inductive Recorded (space : String) (registry : Registry) (event : Event) : Registry → Prop where
  | configured (capacity : Nat) (kind : event.kind = .capacityConfigured)
      (told : event.capacity = some capacity) :
      Recorded space registry event
        (registry.adjust (fullName space maxInFlight) (setGauge capacity))
  | observed (wait : Duration) (kind : event.kind = .tokenAcquired)
      (told : event.wait = some wait) :
      Recorded space registry event
        (registry.adjust (fullName space tokenWait) (observe (secondsOf wait)))
  | counted (family : String) (unobserved : isObserved event = false)
      (counts : counterOf event = some family) (unset : event.kind ≠ .capacityConfigured) :
      Recorded space registry event (registry.adjust (fullName space family) increment)
  | ignored (unobserved : isObserved event = false) (uncounted : counterOf event = none)
      (unset : event.kind = .capacityConfigured → event.capacity = none) :
      Recorded space registry event registry

theorem record_recorded (space : String) (registry : Registry) (event : Event) :
    Recorded space registry event (record space registry event) := by
  simp only [record]
  split
  · rename_i kind
    split
    · rename_i capacity told
      exact .configured capacity kind told
    · rename_i untold
      exact .ignored (by simp [isObserved, kind]) (by simp [counterOf, kind]) (fun _ => untold)
  · rename_i kind
    split
    · rename_i wait told
      exact .observed wait kind told
    · rename_i untold
      exact .ignored (by simp [isObserved, untold]) (by simp [counterOf, kind])
        (by simp [kind])
  · rename_i unset unobserved
    have other : isObserved event = false := by
      rw [isObserved, Bool.and_eq_false_iff]
      exact Or.inl (beq_false_of_ne unobserved)
    split
    · rename_i family counts
      exact .counted family other counts unset
    · rename_i uncounted
      exact .ignored other uncounted (fun kind => absurd kind unset)

section Folds

variable {space : String} {registry next : Registry} {event : Event}

theorem Recorded.counter {family : String} {count : Nat}
    (recorded : Recorded space registry event next) (notGauge : family ≠ maxInFlight)
    (notWait : family ≠ tokenWait)
    (stood : registry.instrument? (fullName space family) = some (.counter count)) :
    next.instrument? (fullName space family) =
      some (.counter (count + (isCountedBy family event).toNat)) := by
  cases recorded with
  | configured capacity kind told =>
      have uncounted : isCountedBy family event = false := by simp [isCountedBy, counterOf, kind]
      rw [Registry.instrument?_adjust, if_neg (by simpa [fullName_eq_iff] using notGauge), stood,
        uncounted]
      rfl
  | observed wait kind told =>
      have uncounted : isCountedBy family event = false := by simp [isCountedBy, counterOf, kind]
      rw [Registry.instrument?_adjust, if_neg (by simpa [fullName_eq_iff] using notWait), stood,
        uncounted]
      rfl
  | counted other unobserved counts unset =>
      rw [Registry.instrument?_adjust]
      by_cases same : family = other
      · subst same
        have counted : isCountedBy family event = true := by simp [isCountedBy, counts]
        rw [if_pos rfl, stood, counted]
        rfl
      · have uncounted : isCountedBy family event = false := by
          simp [isCountedBy, counts, Ne.symm same]
        rw [if_neg (by simpa [fullName_eq_iff] using same), stood, uncounted]
        rfl
  | ignored unobserved uncounted unset =>
      have none : isCountedBy family event = false := by simp [isCountedBy, uncounted]
      rw [stood, none]
      rfl

/-- A counter stands at how many events it has counted. -/
theorem foldl_counter {family : String} {count : Nat} (notGauge : family ≠ maxInFlight)
    (notWait : family ≠ tokenWait)
    (stood : registry.instrument? (fullName space family) = some (.counter count))
    (events : List Event) :
    (events.foldl (record space) registry).instrument? (fullName space family) =
      some (.counter (count + events.countP (isCountedBy family))) := by
  induction events generalizing registry count with
  | nil => exact stood
  | cons event rest ih =>
      have after := (record_recorded space registry event).counter notGauge notWait stood
      rw [List.foldl_cons, ih after, List.countP_cons]
      congr 2
      cases isCountedBy family event with
      | false => rfl
      | true => exact Nat.add_right_comm count 1 _

theorem Recorded.histogram {observations : Histogram}
    (recorded : Recorded space registry event next)
    (stood : registry.instrument? (fullName space tokenWait) = some (.histogram observations)) :
    ∃ later, next.instrument? (fullName space tokenWait) = some (.histogram later) ∧
      later.total = observations.total + (isObserved event).toNat := by
  cases recorded with
  | configured capacity kind told =>
      have unobserved : isObserved event = false := by simp [isObserved, kind]
      have apart : tokenWait ≠ maxInFlight := by decide
      rw [Registry.instrument?_adjust, if_neg (by simpa [fullName_eq_iff] using apart), unobserved]
      exact ⟨observations, stood, rfl⟩
  | observed wait kind told =>
      have observed : isObserved event = true := by simp [isObserved, kind, told]
      rw [Registry.instrument?_adjust, if_pos rfl, stood, observed]
      exact ⟨_, rfl, rfl⟩
  | counted family unobserved counts unset =>
      have apart : tokenWait ≠ family := by
        rintro rfl
        exact (counterOf_ne event).2 counts
      rw [Registry.instrument?_adjust, if_neg (by simpa [fullName_eq_iff] using apart), unobserved]
      exact ⟨observations, stood, rfl⟩
  | ignored unobserved uncounted unset =>
      rw [unobserved]
      exact ⟨observations, stood, rfl⟩

/-- A histogram has as many observations as there were events with one. -/
theorem foldl_histogram {observations : Histogram}
    (stood : registry.instrument? (fullName space tokenWait) = some (.histogram observations))
    (events : List Event) :
    ∃ later, (events.foldl (record space) registry).instrument? (fullName space tokenWait) =
        some (.histogram later) ∧
      later.total = observations.total + events.countP isObserved := by
  induction events generalizing registry observations with
  | nil => exact ⟨observations, stood, rfl⟩
  | cons event rest ih =>
      rcases (record_recorded space registry event).histogram stood with ⟨between, after, total⟩
      rcases ih after with ⟨later, last, whole⟩
      refine ⟨later, last, ?_⟩
      rw [whole, total, List.countP_cons]
      cases isObserved event with
      | false => rfl
      | true => exact Nat.add_right_comm _ 1 _

theorem Recorded.gauge {value capacity : Nat} (recorded : Recorded space registry event next)
    (stood : registry.instrument? (fullName space maxInFlight) = some (.gauge value))
    (told : event.kind = .capacityConfigured → event.capacity = some capacity) :
    next.instrument? (fullName space maxInFlight) =
      some (.gauge (if event.kind = .capacityConfigured then min capacity Registry.maxGauge
        else value)) := by
  cases recorded with
  | configured other kind set =>
      rw [told kind, Option.some.injEq] at set
      subst set
      rw [Registry.instrument?_adjust, if_pos rfl, stood, if_pos kind]
      rfl
  | observed wait kind set =>
      have apart : maxInFlight ≠ tokenWait := by decide
      have unset : event.kind ≠ .capacityConfigured := by simp [kind]
      rw [Registry.instrument?_adjust, if_neg (by simpa [fullName_eq_iff] using apart), stood,
        if_neg unset]
  | counted family unobserved counts unset =>
      have apart : maxInFlight ≠ family := by
        rintro rfl
        exact (counterOf_ne event).1 counts
      rw [Registry.instrument?_adjust, if_neg (by simpa [fullName_eq_iff] using apart), stood,
        if_neg unset]
  | ignored unobserved uncounted unset =>
      have other : event.kind ≠ .capacityConfigured := by
        intro kind
        have untold := unset kind
        rw [told kind] at untold
        cases untold
      rw [stood, if_neg other]

/-- A gauge shows the capacity that all events tell, once one has told it. -/
theorem foldl_gauge {value capacity : Nat}
    (stood : registry.instrument? (fullName space maxInFlight) = some (.gauge value))
    {events : List Event}
    (told : ∀ event ∈ events, event.kind = .capacityConfigured → event.capacity = some capacity) :
    (events.foldl (record space) registry).instrument? (fullName space maxInFlight) =
      some (.gauge (if events.any fun event => event.kind == .capacityConfigured then
        min capacity Registry.maxGauge else value)) := by
  induction events generalizing registry value with
  | nil => exact stood
  | cons event rest ih =>
      have after := (record_recorded space registry event).gauge stood (told event (by simp))
      rw [List.foldl_cons, ih after fun other member => told other (by simp [member])]
      by_cases kind : event.kind = .capacityConfigured <;> simp [kind]

end Folds

/-! ### A fresh registry -/

section Fresh

variable {space : String}

/-- A fresh set of metrics has not counted anything. -/
theorem enroll_fresh (accepted : (enroll space {}).2 = none) :
    (enroll space {}).1.instrument? (fullName space maxInFlight) = some (.gauge 0) ∧
      (∃ observations, observations.total = 0 ∧
        (enroll space {}).1.instrument? (fullName space tokenWait) =
          some (.histogram observations)) ∧
      ∀ family ∈ [added, updated, deleted, staleJobs, canceledWaits, handlerErrors],
        (enroll space {}).1.instrument? (fullName space family) = some (.counter 0) := by
  have joined : (enroll space {}).1.families = families space :=
    Registry.families_of_registerAll accepted
  let empty := Histogram.ofBounds (Histogram.exponentialBounds 4 10 0.001)
  simp only [Registry.instrument?, Registry.find?, joined]
  refine ⟨?_, ⟨empty, rfl, ?_⟩, ?_⟩
  · simp [families]
  · simp [families, fullName_eq_iff, maxInFlight, tokenWait, empty]
  · intro family member
    simp only [List.mem_cons, List.not_mem_nil, or_false] at member
    rcases member with rfl | rfl | rfl | rfl | rfl | rfl <;>
      simp [families, fullName_eq_iff, maxInFlight, tokenWait, added, updated, deleted, staleJobs,
        canceledWaits, handlerErrors]

end Fresh

end LimiterMetrics

end Admission
