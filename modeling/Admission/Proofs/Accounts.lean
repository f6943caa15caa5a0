import Admission.Proofs.SinkLedger

/-!
# The accounts of a world

A world keeps its accounts if the ledger of every sink is right, if the records of the fan-out in the
journal are those of the losses, and if those who keep events have kept what they handled. The
listener and the workers keep the accounts, whatever they find to do, and nobody else touches what
they are about.
-/

namespace Admission

/-- Only the deliveries at the sink itself count. -/
theorem Sink.Ledger.congr {sink : Sink} {index : Nat} {given : List Event}
    {deliveries others : List Delivery} (ledger : sink.Ledger index given deliveries)
    (same : others.filter (fun delivery => delivery.sink == index) =
      deliveries.filter fun delivery => delivery.sink == index) :
    sink.Ledger index given others := by
  have events (kind : Delivery → Bool) : Delivery.events kind index others =
      Delivery.events kind index deliveries := by
    have told := congrArg (fun here => (here.filter kind).map Delivery.event) same
    simpa [Delivery.events, List.filter_filter, Bool.and_comm] using told
  refine ⟨by rw [events, ledger.offered], by rw [events, events, ledger.accepted], ledger.bounded,
    ?_, ?_, ?_⟩
  · intro delivery member here
    have among : delivery ∈ others.filter fun delivery => delivery.sink == index :=
      List.mem_filter.mpr ⟨member, beq_iff_eq.mpr here⟩
    rw [same] at among
    exact ledger.told delivery (List.mem_filter.mp among).1 here
  · rw [events, events, events]
    exact ledger.standing
  · rw [events]
    exact ledger.fallen

namespace Sink

/-- Whatever a worker tells is about its own sink, and that the event has left it. -/
theorem work_place (sink : Sink) (isOpen : String → Bool) (index : Nat) :
    ∀ delivery ∈ (sink.work isOpen index).2, delivery.sink = index ∧ delivery.isEnd = true := by
  cases fallen : sink.isFallen with
  | true => simp [work_of_fallen fallen]
  | false =>
      have works := work_works fallen isOpen index
      generalize sink.work isOpen index = worked at works ⊢
      have told {progress : Progress} (does : progress.Does sink.subscriber.conduct index
          (sink.handling.toList ++ sink.queue.take turnLimit)) :
          ∀ delivery ∈ progress.deliveries, delivery.sink = index ∧ delivery.isEnd = true := by
        intro delivery member
        rcases does.here delivery member with ⟨place, given⟩
        exact ⟨place, (Delivery.of_isGiven given).2.2.2.2⟩
      cases works with
      | goesOn progress does => exact told does
      | goesDown progress does =>
          intro delivery member
          rcases List.mem_append.mp member with done | lost
          · exact told does delivery done
          · rcases List.mem_map.mp lost with ⟨event, -, rfl⟩
            exact ⟨rfl, rfl⟩

theorem work_subscriber (sink : Sink) (isOpen : String → Bool) (index : Nat) :
    (sink.work isOpen index).1.subscriber = sink.subscriber ∧
      (sink.work isOpen index).1.isClosed = sink.isClosed := by
  cases fallen : sink.isFallen with
  | true => simp [work_of_fallen fallen]
  | false =>
      have works := work_works fallen isOpen index
      generalize sink.work isOpen index = worked at works ⊢
      cases works <;> exact ⟨rfl, rfl⟩

/-- A worker that has ended has left nothing behind. It ends when its sink is closed, or goes
down. -/
structure Sound (sink : Sink) : Prop where
  emptied : sink.isDone = true → sink.queue = [] ∧ sink.handling = none
  ended : sink.isDone = true → sink.isClosed = true ∨ sink.isFallen = true

namespace Sound

variable {sink : Sink}

/-- An open sink whose worker has ended takes nothing in. -/
theorem offer (sound : sink.Sound) (opened : sink.isClosed = false) (index : Nat) (event : Event) :
    (sink.offer index event).1.Sound := by
  rcases sink.offer_cases index event with ⟨-, offer⟩ | ⟨stands, -, offer⟩ | ⟨-, -, offer⟩
  · exact offer ▸ sound
  · have running : sink.isDone ≠ true := by
      intro done
      rcases sound.ended done with closed | fallen
      · rw [opened] at closed
        cases closed
      · rw [stands] at fallen
        cases fallen
    rw [offer]
    exact ⟨fun done => absurd done running, fun done => absurd done running⟩
  · exact offer ▸ sound

theorem work (sound : sink.Sound) (isOpen : String → Bool) (index : Nat) :
    (sink.work isOpen index).1.Sound := by
  cases fallen : sink.isFallen with
  | true => simpa [work_of_fallen fallen] using sound
  | false =>
      have works := work_works fallen isOpen index
      generalize sink.work isOpen index = worked at works ⊢
      cases works with
      | goesOn progress does stands isDone ends =>
          refine ⟨fun done => ?_, fun done => Or.inl (ends done).1⟩
          rcases ends done with ⟨-, unheld, few⟩
          refine ⟨?_, unheld⟩
          simp only
          rw [does.exhausted unheld stands, List.drop_eq_nil_of_le (Nat.le_of_lt few),
            List.append_nil]
      | goesDown => exact ⟨fun _ => ⟨rfl, rfl⟩, fun _ => Or.inr rfl⟩

theorem close (sound : sink.Sound) : Sound { sink with isClosed := true } :=
  ⟨sound.emptied, fun _ => Or.inl rfl⟩

end Sound

end Sink

/-! ### An event that is offered to all sinks -/

theorem offerAll_place (event : Event) (first : Nat) (sinks : List Sink) :
    ∀ delivery ∈ (offerAll event first sinks).2,
      first ≤ delivery.sink ∧ delivery.sink < first + sinks.length := by
  induction sinks generalizing first with
  | nil => simp [offerAll]
  | cons sink rest ih =>
      intro delivery member
      simp only [offerAll, List.mem_cons] at member
      rcases member with rfl | later
      · simp [(sink.offer_frame first event).1]
      · have := ih (first + 1) delivery later
        rw [List.length_cons]
        omega

theorem offerAll_getElem? (event : Event) (first place : Nat) (sinks : List Sink) :
    (offerAll event first sinks).1[place]? =
      sinks[place]?.map fun sink => (sink.offer (first + place) event).1 := by
  induction sinks generalizing first place with
  | nil => simp [offerAll]
  | cons sink rest ih =>
      cases place with
      | zero => simp [offerAll]
      | succ place =>
          have shifted : first + 1 + place = first + (place + 1) := by omega
          simp [offerAll, ih, shifted]

/-- Each sink has exactly one delivery of the event, and it is its own. -/
theorem offerAll_filter (event : Event) (first place : Nat) (sinks : List Sink) :
    (offerAll event first sinks).2.filter (fun delivery => delivery.sink == first + place) =
      (sinks[place]?.map fun sink => (sink.offer (first + place) event).2).toList := by
  induction sinks generalizing first place with
  | nil => simp [offerAll]
  | cons sink rest ih =>
      have parts : (offerAll event first (sink :: rest)).2 =
          (sink.offer first event).2 :: (offerAll event (first + 1) rest).2 := rfl
      rw [parts, List.filter_cons, (sink.offer_frame first event).1]
      cases place with
      | zero =>
          have others : (offerAll event (first + 1) rest).2.filter
              (fun delivery => delivery.sink == first) = [] := by
            rw [List.filter_eq_nil_iff]
            intro delivery member
            have := offerAll_place event (first + 1) rest delivery member
            simp only [beq_iff_eq]
            omega
          rw [Nat.add_zero, others, if_pos (beq_self_eq_true first)]
          rfl
      | succ place =>
          have elsewhere : (first == first + (place + 1)) = false := by
            rw [beq_eq_false_iff_ne]
            omega
          have shifted : first + (place + 1) = first + 1 + place := by omega
          rw [elsewhere, shifted, ih]
          rfl

theorem offerAll_subscribers (event : Event) (first : Nat) (sinks : List Sink) :
    (offerAll event first sinks).1.map (·.subscriber) = sinks.map (·.subscriber) := by
  induction sinks generalizing first with
  | nil => rfl
  | cons sink rest ih =>
      rcases (sink.offer_frame first event).2.2.2.2 with ⟨queue, kept⟩
      simp [offerAll, ih, kept]

/-- What becomes of the sinks when the listener hears something, and the deliveries. -/
def offerHeard (sinks : List Sink) : Reception → List Sink × List Delivery
  | .event event => offerAll event 0 sinks
  | _ => (sinks, [])

/-- Sinks that are offered an event are as open as they were. -/
theorem offerHeard_opened {sinks : List Sink}
    (opened : ∀ sink ∈ sinks, sink.isClosed = false ∧ sink.Sound) (reception : Reception) :
    ∀ sink ∈ (offerHeard sinks reception).1, sink.isClosed = false ∧ sink.Sound := by
  cases reception with
  | event event =>
      intro sink member
      rcases List.mem_iff_getElem?.mp member with ⟨place, found⟩
      rw [offerHeard, offerAll_getElem?] at found
      rcases Option.map_eq_some_iff.mp found with ⟨old, before, rfl⟩
      rcases opened old (List.mem_of_getElem? before) with ⟨isOpen, sound⟩
      rcases (old.offer_frame (0 + place) event).2.2.2.2 with ⟨queue, kept⟩
      exact ⟨by rw [kept, isOpen], sound.offer isOpen _ event⟩
  | lagged missed => exact opened
  | empty => exact opened
  | closed => exact opened

/-- The deliveries of all that the listener hears, one after the other. -/
def deliveriesOf (sinks : List Sink) : List Reception → List Delivery
  | [] => []
  | reception :: rest =>
      (offerHeard sinks reception).2 ++ deliveriesOf (offerHeard sinks reception).1 rest

/-- The name of a sink among those of some subscribers. -/
def nameAmong (subscribers : List Subscriber) (sink : Nat) : String :=
  (subscribers[sink]?.map (·.name)).getD ""

/-- The event that a subscriber keeps when it has handled it, with its sink. -/
def Delivery.kept? (roles : Array Role) : Delivery → Option (Nat × Event)
  | handled sink event => if roles[sink]? = some .keeping then some (sink, event) else none
  | _ => none

namespace World

variable (world : World)

theorem sinkName_eq : world.sinkName = nameAmong (world.sinks.map (·.subscriber)) := by
  funext sink
  simp [sinkName, nameAmong, Function.comp_def]

/-- The records of the fan-out. -/
def faults : List LogRecord :=
  world.journal.toList.filter fun record => record.origin == .fanout

/-- The deliveries of a turn of a worker. -/
def deliveriesBy (index : Nat) : List Delivery :=
  ((world.sinks[index]?).map fun sink => (sink.work world.system.isOpen index).2).getD []

/-! ### Records -/

theorem faults_log (record : LogRecord) :
    (world.log record).faults =
      world.faults ++ if record.origin = .fanout then [record] else [] := by
  by_cases fault : record.origin = .fanout <;> simp [log, faults, fault]

/-- What it comes to that some deliveries are accounted for: the losses among them are recorded, and
a subscriber that keeps events keeps what it has handled. -/
structure AccountsFor (world next : World) (deliveries : List Delivery) : Prop where
  sinks : next.sinks = world.sinks
  roles : next.roles = world.roles
  position : next.position = world.position
  isClosing : next.isClosing = world.isClosing
  faults : next.faults = world.faults ++ deliveries.filterMap (Delivery.record? world.sinkName)
  kept : next.kept.toList = world.kept.toList ++ deliveries.filterMap (Delivery.kept? world.roles)

theorem account_accountsFor (delivery : Delivery) :
    world.AccountsFor (world.account delivery) [delivery] := by
  have silent (unrecorded : delivery.record? world.sinkName = none) :
      world.faults = world.faults ++ [delivery].filterMap (Delivery.record? world.sinkName) := by
    simp [unrecorded]
  have unkept (other : delivery.kept? world.roles = none) :
      world.kept.toList =
        world.kept.toList ++ [delivery].filterMap (Delivery.kept? world.roles) := by
    simp [other]
  cases delivery with
  | accepted | fatal | lost => exact ⟨rfl, rfl, rfl, rfl, silent rfl, unkept rfl⟩
  | missed | refused | panicked => exact ⟨rfl, rfl, rfl, rfl, faults_log world _, unkept rfl⟩
  | handled sink event =>
      cases role : world.roles[sink]? with
      | none =>
          simp only [account, serve, role]
          exact ⟨rfl, rfl, rfl, rfl, silent rfl, unkept (by simp [Delivery.kept?, role])⟩
      | some role' =>
          cases role' with
          | keeping =>
              simp only [account, serve, role]
              exact ⟨rfl, rfl, rfl, rfl, silent rfl, by simp [Delivery.kept?, role]⟩
          | writing =>
              simp only [account, serve, role]
              refine ⟨rfl, rfl, rfl, rfl, ?_, unkept (by simp [Delivery.kept?, role])⟩
              rw [faults_log]
              simp [Writer.record, Delivery.record?]
          | measuring space =>
              simp only [account, serve, role]
              exact ⟨rfl, rfl, rfl, rfl, silent rfl, unkept (by simp [Delivery.kept?, role])⟩

theorem accountAll_accountsFor (deliveries : List Delivery) :
    world.AccountsFor (deliveries.foldl account world) deliveries := by
  induction deliveries generalizing world with
  | nil => exact ⟨rfl, rfl, rfl, rfl, (List.append_nil _).symm, (List.append_nil _).symm⟩
  | cons delivery rest ih =>
      have first := world.account_accountsFor delivery
      have later := ih (world.account delivery)
      have names : (world.account delivery).sinkName = world.sinkName := by
        rw [sinkName_eq, sinkName_eq, first.sinks]
      refine ⟨later.sinks.trans first.sinks, later.roles.trans first.roles,
        later.position.trans first.position, later.isClosing.trans first.isClosing, ?_, ?_⟩
      · rw [List.foldl_cons, later.faults, first.faults, names, List.append_assoc,
          ← List.filterMap_append, List.singleton_append]
      · rw [List.foldl_cons, later.kept, first.kept, first.roles, List.append_assoc,
          ← List.filterMap_append, List.singleton_append]

/-- A worker changes its own sink, and what became of the events is accounted for. -/
theorem work_eq {index : Nat} {sink : Sink} (found : world.sinks[index]? = some sink) :
    ∃ scheduler, world.work index =
      { (sink.work world.system.isOpen index).2.foldl account { world with
          sinks := world.sinks.set index (sink.work world.system.isOpen index).1 } with
        scheduler } := by
  simp only [work, found]
  split
  · exact ⟨_, rfl⟩
  · split
    · exact ⟨_, rfl⟩
    · exact ⟨_, rfl⟩

theorem work_cases {index : Nat} {sink : Sink} (found : world.sinks[index]? = some sink) :
    (world.work index).sinks =
        world.sinks.set index (sink.work world.system.isOpen index).1 ∧
      (world.work index).position = world.position ∧
      (world.work index).isClosing = world.isClosing := by
  rcases world.work_eq found with ⟨scheduler, works⟩
  have accounted := accountAll_accountsFor { world with
    sinks := world.sinks.set index (sink.work world.system.isOpen index).1 }
    (sink.work world.system.isOpen index).2
  rw [works]
  exact ⟨accounted.sinks, accounted.position, accounted.isClosing⟩

theorem hear_cases (reception : Reception) :
    (world.hear reception).sinks = (offerHeard world.sinks reception).1 ∧
      (world.hear reception).position = world.position ∧
      (world.hear reception).isClosing = world.isClosing := by
  cases reception with
  | event event =>
      have accounted := accountAll_accountsFor
        { world with sinks := (offerAll event 0 world.sinks).1 } (offerAll event 0 world.sinks).2
      exact ⟨accounted.sinks, accounted.position, accounted.isClosing⟩
  | lagged missed => exact ⟨rfl, rfl, rfl⟩
  | empty => exact ⟨rfl, rfl, rfl⟩
  | closed => exact ⟨rfl, rfl, rfl⟩

theorem hearAll_cases (opened : ∀ sink ∈ world.sinks, sink.isClosed = false ∧ sink.Sound)
    (receptions : List Reception) :
    (receptions.foldl hear world).position = world.position ∧
      (receptions.foldl hear world).isClosing = world.isClosing ∧
      ∀ sink ∈ (receptions.foldl hear world).sinks, sink.isClosed = false ∧ sink.Sound := by
  induction receptions generalizing world with
  | nil => exact ⟨rfl, rfl, opened⟩
  | cons reception rest ih =>
      rcases world.hear_cases reception with ⟨sinks, position, closing⟩
      have after := offerHeard_opened opened reception
      rw [← sinks] at after
      rcases ih (world.hear reception) after with ⟨lastPosition, lastClosing, last⟩
      exact ⟨lastPosition.trans position, lastClosing.trans closing, last⟩

/-- Whether a record tells that the listener fell behind. -/
def isLag (record : LogRecord) : Bool :=
  record.message == "subscriber listener fell behind the bus"

/-- The records of losses at a sink are records of the fan-out of their own. -/
theorem record?_isLag (names : Nat → String) (deliveries : List Delivery) :
    (deliveries.filterMap (Delivery.record? names)).filter isLag = [] ∧
      (deliveries.filterMap (Delivery.record? names)).filter (fun record => !isLag record) =
        deliveries.filterMap (Delivery.record? names) := by
  have each : ∀ record ∈ deliveries.filterMap (Delivery.record? names), isLag record = false := by
    intro record member
    rcases List.mem_filterMap.mp member with ⟨delivery, _, recorded⟩
    cases delivery <;> simp only [Delivery.record?] at recorded <;> cases recorded <;> rfl
  constructor
  · rw [List.filter_eq_nil_iff]
    intro record member
    simp [each record member]
  · rw [List.filter_eq_self]
    intro record member
    simp [each record member]

/-- Those who only wake others leave everything else as it was. -/
theorem foldl_scheduler {Item : Type} (act : World → Item → World)
    (acts : ∀ world item, ∃ scheduler, act world item = { world with scheduler })
    (items : List Item) : ∃ scheduler, items.foldl act world = { world with scheduler } := by
  induction items generalizing world with
  | nil => exact ⟨world.scheduler, rfl⟩
  | cons item rest ih =>
      rcases acts world item with ⟨first, acted⟩
      rcases ih (act world item) with ⟨last, folded⟩
      refine ⟨last, ?_⟩
      rw [List.foldl_cons, folded, acted]

/-- Sinks that are closed for the first time get no more events, and their workers are told. -/
theorem beginClosing_eq (isOpen : world.isClosing = false) :
    ∃ scheduler, world.beginClosing =
      { world with
        scheduler
        isClosing := true
        sinks := world.sinks.map fun sink => { sink with isClosed := true } } := by
  rcases foldl_scheduler
    { world with
      isClosing := true
      sinks := world.sinks.map fun sink => { sink with isClosed := true } }
    (fun world index => world.tell (.queue index)) (fun world index => ⟨_, rfl⟩)
    (List.range world.sinks.length) with ⟨scheduler, told⟩
  refine ⟨scheduler, ?_⟩
  simpa [beginClosing, isOpen] using told

/-! ### Accounts -/

/-- The accounts of a world with some subscribers whose listener had some receptions and whose
sinks had some deliveries. -/
structure Accounts (subscribers : List Subscriber) (receptions : List Reception)
    (deliveries : List Delivery) : Prop where
  served : world.sinks.map (·.subscriber) = subscribers
  placed : ∀ delivery ∈ deliveries, delivery.sink < world.sinks.length
  ledgers : ∀ index (sink : Sink), world.sinks[index]? = some sink →
    sink.Ledger index (Reception.events receptions) deliveries
  lags : world.faults.filter isLag = receptions.filterMap Reception.record?
  losses : world.faults.filter (fun record => !isLag record) =
    deliveries.filterMap (Delivery.record? (nameAmong subscribers))
  kept : world.kept.toList = deliveries.filterMap (Delivery.kept? world.roles)

namespace Accounts

variable {world} {subscribers : List Subscriber} {receptions : List Reception}
  {deliveries : List Delivery}

/-- Only the sinks, the records of the fan-out and what is kept count. -/
theorem congr (accounts : world.Accounts subscribers receptions deliveries) {next : World}
    (sinks : next.sinks = world.sinks) (faults : next.faults = world.faults)
    (roles : next.roles = world.roles) (kept : next.kept = world.kept) :
    next.Accounts subscribers receptions deliveries where
  served := by rw [sinks, accounts.served]
  placed := by
    rw [sinks]
    exact accounts.placed
  ledgers := by
    rw [sinks]
    exact accounts.ledgers
  lags := by rw [faults, accounts.lags]
  losses := by rw [faults, accounts.losses]
  kept := by rw [kept, roles, accounts.kept]

/-- The sinks go on to new states, and what became of the events is accounted for. -/
theorem goOn (accounts : world.Accounts subscribers receptions deliveries) {sinks : List Sink}
    {heard : List Reception} {news : List Delivery}
    (unmissed : heard.filterMap Reception.record? = [])
    (same : sinks.map (·.subscriber) = world.sinks.map (·.subscriber))
    (placed : ∀ delivery ∈ news, delivery.sink < world.sinks.length)
    (ledgers : ∀ index (sink : Sink), sinks[index]? = some sink →
      sink.Ledger index (Reception.events (receptions ++ heard)) (deliveries ++ news)) :
    (news.foldl account { world with sinks }).Accounts subscribers (receptions ++ heard)
      (deliveries ++ news) := by
  have accounted := accountAll_accountsFor { world with sinks } news
  have sinksKept := accounted.sinks
  have recorded := accounted.faults
  have before : faults { world with sinks } = world.faults := rfl
  rw [sinkName_eq, same, accounts.served, before] at recorded
  refine ⟨?_, ?_, ?_, ?_, ?_, ?_⟩
  · rw [sinksKept, same, accounts.served]
  · have sizes := congrArg List.length same
    rw [List.length_map, List.length_map] at sizes
    rw [sinksKept, sizes]
    intro delivery member
    rcases List.mem_append.mp member with before | new
    · exact accounts.placed delivery before
    · exact placed delivery new
  · rw [sinksKept]
    exact ledgers
  · rw [recorded, List.filter_append, accounts.lags, (record?_isLag _ news).1,
      List.filterMap_append, unmissed]
  · rw [recorded, List.filter_append, accounts.losses, (record?_isLag _ news).2,
      List.filterMap_append]
  · rw [accounted.roles, accounted.kept, List.filterMap_append]
    exact congrArg (· ++ _) accounts.kept

/-- A reception of nothing changes nothing. -/
theorem unheard (accounts : world.Accounts subscribers receptions deliveries)
    (reception : Reception) (nothing : reception.event? = none)
    (unmissed : reception.record? = none) :
    world.Accounts subscribers (receptions ++ [reception]) deliveries where
  served := accounts.served
  placed := accounts.placed
  ledgers := by simpa [Reception.events, nothing] using accounts.ledgers
  lags := by simpa [unmissed] using accounts.lags
  losses := accounts.losses
  kept := accounts.kept

theorem hear (accounts : world.Accounts subscribers receptions deliveries)
    (reception : Reception) :
    (world.hear reception).Accounts subscribers (receptions ++ [reception])
      (deliveries ++ (offerHeard world.sinks reception).2) := by
  cases reception with
  | event event =>
      refine accounts.goOn rfl (offerAll_subscribers event 0 world.sinks) ?_ ?_
      · intro delivery member
        simpa using (offerAll_place event 0 world.sinks delivery member).2
      intro index sink found
      rw [offerAll_getElem?, Nat.zero_add] at found
      cases before : world.sinks[index]? with
      | none => simp [before] at found
      | some old =>
          rw [before] at found
          cases found
          have ledger := (accounts.ledgers index old before).offer event
          have given : Reception.events (receptions ++ [.event event]) =
              Reception.events receptions ++ [event] := by
            simp [Reception.events, Reception.event?]
          rw [given]
          refine ledger.congr ?_
          have own := offerAll_filter event 0 index world.sinks
          rw [Nat.zero_add, before] at own
          have place := (old.offer_frame index event).1
          rw [List.filter_append, List.filter_append, own]
          simp [place]
  | lagged missed =>
      have recorded : (world.log (fellBehindRecord missed)).faults =
          world.faults ++ [fellBehindRecord missed] := faults_log world _
      have given : Reception.events (receptions ++ [.lagged missed]) =
          Reception.events receptions := by
        simp [Reception.events, Reception.event?]
      simp only [World.hear, offerHeard, List.append_nil]
      refine ⟨accounts.served, accounts.placed, ?_, ?_, ?_, accounts.kept⟩
      · rw [given]
        exact accounts.ledgers
      · rw [recorded, List.filter_append, accounts.lags, List.filterMap_append]
        rfl
      · rw [recorded, List.filter_append, accounts.losses]
        exact List.append_nil _
  | empty => simpa [World.hear, offerHeard] using accounts.unheard .empty rfl rfl
  | closed => simpa [World.hear, offerHeard] using accounts.unheard .closed rfl rfl

theorem hearAll (accounts : world.Accounts subscribers receptions deliveries)
    (heard : List Reception) :
    (heard.foldl World.hear world).Accounts subscribers (receptions ++ heard)
      (deliveries ++ deliveriesOf world.sinks heard) := by
  induction heard generalizing world receptions deliveries with
  | nil => simpa [deliveriesOf] using accounts
  | cons reception rest ih =>
      have later := ih (accounts.hear reception)
      rw [(world.hear_cases reception).1] at later
      simpa [deliveriesOf, List.append_assoc] using later

theorem work (accounts : world.Accounts subscribers receptions deliveries) (index : Nat) :
    (world.work index).Accounts subscribers receptions
      (deliveries ++ world.deliveriesBy index) := by
  cases found : world.sinks[index]? with
  | none => simpa [World.work, deliveriesBy, found] using accounts
  | some old =>
      have inside := (List.getElem?_eq_some_iff.mp found).1
      have ended : ((old.work world.system.isOpen index).2.foldl account { world with
            sinks := world.sinks.set index (old.work world.system.isOpen index).1 }).Accounts
          subscribers (receptions ++ []) (deliveries ++ (old.work world.system.isOpen index).2) := by
        refine accounts.goOn rfl ?_ ?_ ?_
        · apply List.ext_getElem?
          intro place
          simp only [List.getElem?_map, List.getElem?_set, inside, if_true]
          split
          · rename_i same
            subst same
            simp [found, (old.work_subscriber world.system.isOpen index).1]
          · rfl
        · intro delivery member
          rw [(old.work_place world.system.isOpen index delivery member).1]
          exact inside
        · intro place sink present
          rw [List.append_nil]
          simp only [List.getElem?_set, inside, if_true] at present
          split at present
          · rename_i same
            subst same
            cases present
            exact (accounts.ledgers index old found).work world.system.isOpen
          · rename_i other
            refine (accounts.ledgers place sink present).congr ?_
            rw [List.filter_append, List.append_right_eq_self, List.filter_eq_nil_iff]
            intro delivery member
            rw [(old.work_place world.system.isOpen index delivery member).1, beq_iff_eq]
            exact other
      rw [List.append_nil] at ended
      rcases world.work_eq found with ⟨scheduler, works⟩
      rw [works]
      simp only [deliveriesBy, found, Option.map_some, Option.getD_some]
      exact ended.congr rfl rfl rfl rfl

/-- Sinks that get no more events keep what they have. -/
theorem beginClosing (accounts : world.Accounts subscribers receptions deliveries) :
    world.beginClosing.Accounts subscribers receptions deliveries := by
  cases closing : world.isClosing with
  | true => simpa [World.beginClosing, closing] using accounts
  | false =>
      rcases world.beginClosing_eq closing with ⟨scheduler, closed⟩
      rw [closed]
      refine ⟨?_, by simpa using accounts.placed, ?_, accounts.lags, accounts.losses,
        accounts.kept⟩
      · rw [← accounts.served]
        simp [Function.comp_def]
      · intro index sink found
        rw [List.getElem?_map] at found
        cases before : world.sinks[index]? with
        | none => simp [before] at found
        | some old =>
            rw [before] at found
            cases found
            have ledger := accounts.ledgers index old before
            exact ⟨ledger.offered, ledger.accepted, ledger.bounded, ledger.told, ledger.standing,
              ledger.fallen⟩

end Accounts

end World

end Admission
