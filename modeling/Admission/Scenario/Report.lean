import Admission.Scenario.Setup

/-!
# Reports

After each step a session reports what was seen since the step before: the tasks that ended, the
jobs that reached the last handler, the events on each bus, the events that subscribers keep and
the records written. Waits that are given up at the same time are listed by job, for nothing
fixes the order in which they are.
-/

namespace Admission

/-- Events in the order in which they are listed: waits given up one after the other are listed
by job. The first argument holds those that are still to be listed. -/
def listed : List Event → List Reception → List Reception
  | run, [] => flush run
  | run, .event event :: rest =>
      if event.kind.isGivenUp then listed (run ++ [event]) rest
      else flush run ++ .event event :: listed [] rest
  | run, other :: rest => flush run ++ other :: listed [] rest
where
  /-- Waits given up one after the other, by job. -/
  flush (run : List Event) : List Reception :=
    (run.mergeSort Event.isListedNoLater).map .event

/-- What was seen since the step before. -/
structure Report where
  /-- The tasks that ended, by name. -/
  done : List (String × Outcome)
  /-- Whether the sinks were shut down by a caller. -/
  shutDown : Bool
  /-- The jobs that reached the last handler. -/
  arrivals : List Arrival
  buses : List (List Reception)
  /-- What each subscriber keeps that keeps events. -/
  kept : List (String × List Reception)
  records : List (Origin × List LogRecord)

namespace Session

/-- The tasks that ended, among things that happened. -/
def doneIn (session : Session) (news : List Notice) : List (String × Outcome) :=
  let ended := news.filterMap fun
    | .finished index outcome => some (index, outcome)
    | _ => none
  let named := ended.filterMap fun entry =>
    (session.started.find? fun started => started.2 == entry.1).map fun started =>
      (started.1, entry.2)
  named.mergeSort fun first second => first.1 ≤ second.1

/-- The events that each subscriber keeps, among those kept by any. -/
def keptIn (session : Session) (news : List (Nat × Event)) : List (String × List Reception) :=
  (session.world.sinks.zipIdx.filter fun entry =>
    session.world.roles[entry.2]? == some .keeping).map fun entry =>
      (entry.1.subscriber.name,
        listed [] ((news.filter fun kept => kept.1 == entry.2).map fun kept => .event kept.2))

/-- Reports what was seen since the report before. -/
def report (session : Session) : Session × Report :=
  let history := session.system.history
  let journal := session.world.journal
  let kept := session.world.kept
  let news := (history.extract session.reported history.size).toList
  let drained := session.world.buses.toList.zipIdx.map fun entry =>
    entry.1.drain ((session.taps[entry.2]?).getD 0)
  let report : Report :=
    { done := session.doneIn news
      shutDown := session.world.isShutDown && !session.reportedShutDown
      arrivals := news.filterMap fun
        | .forwarded arrival => some arrival
        | _ => none
      buses := drained.map fun entry => listed [] entry.1
      kept := session.keptIn (kept.extract session.reportedKept kept.size).toList
      records := journalByOrigin
        (journal.extract session.reportedRecords journal.size).toList }
  ({ session with
      reported := history.size
      reportedRecords := journal.size
      reportedKept := kept.size
      reportedShutDown := session.world.isShutDown
      taps := (drained.map (·.2)).toArray }, report)

/-- How many of the tasks started by the script that handle a job or register a feed have not
ended. -/
def pending (session : Session) : Nat :=
  session.started.toList.countP fun started =>
    match session.system.tasks[started.2]? with
    | some state => World.holdsLimiter state
    | none => false

/-- How many timers of signals have not ended. -/
def timers (session : Session) : Nat :=
  session.system.tasks.toList.countP fun state =>
    state.outcome.isNone &&
      match state.task with
      | .timer _ _ _ => true
      | _ => false

end Session

end Admission
