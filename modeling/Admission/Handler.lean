import Admission.Error

/-!
# The last handler

The handler at the end of a chain follows a rule for each job: a list of holds, at each of which
it waits until it may go on, and a verdict when it has passed them all.
-/

namespace Admission

/-- Something that holds a handler up. -/
inductive Hold where
  | gate (name : String)
  /-- A number of milliseconds that has to pass. -/
  | pause (milliseconds : Nat)
  /-- A tick of the clock that has to be reached. -/
  | till (tick : Nat)
  /-- The job's context, which has to be cancelled. -/
  | cancellation
deriving DecidableEq, Repr

/-- What a handler can see when it has a turn. -/
structure Surroundings where
  /-- The tick of the clock. -/
  now : Nat
  isOpen : String → Bool
  /-- Whether the job's context is cancelled. -/
  isCancelled : Bool

namespace Hold

/-- A hold once the handler has reached it: a pause turns into the tick at which it ends. -/
def reached (now : Nat) : Hold → Hold
  | pause milliseconds => till (now + Duration.pause milliseconds)
  | other => other

/-- Whether a hold that was reached lets the handler go on. -/
def isPassed (surroundings : Surroundings) : Hold → Bool
  | gate name => surroundings.isOpen name
  | pause milliseconds => milliseconds == 0
  | till tick => tick ≤ surroundings.now
  | cancellation => surroundings.isCancelled

/-- The holds that are left after a turn; the first of them has been reached. -/
def pass (surroundings : Surroundings) : List Hold → List Hold
  | [] => []
  | hold :: rest =>
      let hold := hold.reached surroundings.now
      if hold.isPassed surroundings then pass surroundings rest else hold :: rest

end Hold

/-- What a handler does with a job. -/
structure Rule where
  /-- What holds it up, in order. -/
  holds : List Hold := []
  panics : Option String := none
  /-- Whether it refuses a job whose context is cancelled. -/
  checksContext : Bool := false
  fails : Option HandlerError := none
  /-- Whether it starts the job in the cluster. -/
  starts : Bool := false
deriving DecidableEq, Repr

/-- How a handler ends. -/
inductive Verdict where
  | panics (text : String)
  | fails (error : HandlerError)
  /-- It succeeds, and the job may have been started. -/
  | succeeds (starts : Bool)
deriving DecidableEq, Repr

/-- How a handler ends that has passed all holds of its rule. -/
def Rule.verdict (rule : Rule) (isCancelled : Bool) : Verdict :=
  match rule.panics, rule.fails with
  | some text, _ => .panics text
  | none, failure =>
      if rule.checksContext && isCancelled then
        .fails (.fail "not scheduling: shutting down")
      else
        match failure with
        | some error => .fails error
        | none => .succeeds rule.starts

end Admission
