/-!
# The journal

Besides events, the parts of the program write records for an operator to read: a level, a
message, named fields and, for what happens while a job is handled, the job's identifier. A
journal is read part by part.
-/

namespace Admission

/-- How urgent a record is. -/
inductive Level where
  | debug
  | info
  | warn
  | error
deriving DecidableEq, Repr

/-- Which part of the program wrote a record. -/
inductive Origin where
  /-- A limiter, while it handles a job. -/
  | limiter
  /-- A reconciler, while it applies a feed. -/
  | reconciler
  /-- The caller that registered a feed. -/
  | registration
  /-- The fan-out to the subscribers. -/
  | fanout
  /-- The subscriber that writes events down. -/
  | writer
deriving DecidableEq, Repr

inductive FieldValue where
  | text (value : String)
  | number (value : Nat)
  | truth (value : Bool)
deriving DecidableEq, Repr

structure LogRecord where
  /-- The part that wrote it. -/
  origin : Origin
  level : Level
  message : String
  /-- Its fields; a field without a value is absent. -/
  fields : List (String × FieldValue) := []
  /-- The job that was being handled. -/
  span : Option String := none
deriving DecidableEq, Repr

namespace LogRecord

def textField? (record : LogRecord) (name : String) : Option String :=
  match record.fields.lookup name with
  | some (.text value) => some value
  | _ => none

/-- The word that orders the records of one part: the job for a limiter, the subscriber for the
fan-out, none elsewhere. -/
def sortKey (record : LogRecord) : Option String :=
  match record.origin with
  | .limiter => record.span
  | .fanout => record.textField? "subscriber"
  | _ => none

/-- Whether an absent or present key comes no later than another. -/
def keyNotAfter : Option String → Option String → Bool
  | none, _ => true
  | some _, none => false
  | some first, some second => first ≤ second

end LogRecord

/-- The parts of the program in the order in which a journal is read. -/
def Origin.all : List Origin :=
  [.limiter, .reconciler, .registration, .fanout, .writer]

/-- The records of each part that wrote any, those of one job or subscriber together and in the
order in which they were written. -/
def journalByOrigin (records : List LogRecord) : List (Origin × List LogRecord) :=
  (Origin.all.map fun origin =>
    (origin,
      (records.filter fun record => record.origin == origin).mergeSort fun first second =>
        LogRecord.keyNotAfter first.sortKey second.sortKey)).filter
    fun part => !part.2.isEmpty

end Admission
