import Admission.Decimal.Shortest
import Admission.Duration

/-!
# Metric families and their registry

A registry holds families of measurements, each under a full name that no other family of the
registry has. A family is a gauge that is set, a counter that only grows, a histogram of
observations, or a gauge that reads the tokens available in a pool whenever it is asked.

Reading a registry gives one block of lines for each family, in the order of their names. Every
value is a number of double precision in the text, whatever it is counted in.
-/

namespace Admission

/-- Observations, counted by the first bound that is not below them. -/
structure Histogram where
  bounds : List Float
  /-- How many observations fell into each bucket. -/
  counts : List Nat
  /-- How many observations there were. -/
  total : Nat := 0
  sum : Float := 0

namespace Histogram

/-- A number of bounds, each a multiple of the one before. -/
def exponentialBounds (factor : Float) : Nat → Float → List Float
  | 0, _ => []
  | count + 1, start => start :: exponentialBounds factor count (start * factor)

/-- A histogram without observations. -/
def ofBounds (bounds : List Float) : Histogram :=
  { bounds, counts := bounds.map fun _ => 0 }

/-- Counts an observation in the first bucket that takes it. -/
def countIn (value : Float) : List Float → List Nat → List Nat
  | bound :: bounds, count :: counts =>
      if value ≤ bound then (count + 1) :: counts else count :: countIn value bounds counts
  | _, counts => counts

/-- Takes in an observation. -/
def observe (histogram : Histogram) (value : Float) : Histogram :=
  { histogram with
    counts := countIn value histogram.bounds histogram.counts
    total := histogram.total + 1
    sum := histogram.sum + value }

/-- For each bucket, how many observations fell into it or one before it. -/
def cumulative : Nat → List Nat → List Nat
  | _, [] => []
  | before, count :: counts => (before + count) :: cumulative (before + count) counts

end Histogram

/-- How a family measures. -/
inductive Instrument where
  | gauge (value : Nat)
  | counter (count : Nat)
  | histogram (observations : Histogram)
  /-- The tokens available in a pool, read when asked. -/
  | poolGauge (pool : Nat)

/-- A named measurement. -/
structure Family where
  name : String
  help : String
  instrument : Instrument

/-- Why a family was not registered. -/
inductive MetricsError where
  /-- The name cannot be that of a metric. -/
  | invalidName (name : String)
  /-- The name is taken. -/
  | duplicate
deriving DecidableEq, Repr

namespace MetricsError

/-- The error as a sentence. -/
def message : MetricsError → String
  | invalidName name =>
      "failed to register metric: Error: '" ++ name ++ "' is not a valid metric name"
  | duplicate =>
      "failed to register metric: Duplicate metrics collector registration attempted"

/-- A short stable name of the kind of error. -/
def label : MetricsError → String
  | invalidName _ => "registration"
  | duplicate => "registration"

end MetricsError

/-- Families under distinct names, in the order in which they were registered. -/
structure Registry where
  families : List Family := []

namespace Registry

/-- Whether a character may begin the name of a metric. -/
def beginsName (character : Char) : Bool :=
  character.isAlpha || character == '_' || character == ':'

/-- Whether a text can be the name of a metric: letters, digits, underscores and colons, all
ASCII, and no digit at the start. -/
def isName (text : String) : Bool :=
  match text.toList with
  | [] => false
  | first :: rest =>
      beginsName first && rest.all fun character => beginsName character || character.isDigit

def find? (registry : Registry) (name : String) : Option Family :=
  registry.families.find? fun family => family.name == name

def register (registry : Registry) (family : Family) : Except MetricsError Registry :=
  if !isName family.name then .error (.invalidName family.name)
  else if (registry.find? family.name).isSome then .error .duplicate
  else .ok { registry with families := registry.families ++ [family] }

/-- Registers families one after the other up to the first that is refused. -/
def registerAll : Registry → List Family → Registry × Option MetricsError
  | registry, [] => (registry, none)
  | registry, family :: rest =>
      match registry.register family with
      | .ok registry => registerAll registry rest
      | .error error => (registry, some error)

def adjust (registry : Registry) (name : String) (change : Instrument → Instrument) : Registry :=
  { registry with
    families := registry.families.map fun family =>
      if family.name = name then { family with instrument := change family.instrument }
      else family }

/-- The greatest value that a gauge can show. -/
def maxGauge : Nat := Nat.pow 2 63 - 1

/-- A count as text, by way of a number of double precision. -/
def countText (count : Nat) : String :=
  Decimal.text count.toUInt64.toFloat

def bucketLine (name bound : String) (count : Nat) : String :=
  name ++ "_bucket\x7ble=\"" ++ bound ++ "\"\x7d " ++ countText count

def typeWord : Instrument → String
  | .gauge _ => "gauge"
  | .counter _ => "counter"
  | .histogram _ => "histogram"
  | .poolGauge _ => "gauge"

/-- The lines with the values of an instrument, given the tokens available in each pool. -/
def sampleLines (available : Nat → Nat) (name : String) : Instrument → List String
  | .gauge value => [name ++ " " ++ countText (min value maxGauge)]
  | .counter count => [name ++ " " ++ countText count]
  | .poolGauge pool => [name ++ " " ++ countText (min (available pool) maxGauge)]
  | .histogram observations =>
      ((observations.bounds.zip (Histogram.cumulative 0 observations.counts)).map fun bucket =>
        bucketLine name (Decimal.text bucket.1) bucket.2) ++
      [bucketLine name "+Inf" observations.total,
       name ++ "_sum " ++ Decimal.text observations.sum,
       name ++ "_count " ++ countText observations.total]

def familyLines (available : Nat → Nat) (family : Family) : List String :=
  ["# HELP " ++ family.name ++ " " ++ family.help,
   "# TYPE " ++ family.name ++ " " ++ typeWord family.instrument] ++
    sampleLines available family.name family.instrument

def sorted (registry : Registry) : List Family :=
  registry.families.mergeSort fun first second => first.name ≤ second.name

/-- The text of a registry, given the tokens available in each pool. -/
def lines (registry : Registry) (available : Nat → Nat) : List String :=
  registry.sorted.flatMap (familyLines available)

end Registry

end Admission
