/-!
# Stale signals

A stale signal says that what is known about a job is out of date. It is fired once and for all,
by hand or by a timer, and is shared by cloning. The timer of a signal ends when the signal
fires or when its last clone is dropped.
-/

namespace Admission

/-- One signal with all its clones. -/
structure StaleSignal where
  fired : Bool := false
  clones : Nat := 1
  /-- Whether a timer was started for it. -/
  timed : Bool := false
deriving DecidableEq, Repr, Inhabited

namespace StaleSignal

def fire (signal : StaleSignal) : StaleSignal :=
  { signal with fired := true }

def clone (signal : StaleSignal) : StaleSignal :=
  { signal with clones := signal.clones + 1 }

def drop (signal : StaleSignal) : StaleSignal :=
  { signal with clones := signal.clones - 1 }

/-- Whether nobody is left who could ask for the signal. -/
def isForsaken (signal : StaleSignal) : Bool :=
  signal.clones == 0

end StaleSignal

end Admission
