import Admission.Error

/-!
# The token pool

A pool holds a fixed number of tokens. Waiters queue for them, first come first served, and a
token that comes back is handed to the first waiter in the queue before anybody else can take
it. A waiter that was handed a token claims it at its next turn, unless it gives up at that very
turn: then the token goes on to the next waiter, or back to the pool.

The pool keeps count of the claimed tokens, and refuses to take back more than were claimed.
-/

namespace Admission

/-- A pool of tokens and those who wait for one. -/
structure Pool where
  capacity : Nat
  /-- How many tokens anybody may take. -/
  available : Nat
  inUse : Nat
  /-- The waiters without a token, first come first. -/
  queue : List Nat
  /-- The waiters that were handed a token and have not had a turn since. -/
  handed : List Nat
deriving DecidableEq, Repr, Inhabited

/-- How a turn of a waiter ends. -/
inductive Wait where
  /-- It goes on waiting. -/
  | pending
  /-- It claimed a token. -/
  | acquired
  /-- It gave up because its context was cancelled. -/
  | canceled
  /-- It gave up because its job was stale. -/
  | stale
deriving DecidableEq, Repr

namespace Pool

/-- The most tokens that a pool can count. -/
def maxCapacity : Nat := Nat.pow 2 61 - 1

def full (capacity : Nat) : Pool :=
  { capacity, available := capacity, inUse := 0, queue := [], handed := [] }

/-- Sets up a pool. -/
def create (capacity : Nat) : Except SetupError Pool :=
  if capacity = 0 then .error (.config (.maxInFlight capacity))
  else if maxCapacity < capacity then .error .tooManyTokens
  else .ok (full capacity)

/-- Claims a token at once, if one is available. -/
def tryAcquire (pool : Pool) : Bool × Pool :=
  if pool.available = 0 then (false, pool)
  else (true, { pool with available := pool.available - 1, inUse := pool.inUse + 1 })

/-- Hands a free token to the first waiter, which is returned, or keeps it available. -/
def handOn (pool : Pool) : Pool × Option Nat :=
  match pool.queue with
  | [] => ({ pool with available := pool.available + 1 }, none)
  | first :: rest =>
      ({ pool with queue := rest, handed := pool.handed ++ [first] }, some first)

/-- Takes back a claimed token, if one is claimed; the waiter that it was handed to. -/
def tryRelease (pool : Pool) : Bool × Pool × Option Nat :=
  if pool.inUse = 0 then (false, pool, none)
  else
    let (pool, woken) := { pool with inUse := pool.inUse - 1 }.handOn
    (true, pool, woken)

/-- A waiter gives up; the waiter to which a token that it was handed goes on. -/
def withdraw (pool : Pool) (waiter : Nat) : Pool × Option Nat :=
  if waiter ∈ pool.handed then
    { pool with handed := pool.handed.erase waiter }.handOn
  else
    ({ pool with queue := pool.queue.erase waiter }, none)

/-- A waiter that was handed a token claims it, one that finds a token available takes it, and
any other queues. -/
def claim (pool : Pool) (waiter : Nat) : Wait × Pool :=
  if waiter ∈ pool.handed then
    (.acquired,
      { pool with handed := pool.handed.erase waiter, inUse := pool.inUse + 1 })
  else if waiter ∈ pool.queue then
    (.pending, pool)
  else if pool.available = 0 then
    (.pending, { pool with queue := pool.queue ++ [waiter] })
  else
    (.acquired, { pool with available := pool.available - 1, inUse := pool.inUse + 1 })

/--
One turn of a waiter. A cancelled context counts before a stale job, and both before a token.
The waiter that is woken by a token handed on is returned last.
-/
def turn (pool : Pool) (waiter : Nat) (isCanceled isStale : Bool) : Wait × Pool × Option Nat :=
  if isCanceled then
    let (pool, woken) := pool.withdraw waiter
    (.canceled, pool, woken)
  else if isStale then
    let (pool, woken) := pool.withdraw waiter
    (.stale, pool, woken)
  else
    let (wait, pool) := pool.claim waiter
    (wait, pool, none)

end Pool

end Admission
