import Admission.Cancellation.Forest

/-!
# Cancellation contexts

A context is a handle on a cancellation token together with a place for the cause of its
cancellation. Contexts are shared by cloning, and derived ones know the chain of contexts that
they were derived from. Cancelling a context cancels its token and every token grown under it,
and nothing else.

The state of all contexts of a program is one value: the forest of tokens, the tokens that are
cancelled, how many handles hold each token, and the causes that were recorded. A token whose
last handle is dropped is pruned from the forest, so that what grew under it still hears of a
cancellation further up.
-/

namespace Admission

/-- The cause reported where none was recorded. -/
def defaultCause : String := "context canceled"

/-- A token and the place for the cause of its cancellation. -/
structure Link where
  token : Nat
  /-- Where the cause is recorded. -/
  record : Nat
deriving DecidableEq, Repr

/-- A handle on a token. -/
structure Context where
  /-- Its own token and record. -/
  own : Link
  /-- The links of the contexts that it was derived from, nearest first. -/
  above : List Link
deriving DecidableEq, Repr

namespace Context

/-- All links, from the context itself upwards. -/
def links (context : Context) : List Link :=
  context.own :: context.above

def token (context : Context) : Nat :=
  context.own.token

end Context

/-- The state of all contexts. -/
structure Cancellation where
  /-- The tokens that can still hear of each other. -/
  forest : Forest
  cancelled : List Nat
  /-- For each token ever made, the number of its handles. -/
  holders : Array Nat
  /-- For each record ever made, the cause that it holds. -/
  causes : Array (Option String)
deriving Repr

namespace Cancellation

/-- No context yet. -/
def empty : Cancellation :=
  { forest := .bare, cancelled := [], holders := #[], causes := #[] }

def tokenCancelled (state : Cancellation) (token : Nat) : Bool :=
  state.cancelled.contains token

def isCancelled (state : Cancellation) (context : Context) : Bool :=
  state.tokenCancelled context.token

def recorded (state : Cancellation) (record : Nat) : Option String :=
  (state.causes[record]?).join

/-- The cause that a chain of links reports: none while its first token is live, else the first
one recorded along cancelled tokens, else the default. -/
def causeAlong (state : Cancellation) : List Link → Option String
  | [] => none
  | link :: rest =>
      if state.tokenCancelled link.token then
        match state.recorded link.record with
        | some cause => some cause
        | none => some ((state.causeAlong rest).getD defaultCause)
      else
        none

def cause (state : Cancellation) (context : Context) : Option String :=
  state.causeAlong context.links

/-- Counts a further handle on a token. -/
def hold (state : Cancellation) (token : Nat) : Cancellation :=
  { state with holders := state.holders.modify token (· + 1) }

/-- Gives up a handle on a token; the last one takes the token out of the forest. -/
def letGo (state : Cancellation) (token : Nat) : Cancellation :=
  let left := (state.holders[token]?).getD 0 - 1
  let state := { state with holders := state.holders.modify token (· - 1) }
  if left = 0 then { state with forest := state.forest.prune token } else state

/-- Makes a token that hears of no other. -/
def newToken (state : Cancellation) : Cancellation × Nat :=
  let token := state.holders.size
  ({ state with
      forest := state.forest.append (.tree token .bare .bare)
      holders := state.holders.push 0 }, token)

/-- Makes a token under another; under a cancelled one it is cancelled from the start. -/
def newTokenUnder (state : Cancellation) (parent : Nat) : Cancellation × Nat :=
  let token := state.holders.size
  let state := { state with holders := state.holders.push 0 }
  if state.tokenCancelled parent then
    ({ state with cancelled := token :: state.cancelled }, token)
  else
    ({ state with forest := state.forest.attach parent token }, token)

/-- Makes a record that holds no cause. -/
def newRecord (state : Cancellation) : Cancellation × Nat :=
  ({ state with causes := state.causes.push none }, state.causes.size)

/-- Another handle on the same context. -/
def clone (state : Cancellation) (context : Context) : Cancellation :=
  context.links.foldl (fun state link => state.hold link.token) state

/-- Gives up a handle on a context. -/
def drop (state : Cancellation) (context : Context) : Cancellation :=
  context.links.foldl (fun state link => state.letGo link.token) state

/-- A context of its own around a given token. -/
def around (state : Cancellation) (token : Nat) (above : List Link) : Cancellation × Context :=
  let (state, record) := state.newRecord
  let context := ⟨⟨token, record⟩, above⟩
  (state.clone context, context)

/-- A context that depends on no other. -/
def create (state : Cancellation) : Cancellation × Context :=
  let (state, token) := state.newToken
  state.around token []

/-- A context derived from another. -/
def child (state : Cancellation) (parent : Context) : Cancellation × Context :=
  let (state, token) := state.newTokenUnder parent.token
  state.around token parent.links

/-- A context of its own around the token of another. -/
def wrap (state : Cancellation) (other : Context) : Cancellation × Context :=
  state.around other.token []

/-- A context of its own around a token under that of another. -/
def wrapChild (state : Cancellation) (other : Context) : Cancellation × Context :=
  let (state, token) := state.newTokenUnder other.token
  state.around token []

/-- Cancels a token and all under it; the tokens that hear of it, in order. -/
def cancelToken (state : Cancellation) (token : Nat) : Cancellation × List Nat :=
  if state.tokenCancelled token then (state, [])
  else
    let shoots := (state.forest.under? token).getD .bare
    let told :=
      Forest.felling state.tokenCancelled (shoots.firstCut state.tokenCancelled) ++ [token]
    ({ state with
        forest := state.forest.strip token
        cancelled := told ++ state.cancelled }, told)

/-- Records a cause for a context that is still live and has none. -/
def recordCause (state : Cancellation) (context : Context) (cause : String) : Cancellation :=
  if state.isCancelled context then state
  else
    { state with
      causes := state.causes.modify context.own.record fun held => some (held.getD cause) }

/-- Cancels a context, for a cause if one is given; the tokens that hear of it, in order. -/
def cancel (state : Cancellation) (context : Context) (cause : Option String) :
    Cancellation × List Nat :=
  match cause with
  | some cause => (state.recordCause context cause).cancelToken context.token
  | none => state.cancelToken context.token

end Cancellation

end Admission
