/-!
# The forest of tokens

Cancellation tokens grow in trees. A forest is a sequence of tokens, each with the forest of the
tokens grown under it, in the order in which they were attached.

Two operations rearrange a forest. Pruning takes one token out and keeps what grew under it: the
token's shoots are attached after its siblings, and the last of the sequence moves into the gap.
Stripping forgets everything under one token. When the trees of a level are cut, `firstCut` says
in which order they hear of it, and `felling` goes on level by level; it reaches every live token
whose path to the cut is live.
-/

namespace Admission

/-- A sequence of tokens, each with the tokens under it. -/
inductive Forest where
  | bare
  /-- A token, what grew under it, and the siblings attached after it. -/
  | tree (token : Nat) (shoots siblings : Forest)
deriving DecidableEq, Repr

namespace Forest

/-- The trees of a forest in order, each as a token and what is under it. -/
def trees : Forest → List (Nat × Forest)
  | bare => []
  | tree token shoots siblings => (token, shoots) :: siblings.trees

def ofTrees : List (Nat × Forest) → Forest
  | [] => bare
  | (token, shoots) :: rest => tree token shoots (ofTrees rest)

def isBare : Forest → Bool
  | bare => true
  | tree _ _ _ => false

def size : Forest → Nat
  | bare => 0
  | tree _ shoots siblings => shoots.size + siblings.size + 1

def tokens : Forest → List Nat
  | bare => []
  | tree token shoots siblings => token :: (shoots.tokens ++ siblings.tokens)

def append : Forest → Forest → Forest
  | bare, after => after
  | tree token shoots siblings, after => tree token shoots (siblings.append after)

/-- Attaches a new token under another. -/
def attach (parent child : Nat) : Forest → Forest
  | bare => bare
  | tree token shoots siblings =>
      if token = parent then
        tree token (shoots.append (tree child bare bare)) siblings
      else
        tree token (attach parent child shoots) (attach parent child siblings)

/-- What grows directly under a token, if the forest has it. -/
def under? (wanted : Nat) : Forest → Option Forest
  | bare => none
  | tree token shoots siblings =>
      if token = wanted then some shoots
      else (under? wanted shoots).or (under? wanted siblings)

/-- Forgets everything under a token. -/
def strip (wanted : Nat) : Forest → Forest
  | bare => bare
  | tree token shoots siblings =>
      if token = wanted then tree token bare siblings
      else tree token (strip wanted shoots) (strip wanted siblings)

/-- Fills the place of one tree of a sequence with the last one of the sequence. -/
def fillGap (wanted : Nat) (sequence : List (Nat × Forest)) : List (Nat × Forest) :=
  match sequence.getLast? with
  | none => []
  | some last =>
      if last.1 = wanted then sequence.dropLast
      else sequence.dropLast.map fun entry => if entry.1 = wanted then last else entry

/-- Takes one token out of a level and keeps what grew under it, if the token is on this level. -/
def release? (wanted : Nat) (level : Forest) : Option Forest :=
  (level.trees.lookup wanted).map fun shoots =>
    ofTrees (fillGap wanted (level.trees ++ shoots.trees))

/-- Takes one token out from below the first level and keeps what grew under it. -/
def pruneBelow (wanted : Nat) : Forest → Forest
  | bare => bare
  | tree token shoots siblings =>
      tree token ((release? wanted shoots).getD (pruneBelow wanted shoots))
        (pruneBelow wanted siblings)

/-- Takes one token out of the forest and keeps what grew under it. -/
def prune (wanted : Nat) (forest : Forest) : Forest :=
  (release? wanted forest).getD (pruneBelow wanted forest)

/-- How many tokens the trees of a worklist hold. -/
def load : List (Nat × Forest) → Nat
  | [] => 0
  | entry :: rest => entry.2.size + 1 + load rest

theorem load_trees (forest : Forest) : load forest.trees = forest.size := by
  induction forest with
  | bare => rfl
  | tree token shoots siblings shootsCase siblingsCase =>
      simp only [load, trees, size] at *
      omega

theorem load_append (work more : List (Nat × Forest)) :
    load (work ++ more) = load work + load more := by
  induction work with
  | nil => simp only [List.nil_append, load, Nat.zero_add]
  | cons entry rest ih => simp only [List.cons_append, load, ih, Nat.add_assoc]

theorem load_reverse (work : List (Nat × Forest)) : load work.reverse = load work := by
  induction work with
  | nil => rfl
  | cons entry rest ih =>
      simp only [List.reverse_cons, load_append, ih, load]
      omega

/-- The live trees of a level in the order in which they are told that they are cut: the last one,
and then the others from the first. -/
def firstCut (isCancelled : Nat → Bool) (level : Forest) : List (Nat × Forest) :=
  let live := level.trees.filter fun entry => !isCancelled entry.1
  live.getLast?.toList ++ live.dropLast

/--
The order in which the trees of a worklist are told that they are cancelled. A token that was
cancelled before is passed over. All trees of the worklist are told before any of their shoots,
and of the shoots of one token the one attached last is told first.
-/
def felling (isCancelled : Nat → Bool) : List (Nat × Forest) → List Nat
  | [] => []
  | (token, shoots) :: rest =>
      if isCancelled token then felling isCancelled rest
      else token :: felling isCancelled (rest ++ shoots.trees.reverse)
termination_by work => load work
decreasing_by
  · simp only [load]
    omega
  · rw [load_append, load_reverse, load_trees]
    simp only [load]
    omega

end Forest

end Admission
