import Admission.Proofs.Handles

/-!
# Cancellation along lines of descent

Tokens come and go, and the forest only keeps those that somebody holds. This file compares it with
the tree of all tokens as they were grown, dropped ones included. A token that is still known is
cancelled if and only if somebody cancelled the token itself or one that it descends from.

The proof needs that pruning keeps every path of the forest around the token that is taken out, and
that cutting a tree reaches whatever a path leads to. Both are shown for paths of the forest first.
-/

namespace Admission

open Relation

namespace Forest

/-- The tokens that stand directly above others, as a relation. -/
abbrev parents (forest : Forest) (upper lower : Nat) : Prop :=
  forest.IsParent upper lower

variable {upper lower token wanted : Nat} {forest : Forest}

/-! ### Places in a forest with every token once -/

theorem IsParent.ne (parent : forest.IsParent upper lower) (distinct : forest.tokens.Nodup) :
    upper ≠ lower := by
  induction forest with
  | bare => exact parent.elim
  | tree token own siblings ownCase siblingsCase =>
      rcases nodup_tree.mp distinct with ⟨⟨notInner, -⟩, ownNodup, siblingsNodup, -⟩
      rcases parent with ⟨rfl, head⟩ | inner | beside
      · rintro rfl
        exact notInner (heads_subset_tokens own head)
      · exact ownCase inner ownNodup
      · exact siblingsCase beside siblingsNodup

theorem IsParent.not_mem_heads (parent : forest.IsParent upper lower)
    (distinct : forest.tokens.Nodup) : lower ∉ forest.heads := by
  induction forest with
  | bare => exact parent.elim
  | tree token own siblings _ siblingsCase =>
      rcases nodup_tree.mp distinct with ⟨⟨notInner, notBeside⟩, -, siblingsNodup, apart⟩
      -- Whatever is below the first tree is not the first tree, nor is it beside it.
      have below (inside : lower ∈ own.tokens) : lower ∉ (tree token own siblings).heads := by
        intro head
        rcases List.mem_cons.mp head with rfl | beside
        · exact notInner inside
        · exact apart lower inside (heads_subset_tokens siblings beside)
      rcases parent with ⟨-, head⟩ | inner | beside
      · exact below (heads_subset_tokens own head)
      · exact below inner.mem_tokens.2
      · intro head
        rcases List.mem_cons.mp head with rfl | later
        · exact notBeside beside.mem_tokens.2
        · exact siblingsCase beside siblingsNodup later

theorem under?_of_mem_trees {shoots : Forest} (distinct : forest.tokens.Nodup)
    (member : (wanted, shoots) ∈ forest.trees) : forest.under? wanted = some shoots := by
  induction forest with
  | bare => cases member
  | tree token own siblings _ siblingsCase =>
      rcases nodup_tree.mp distinct with ⟨⟨-, notBeside⟩, -, siblingsNodup, apart⟩
      rcases List.mem_cons.mp member with same | beside
      · cases same
        simp [under?]
      · have inside : wanted ∈ siblings.tokens := tokens_trees.mpr ⟨_, beside, Or.inl rfl⟩
        have notOwn : token ≠ wanted := fun same => notBeside (same ▸ inside)
        have notInner : wanted ∉ own.tokens := fun inner => apart wanted inner inside
        simp [under?, notOwn, under?_of_not_mem notInner, siblingsCase siblingsNodup beside]

theorem IsParent.under? (parent : forest.IsParent upper lower)
    (distinct : forest.tokens.Nodup) :
    ∃ shoots, forest.under? upper = some shoots ∧ lower ∈ shoots.heads := by
  induction forest with
  | bare => exact parent.elim
  | tree token own siblings ownCase siblingsCase =>
      rcases nodup_tree.mp distinct with ⟨⟨notInner, notBeside⟩, ownNodup, siblingsNodup, apart⟩
      rcases parent with ⟨rfl, head⟩ | inner | beside
      · exact ⟨own, by simp [Forest.under?], head⟩
      · rcases ownCase inner ownNodup with ⟨shoots, found, head⟩
        have notOwn : token ≠ upper := fun same => notInner (same ▸ inner.mem_tokens.1)
        exact ⟨shoots, by simp [Forest.under?, notOwn, found], head⟩
      · rcases siblingsCase beside siblingsNodup with ⟨shoots, found, head⟩
        have notOwn : token ≠ upper := fun same => notBeside (same ▸ beside.mem_tokens.1)
        have absent : upper ∉ own.tokens := fun inner => apart upper inner beside.mem_tokens.1
        exact ⟨shoots, by simp [Forest.under?, notOwn, under?_of_not_mem absent, found], head⟩

theorem exists_head_of_mem_tokens (member : token ∈ forest.tokens) :
    ∃ head ∈ forest.heads, ReflTransGen forest.parents head token := by
  induction forest with
  | bare => cases member
  | tree own shoots siblings shootsCase siblingsCase =>
      rcases List.mem_cons.mp member with rfl | below
      · exact ⟨token, List.mem_cons_self, .refl⟩
      rcases List.mem_append.mp below with inner | beside
      · rcases shootsCase inner with ⟨head, inside, path⟩
        refine ⟨own, List.mem_cons_self, ReflTransGen.head (Or.inl ⟨rfl, inside⟩) ?_⟩
        exact ReflTransGen.mono (fun _ _ parent => Or.inr (Or.inl parent)) _ _ path
      · rcases siblingsCase beside with ⟨head, inside, path⟩
        refine ⟨head, List.mem_cons_of_mem _ inside, ?_⟩
        exact ReflTransGen.mono (fun _ _ parent => Or.inr (Or.inr parent)) _ _ path

/-- Whatever is under a token is reached from it. -/
theorem IsUnder.path (below : forest.IsUnder wanted token) :
    TransGen forest.parents wanted token := by
  rcases below with ⟨shoots, found, inside⟩
  rcases under?_some found with ⟨heads, parents, -⟩
  rcases exists_head_of_mem_tokens inside with ⟨head, member, path⟩
  exact TransGen.head' (heads head member) (ReflTransGen.mono parents _ _ path)

/-! ### Paths around a token that is pruned -/

theorem release?_of_not_mem_heads (absent : wanted ∉ forest.heads) :
    forest.release? wanted = none := by
  rw [release?, Option.map_eq_none_iff, List.lookup_eq_none_iff]
  intro entry member
  have different : entry.1 ≠ wanted := fun same => absent (List.mem_map.mpr ⟨entry, member, same⟩)
  simpa using Ne.symm different

theorem exists_release? (head : wanted ∈ forest.heads) :
    ∃ released, forest.release? wanted = some released := by
  cases found : forest.trees.lookup wanted with
  | some shoots => exact ⟨_, by rw [release?, found, Option.map_some]⟩
  | none =>
      rcases List.mem_map.mp head with ⟨entry, member, same⟩
      have different := List.lookup_eq_none_iff.mp found entry member
      simp [same] at different

/-- The shoots of a token that is taken out of a level come up to the level. -/
theorem IsParent.mem_heads_release? {released : Forest} (parent : forest.IsParent wanted lower)
    (distinct : forest.tokens.Nodup) (releases : forest.release? wanted = some released) :
    lower ∈ released.heads := by
  rcases release?_perm distinct releases with ⟨before, shoots, after, split, perm⟩
  rcases parent.under? distinct with ⟨under, found, head⟩
  have here : forest.under? wanted = some shoots :=
    under?_of_mem_trees distinct (by simp [split])
  rw [here, Option.some.injEq] at found
  subst found
  rcases List.mem_map.mp head with ⟨entry, member, same⟩
  exact List.mem_map.mpr ⟨entry, perm.mem_iff.mpr (List.mem_append_right _ member), same⟩

theorem IsParent.pruneBelow_between (above : forest.IsParent upper wanted)
    (below : forest.IsParent wanted lower) (distinct : forest.tokens.Nodup) :
    (forest.pruneBelow wanted).IsParent upper lower := by
  induction forest with
  | bare => exact above.elim
  | tree token own siblings ownCase siblingsCase =>
      rcases nodup_tree.mp distinct with ⟨⟨notInner, notBeside⟩, ownNodup, siblingsNodup, apart⟩
      -- The token that is taken out is in one of the two parts, and so is what is below it.
      have inOwn (inside : wanted ∈ own.tokens) : own.IsParent wanted lower := by
        rcases below with ⟨rfl, -⟩ | inner | beside
        · exact absurd inside notInner
        · exact inner
        · exact absurd beside.mem_tokens.1 (apart wanted inside)
      have inSiblings (inside : wanted ∈ siblings.tokens) : siblings.IsParent wanted lower := by
        rcases below with ⟨rfl, -⟩ | inner | beside
        · exact absurd inside notBeside
        · exact absurd inside (apart wanted inner.mem_tokens.1)
        · exact beside
      rw [Forest.pruneBelow]
      rcases above with ⟨rfl, head⟩ | inner | beside
      · rcases exists_release? head with ⟨released, releases⟩
        refine Or.inl ⟨rfl, ?_⟩
        rw [releases, Option.getD_some]
        exact (inOwn (heads_subset_tokens own head)).mem_heads_release? ownNodup releases
      · refine Or.inr (Or.inl ?_)
        rw [release?_of_not_mem_heads (inner.not_mem_heads ownNodup), Option.getD_none]
        exact ownCase inner (inOwn inner.mem_tokens.2) ownNodup
      · exact Or.inr (Or.inr (siblingsCase beside (inSiblings beside.mem_tokens.2) siblingsNodup))

/-- What stood under a token that is pruned comes to stand under the one above it. -/
theorem IsParent.prune_between (above : forest.IsParent upper wanted)
    (below : forest.IsParent wanted lower) (distinct : forest.tokens.Nodup) :
    (forest.prune wanted).IsParent upper lower := by
  rw [Forest.prune, release?_of_not_mem_heads (above.not_mem_heads distinct), Option.getD_none]
  exact above.pruneBelow_between below distinct

/-- Pruning keeps every path that neither begins nor ends at the token that is taken out. -/
theorem path_prune (path : TransGen forest.parents upper lower)
    (distinct : forest.tokens.Nodup) (upperApart : upper ≠ wanted) (lowerApart : lower ≠ wanted) :
    TransGen (forest.prune wanted).parents upper lower := by
  -- A path that begins at the token itself goes on from whatever stands above it.
  have goesOn : (upper ≠ wanted → TransGen (forest.prune wanted).parents upper lower) ∧
      (upper = wanted → ∀ above, forest.IsParent above wanted →
        TransGen (forest.prune wanted).parents above lower) := by
    clear upperApart
    induction path using TransGen.head_induction_on with
    | single parent =>
        constructor
        · intro apart
          exact .single (parent.prune distinct apart lowerApart)
        · rintro rfl above parentAbove
          exact .single (parentAbove.prune_between parent distinct)
    | @head first second parent _ ih =>
        constructor
        · intro apart
          by_cases same : second = wanted
          · exact ih.2 same first (same ▸ parent)
          · exact .head (parent.prune distinct apart same) (ih.1 same)
        · rintro rfl above parentAbove
          have apart : second ≠ first := (parent.ne distinct).symm
          exact .head (parentAbove.prune_between parent distinct) (ih.1 apart)
  exact goesOn.1 upperApart

theorem not_mem_tokens_prune (distinct : forest.tokens.Nodup) (wanted : Nat) :
    wanted ∉ (forest.prune wanted).tokens := by
  have released {level after : Forest} (nodup : level.tokens.Nodup)
      (releases : level.release? wanted = some after) : wanted ∉ after.tokens :=
    (List.nodup_cons.mp ((tokens_release?_perm nodup releases).nodup_iff.mp nodup)).1
  have below : wanted ∉ forest.heads → wanted ∉ (forest.pruneBelow wanted).tokens := by
    induction forest with
    | bare => exact fun _ member => nomatch member
    | tree token own siblings ownCase siblingsCase =>
        intro absent
        rcases nodup_tree.mp distinct with ⟨-, ownNodup, siblingsNodup, -⟩
        simp only [heads_tree, List.mem_cons, not_or] at absent
        simp only [pruneBelow, tokens, List.mem_cons, List.mem_append, not_or]
        refine ⟨absent.1, ?_, siblingsCase siblingsNodup absent.2⟩
        by_cases head : wanted ∈ own.heads
        · rcases exists_release? head with ⟨after, releases⟩
          rw [releases, Option.getD_some]
          exact released ownNodup releases
        · rw [release?_of_not_mem_heads head, Option.getD_none]
          exact ownCase ownNodup head
  rw [prune]
  by_cases head : wanted ∈ forest.heads
  · rcases exists_release? head with ⟨after, releases⟩
    rw [releases, Option.getD_some]
    exact released distinct releases
  · rw [release?_of_not_mem_heads head, Option.getD_none]
    exact below head

end Forest

namespace Cancellation

variable {state next : Cancellation} {grown : Nat → Nat → Prop} {cut : Nat → Prop}
  {upper lower token : Nat}

/-- A token is bound to another along a path if it is cancelled or the forest has the path. -/
theorem Rooted.path_iff (rooted : state.Rooted) :
    TransGen state.Binds upper lower ↔
      lower ∈ state.cancelled ∨ TransGen state.forest.parents upper lower := by
  constructor
  · intro path
    induction path with
    | single binds => exact binds.imp_right TransGen.single
    | @tail second last _ binds ih =>
        refine binds.imp_right fun parent => ?_
        have live := tokenCancelled_eq_false.mp (rooted.quiet second last parent)
        exact .tail (ih.resolve_left live) parent
  · rintro (cancelled | path)
    · exact .single (Or.inl cancelled)
    · exact TransGen.mono (fun _ _ parent => Or.inr parent) _ _ path

theorem Rooted.live_of_path (rooted : state.Rooted)
    (path : TransGen state.forest.parents upper lower) : upper ∉ state.cancelled := by
  rcases TransGen.head'_iff.mp path with ⟨second, parent, -⟩
  exact tokenCancelled_eq_false.mp (rooted.quiet upper second parent)

theorem Rooted.cancelled_of_path (rooted : state.Rooted) (path : TransGen state.Binds upper lower)
    (above : upper ∈ state.cancelled) : lower ∈ state.cancelled := by
  rcases rooted.path_iff.mp path with cancelled | inForest
  · exact cancelled
  · exact absurd above (rooted.live_of_path inForest)

/-! ### The tree of tokens as they were grown -/

/-- The state keeps up with all tokens that were grown under others, and with those that somebody
cancelled: as long as two of them are known, the lower one hears of the upper one. -/
structure Follows (grown : Nat → Nat → Prop) (cut : Nat → Prop) (state : Cancellation) : Prop where
  rooted : state.Rooted
  counted : ∀ token ∈ state.cancelled, token < state.holders.size
  made : ∀ upper lower, grown upper lower →
    upper < state.holders.size ∧ lower < state.holders.size
  parents : ∀ upper lower, state.forest.IsParent upper lower → TransGen grown upper lower
  sound : ∀ token ∈ state.cancelled, ∃ upper, ReflTransGen grown upper token ∧ cut upper
  cuts : ∀ token, cut token → token ∈ state.cancelled
  hears : ∀ upper lower, TransGen grown upper lower → state.Knows upper → state.Knows lower →
    TransGen state.Binds upper lower

theorem Follows.of_iff (follows : state.Follows grown cut) {grown' : Nat → Nat → Prop}
    {cut' : Nat → Prop} (grows : ∀ upper lower, grown' upper lower ↔ grown upper lower)
    (cuts : ∀ token, cut' token ↔ cut token) : state.Follows grown' cut' := by
  have sameGrown : grown' = grown := funext₂ fun upper lower => propext (grows upper lower)
  have sameCut : cut' = cut := funext fun token => propext (cuts token)
  rw [sameGrown, sameCut]
  exact follows

/-- A token that is known is cancelled exactly if somebody cancelled one that it descends from. -/
theorem Follows.mem_cancelled_iff (follows : state.Follows grown cut)
    (known : state.Knows token) :
    token ∈ state.cancelled ↔ ∃ upper, ReflTransGen grown upper token ∧ cut upper := by
  constructor
  · exact follows.sound token
  · rintro ⟨upper, path, cutUpper⟩
    have above := follows.cuts upper cutUpper
    rcases reflTransGen_iff_eq_or_transGen.mp path with rfl | proper
    · exact above
    · exact follows.rooted.cancelled_of_path
        (follows.hears upper token proper (Or.inr above) known) above

theorem Follows.lt_of_knows (follows : state.Follows grown cut) (known : state.Knows token) :
    token < state.holders.size :=
  known.elim (follows.rooted.grown token) (follows.counted token)

theorem follows_empty : empty.Follows (fun _ _ => False) (fun _ => False) where
  rooted :=
    { distinct := List.nodup_nil
      grown := fun _ member => nomatch member
      quiet := fun _ _ parent => nomatch parent
      rooted := fun token held => by simp [handles, empty] at held }
  counted := fun _ member => nomatch member
  made := fun _ _ impossible => impossible.elim
  parents := fun _ _ parent => nomatch parent
  sound := fun _ member => nomatch member
  cuts := fun _ impossible => impossible.elim
  hears := fun upper lower path => by
    rcases TransGen.head'_iff.mp path with ⟨_, impossible, -⟩
    exact impossible.elim

theorem Follows.congr (follows : state.Follows grown cut) (rooted : next.Rooted)
    (forest : next.forest = state.forest) (cancelled : next.cancelled = state.cancelled)
    (size : state.holders.size ≤ next.holders.size) : next.Follows grown cut where
  rooted := rooted
  counted := by
    rw [cancelled]
    exact fun token member => Nat.lt_of_lt_of_le (follows.counted token member) size
  made := by
    intro upper lower grows
    have made := follows.made upper lower grows
    omega
  parents := by
    rw [forest]
    exact follows.parents
  sound := by
    rw [cancelled]
    exact follows.sound
  cuts := by
    rw [cancelled]
    exact follows.cuts
  hears := by
    have binds : next.Binds = state.Binds := by
      funext upper lower
      simp only [Binds, forest, cancelled]
    simp only [Knows, forest, cancelled, binds]
    exact follows.hears

/-- What is known after a handle was given up keeps hearing of what it descends from. -/
theorem Follows.letGo (follows : state.Follows grown cut) (token : Nat) :
    (state.letGo token).Follows grown cut := by
  have rooted := follows.rooted.letGo token
  have cancelled := state.letGo_cancelled token
  have size := state.letGo_holders token
  rcases state.letGo_forest token with forest | forest
  · exact follows.congr rooted forest cancelled (Nat.le_of_eq size.symm)
  refine ⟨rooted, ?_, ?_, ?_, ?_, ?_, ?_⟩
  · rw [cancelled, size]
    exact follows.counted
  · rw [size]
    exact follows.made
  · rw [forest]
    intro upper lower parent
    rcases parent.of_prune with before | ⟨above, below⟩
    · exact follows.parents upper lower before
    · exact (follows.parents upper token above).trans (follows.parents token lower below)
  · rw [cancelled]
    exact follows.sound
  · rw [cancelled]
    exact follows.cuts
  · intro upper lower path upperKnown lowerKnown
    rw [rooted.path_iff, cancelled, forest]
    simp only [Knows, cancelled, forest] at upperKnown lowerKnown
    by_cases lowerCancelled : lower ∈ state.cancelled
    · exact Or.inl lowerCancelled
    have inForest := lowerKnown.resolve_right lowerCancelled
    have before : ∀ other, other ∈ (state.forest.prune token).tokens ∨ other ∈ state.cancelled →
        state.Knows other := fun other =>
      Or.imp_left fun member => Forest.tokens_prune_subset token state.forest member
    have heard := follows.hears upper lower path (before upper upperKnown)
      (before lower lowerKnown)
    have parents := (follows.rooted.path_iff.mp heard).resolve_left lowerCancelled
    have upperInForest := upperKnown.resolve_right (follows.rooted.live_of_path parents)
    have apart {other : Nat} (member : other ∈ (state.forest.prune token).tokens) :
        other ≠ token := fun same =>
      Forest.not_mem_tokens_prune follows.rooted.distinct token (same ▸ member)
    exact Or.inr (Forest.path_prune parents follows.rooted.distinct (apart upperInForest)
      (apart inForest))

theorem Follows.drop (follows : state.Follows grown cut) (context : Context) :
    (state.drop context).Follows grown cut := by
  simp only [Cancellation.drop]
  induction context.links generalizing state with
  | nil => exact follows
  | cons link rest ih => exact ih (follows.letGo link.token)

/-- Cancelling a token reaches what descends from it, and nothing else. -/
theorem Follows.cancelToken (follows : state.Follows grown cut) (known : state.Knows token) :
    (state.cancelToken token).1.Follows grown fun other => cut other ∨ other = token := by
  by_cases cancelled : state.tokenCancelled token = true
  · have same : (state.cancelToken token).1 = state := by simp [Cancellation.cancelToken, cancelled]
    rw [same]
    refine { follows with sound := fun other member => ?_, cuts := ?_ }
    · rcases follows.sound other member with ⟨upper, path, before⟩
      exact ⟨upper, path, Or.inl before⟩
    · rintro other (before | rfl)
      · exact follows.cuts other before
      · exact tokenCancelled_iff.mp cancelled
  have extended := follows.rooted.cancelToken token
  rcases follows.rooted.cancelToken_felled (eq_false_of_ne_true cancelled) with
    ⟨told, same, own, heard, -⟩
  rw [same] at extended ⊢
  have inside := follows.lt_of_knows known
  have before : ∀ other, other ∈ (state.forest.strip token).tokens ∨
      other ∈ told ++ state.cancelled → state.Knows other := by
    rintro other (member | member)
    · exact Or.inl (Forest.tokens_strip_subset token _ member)
    · rcases List.mem_append.mp member with new | already
      · rcases heard other new with rfl | ⟨shoots, found, below⟩
        · exact known
        · exact Or.inl ((Forest.under?_some found).2.2 below)
      · exact Or.inr already
  refine ⟨extended.rooted, ?_, follows.made, ?_, ?_, ?_, ?_⟩
  · exact fun other member => follows.lt_of_knows (before other (Or.inr member))
  · exact fun upper lower parent => follows.parents upper lower parent.of_strip
  · intro other member
    rcases List.mem_append.mp member with new | already
    · refine ⟨token, ?_, Or.inr rfl⟩
      rcases heard other new with rfl | below
      · exact .refl
      · exact (TransGen.closed follows.parents _ _ below.path).to_reflTransGen
    · rcases follows.sound other already with ⟨upper, path, earlier⟩
      exact ⟨upper, path, Or.inl earlier⟩
  · rintro other (earlier | rfl)
    · exact List.mem_append_right _ (follows.cuts other earlier)
    · exact List.mem_append_left _ own
  · intro upper lower path upperKnown lowerKnown
    exact TransGen.mono extended.binds _ _
      (follows.hears upper lower path (before upper upperKnown) (before lower lowerKnown))

theorem Follows.cancel (follows : state.Follows grown cut) {context : Context}
    (known : state.Knows context.token) (cause : Option String) :
    (state.cancel context cause).1.Follows grown
      fun other => cut other ∨ other = context.token := by
  cases cause with
  | none => exact follows.cancelToken known
  | some cause =>
      simp only [Cancellation.cancel, recordCause]
      split
      · exact follows.cancelToken known
      · have recorded (causes : Array (Option String)) :
            { state with causes }.Follows grown cut :=
          follows.congr (follows.rooted.newRecord causes).rooted rfl rfl (Nat.le_refl _)
        exact (recorded _).cancelToken known

/-- A path to a token that was just grown goes through the token above it. Nothing was grown under
the new token yet, so that it can only be the last of the path. -/
theorem path_of_grown {size : Nat} {under : Option Nat}
    (path : TransGen (fun upper lower => grown upper lower ∨ (under = some upper ∧ lower = size))
      upper lower)
    (made : ∀ upper lower, grown upper lower → upper < size ∧ lower < size)
    (inside : ∀ upper, under = some upper → upper < size) :
    TransGen grown upper lower ∨
      (lower = size ∧ ∃ parent, under = some parent ∧ ReflTransGen grown upper parent) := by
  induction path with
  | single step =>
      rcases step with earlier | ⟨same, last⟩
      · exact Or.inl (.single earlier)
      · exact Or.inr ⟨last, upper, same, .refl⟩
  | @tail second last _ step ih =>
      have proper : TransGen grown upper second := by
        refine ih.resolve_right ?_
        rintro ⟨rfl, -⟩
        rcases step with earlier | ⟨same, -⟩
        · exact absurd (made _ _ earlier).1 (Nat.lt_irrefl _)
        · exact absurd (inside _ same) (Nat.lt_irrefl _)
      rcases step with earlier | ⟨same, isLast⟩
      · exact Or.inl (proper.tail earlier)
      · exact Or.inr ⟨isLast, second, same, proper.to_reflTransGen⟩

/-- A token that is grown under another one, or under none, hears of all that it descends from. -/
theorem Follows.grow (follows : state.Follows grown cut) (under : Option Nat)
    (extended : state.Extends next) (size : next.holders.size = state.holders.size + 1)
    (known : ∀ token, next.Knows token → state.Knows token ∨ token = state.holders.size)
    (parents : ∀ upper lower, next.forest.IsParent upper lower →
      state.forest.IsParent upper lower ∨ (under = some upper ∧ lower = state.holders.size))
    (cancelled : ∀ token ∈ next.cancelled, token ∈ state.cancelled ∨
      (token = state.holders.size ∧ ∃ upper, under = some upper ∧ upper ∈ state.cancelled))
    (kept : state.cancelled ⊆ next.cancelled)
    (bound : ∀ upper, under = some upper →
      state.Knows upper ∧ next.Binds upper state.holders.size) :
    next.Follows
      (fun upper lower => grown upper lower ∨ (under = some upper ∧ lower = state.holders.size))
      cut := by
  have inside (upper : Nat) (same : under = some upper) : upper < state.holders.size :=
    follows.lt_of_knows (bound upper same).1
  have older {upper lower : Nat} (path : ReflTransGen grown upper lower) :
      ReflTransGen (fun upper lower => grown upper lower ∨
        (under = some upper ∧ lower = state.holders.size)) upper lower :=
    ReflTransGen.mono (fun _ _ => Or.inl) _ _ path
  refine ⟨extended.rooted, ?_, ?_, ?_, ?_, ?_, ?_⟩
  · intro token member
    rcases cancelled token member with before | ⟨rfl, -⟩
    · have := follows.counted token before
      omega
    · omega
  · rintro upper lower (before | ⟨same, rfl⟩)
    · have := follows.made upper lower before
      omega
    · have := inside upper same
      omega
  · intro upper lower parent
    rcases parents upper lower parent with before | new
    · exact TransGen.mono (fun _ _ => Or.inl) _ _ (follows.parents upper lower before)
    · exact .single (Or.inr new)
  · intro token member
    rcases cancelled token member with before | ⟨rfl, upper, same, above⟩
    · rcases follows.sound token before with ⟨upper, path, cutUpper⟩
      exact ⟨upper, older path, cutUpper⟩
    · rcases follows.sound upper above with ⟨top, path, cutTop⟩
      exact ⟨top, (older path).tail (Or.inr ⟨same, rfl⟩), cutTop⟩
  · exact fun token cutToken => kept (follows.cuts token cutToken)
  · intro upper lower path upperKnown lowerKnown
    have before {token : Nat} (knows : next.Knows token) (older : token < state.holders.size) :
        state.Knows token := (known token knows).resolve_right (Nat.ne_of_lt older)
    have upperBefore : state.Knows upper := by
      apply before upperKnown
      rcases TransGen.head'_iff.mp path with ⟨second, earlier | ⟨same, -⟩, -⟩
      · exact (follows.made upper second earlier).1
      · exact inside upper same
    rcases path_of_grown path follows.made inside with proper | ⟨rfl, parent, same, toParent⟩
    · rcases TransGen.tail'_iff.mp proper with ⟨second, -, last⟩
      have heard := follows.hears upper lower proper upperBefore
        (before lowerKnown (follows.made second lower last).2)
      exact TransGen.mono extended.binds _ _ heard
    · rcases bound parent same with ⟨parentKnown, binds⟩
      rcases reflTransGen_iff_eq_or_transGen.mp toParent with rfl | proper
      · exact .single binds
      · have heard := follows.hears upper parent proper upperBefore parentKnown
        exact (TransGen.mono extended.binds _ _ heard).tail binds

theorem Follows.newToken (follows : state.Follows grown cut) :
    state.newToken.1.Follows grown cut := by
  refine (follows.grow none follows.rooted.newToken.1 ?_ ?_ ?_ ?_ ?_ ?_).of_iff ?_ ?_
  · simp [Cancellation.newToken]
  · rintro token (member | before)
    · refine (Forest.mem_tokens_of_append member).imp Or.inl fun new => ?_
      simpa [Forest.tokens] using new
    · exact Or.inl (Or.inr before)
  · intro upper lower parent
    refine Or.inl ((Forest.IsParent.of_append parent).resolve_right ?_)
    simp [Forest.IsParent]
  · exact fun token member => Or.inl member
  · exact List.Subset.refl _
  · intro upper impossible
    cases impossible
  · simp
  · exact fun _ => Iff.rfl

theorem Follows.newTokenUnder (follows : state.Follows grown cut) (known : state.Knows token) :
    (state.newTokenUnder token).1.Follows
      (fun upper lower => grown upper lower ∨ (upper = token ∧ lower = state.holders.size))
      cut := by
  rcases follows.rooted.newTokenUnder known with ⟨extended, -, binds⟩
  rcases state.newTokenUnder_cases token with ⟨size, cases⟩
  have grows := follows.grow (some token) extended size ?_ ?_ ?_ ?_ ?_
  · refine grows.of_iff (fun upper lower => ?_) fun _ => Iff.rfl
    simp only [Option.some.injEq, eq_comm]
  · intro other knows
    rcases cases with ⟨-, forest, cancelled⟩ | ⟨-, forest, cancelled⟩
    · simp only [Knows, forest, cancelled, List.mem_cons] at knows
      exact knows.elim (fun member => Or.inl (Or.inl member))
        fun member => member.elim Or.inr fun before => Or.inl (Or.inr before)
    · simp only [Knows, forest, cancelled] at knows
      exact knows.elim (fun member => (Forest.mem_tokens_of_attach member).imp_left Or.inl)
        fun before => Or.inl (Or.inr before)
  · intro upper lower parent
    rcases cases with ⟨-, forest, -⟩ | ⟨-, forest, -⟩
    · rw [forest] at parent
      exact Or.inl parent
    · rw [forest] at parent
      exact (Forest.IsParent.of_attach parent).imp_right fun new => ⟨by rw [new.1], new.2⟩
  · intro other member
    rcases cases with ⟨above, -, cancelled⟩ | ⟨-, -, cancelled⟩
    · rw [cancelled] at member
      refine (List.mem_cons.mp member).symm.imp_right fun same => ⟨same, token, rfl, ?_⟩
      exact tokenCancelled_iff.mp above
    · rw [cancelled] at member
      exact Or.inl member
  · rcases cases with ⟨-, -, cancelled⟩ | ⟨-, -, cancelled⟩
    · rw [cancelled]
      exact List.subset_cons_self _ _
    · rw [cancelled]
      exact List.Subset.refl _
  · rintro upper same
    cases same
    exact ⟨known, binds⟩

/-- A handle that is taken on a context only changes how many handles there are. -/
theorem clone_frame (state : Cancellation) (context : Context) :
    ∃ holders, state.clone context = { state with holders } ∧
      holders.size = state.holders.size := by
  simp only [clone]
  induction context.links generalizing state with
  | nil => exact ⟨state.holders, rfl, rfl⟩
  | cons link rest ih =>
      rcases ih (state.hold link.token) with ⟨holders, same, size⟩
      exact ⟨holders, same, size.trans (by simp [hold])⟩

theorem Follows.clone (follows : state.Follows grown cut) {context : Context}
    (rooted : (state.clone context).Rooted) : (state.clone context).Follows grown cut := by
  rcases state.clone_frame context with ⟨holders, same, size⟩
  refine follows.congr rooted ?_ ?_ ?_
  · rw [same]
  · rw [same]
  · rw [same]
    exact Nat.le_of_eq size.symm

/-- A context that is put around a token changes nothing for the tokens. -/
theorem Follows.around (follows : state.Follows grown cut) {above : List Link}
    (rooted : (state.around token above).1.Rooted) :
    (state.around token above).1.Follows grown cut := by
  have recorded : state.newRecord.1.Follows grown cut :=
    follows.congr (follows.rooted.newRecord _).rooted rfl rfl (Nat.le_refl _)
  exact recorded.clone rooted

end Cancellation

end Admission
