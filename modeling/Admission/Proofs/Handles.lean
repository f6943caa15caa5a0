import Admission.Proofs.Felling
import Admission.Proofs.Shelter

/-!
# Tokens that somebody holds

A token stays in the forest as long as somebody holds a handle on it and nobody has cancelled it.
What was grown under a token stands directly under it for as long as both are held, so that it hears
of every cancellation of the token.

Making contexts, holding them and cancelling them extends what is held; giving up a handle is the
only operation after which less is held than before.
-/

namespace Admission

namespace Context

/-- The tokens of which a handle on the context is a handle. -/
def tokens (context : Context) : List Nat :=
  context.links.map (·.token)

theorem token_of_links {context other : Context} (same : context.links = other.links) :
    context.token = other.token := by
  have first := congrArg (fun links => links.head?.map (·.token)) same
  simpa [links, token] using first

end Context

namespace Cancellation

/-- How many handles there are on a token. -/
def handles (state : Cancellation) (token : Nat) : Nat :=
  (state.holders[token]?).getD 0

/-- A token that can hear of others, or has no need to. -/
def Knows (state : Cancellation) (token : Nat) : Prop :=
  token ∈ state.forest.tokens ∨ token ∈ state.cancelled

/-- A context of which all tokens are held. -/
def Holds (state : Cancellation) (context : Context) : Prop :=
  ∀ token ∈ context.tokens, 0 < state.handles token

/-- A token that hears of every cancellation of another. -/
def Binds (state : Cancellation) (upper lower : Nat) : Prop :=
  lower ∈ state.cancelled ∨ state.forest.IsParent upper lower

/-- Every token that is held is in the forest or cancelled, and nothing stands under a cancelled
one. -/
structure Rooted (state : Cancellation) : Prop where
  distinct : state.forest.tokens.Nodup
  grown : ∀ token ∈ state.forest.tokens, token < state.holders.size
  quiet : state.forest.Quiet state.tokenCancelled
  rooted : ∀ token, 0 < state.handles token → state.Knows token

/-- The state after nothing was given up. -/
structure Extends (state next : Cancellation) : Prop where
  rooted : next.Rooted
  handles : ∀ token, state.handles token ≤ next.handles token
  binds : ∀ upper lower, state.Binds upper lower → next.Binds upper lower

section Facts

variable {state next last : Cancellation} {token upper lower : Nat} {context : Context}

theorem tokenCancelled_iff : state.tokenCancelled token = true ↔ token ∈ state.cancelled :=
  List.contains_iff_mem

theorem tokenCancelled_eq_false : state.tokenCancelled token = false ↔ token ∉ state.cancelled := by
  rw [← tokenCancelled_iff, Bool.not_eq_true]

/-- A context has a cause exactly if it is cancelled. -/
theorem cause_isSome (state : Cancellation) (context : Context) :
    (state.cause context).isSome = state.isCancelled context := by
  simp only [cause, Context.links, causeAlong, isCancelled, Context.token]
  split
  · rename_i cancelled
    rw [cancelled]
    split <;> rfl
  · rename_i live
    simpa using live

theorem lt_size_of_handles (held : 0 < state.handles token) : token < state.holders.size := by
  rcases Nat.lt_or_ge token state.holders.size with inside | outside
  · exact inside
  · rw [handles, Array.getElem?_eq_none outside] at held
    exact absurd held (Nat.lt_irrefl 0)

theorem Binds.cancelled (binds : state.Binds upper lower) (rooted : state.Rooted)
    (above : upper ∈ state.cancelled) : lower ∈ state.cancelled := by
  rcases binds with cancelled | parent
  · exact cancelled
  · exact absurd above (tokenCancelled_eq_false.mp (rooted.quiet upper lower parent))

theorem Extends.refl (rooted : state.Rooted) : state.Extends state where
  rooted := rooted
  handles := fun _ => Nat.le_refl _
  binds := fun _ _ binds => binds

theorem Extends.trans (first : state.Extends next) (second : next.Extends last) :
    state.Extends last where
  rooted := second.rooted
  handles := fun token => Nat.le_trans (first.handles token) (second.handles token)
  binds := fun upper lower binds => second.binds upper lower (first.binds upper lower binds)

theorem Extends.holds (extended : state.Extends next) (holds : state.Holds context) :
    next.Holds context :=
  fun token member => Nat.lt_of_lt_of_le (holds token member) (extended.handles token)

/-- The forest and what is cancelled stay the same, and nothing is held that was unknown. -/
theorem Rooted.extends_of_eq (rooted : state.Rooted) (forest : next.forest = state.forest)
    (cancelled : next.cancelled = state.cancelled)
    (size : state.holders.size ≤ next.holders.size)
    (handles : ∀ token, state.handles token ≤ next.handles token)
    (known : ∀ token, 0 < next.handles token → state.Knows token) : state.Extends next where
  rooted :=
    { distinct := by
        rw [forest]
        exact rooted.distinct
      grown := by
        rw [forest]
        exact fun token member => Nat.lt_of_lt_of_le (rooted.grown token member) size
      quiet := by
        rw [forest]
        simp only [Forest.Quiet, tokenCancelled, cancelled]
        exact rooted.quiet
      rooted := by
        simp only [Knows, forest, cancelled]
        exact known }
  handles
  binds := by
    simp only [Binds, forest, cancelled]
    exact fun _ _ binds => binds

end Facts

/-! ### Holding and letting go -/

section Holding

variable {state : Cancellation} {token other upper lower : Nat} {context : Context}

theorem handles_modify (change : Nat → Nat) (inside : token < state.holders.size) (other : Nat) :
    ({ state with holders := state.holders.modify token change } : Cancellation).handles other =
      if other = token then change (state.handles token) else state.handles other := by
  simp only [handles, Array.getElem?_modify]
  by_cases same : other = token
  · subst same
    simp [Array.getElem?_eq_getElem inside]
  · simp [Ne.symm same, same]

theorem handles_hold (inside : token < state.holders.size) (other : Nat) :
    (state.hold token).handles other = state.handles other + [token].count other := by
  rw [hold, handles_modify _ inside]
  by_cases same : other = token
  · subst same
    simp
  · simp [same, Ne.symm same]

theorem Rooted.hold (rooted : state.Rooted) (held : 0 < state.handles token ∨ state.Knows token)
    (inside : token < state.holders.size) : state.Extends (state.hold token) := by
  refine rooted.extends_of_eq rfl rfl (by simp [Cancellation.hold]) (fun other => ?_)
    fun other heldOther => ?_
  · rw [handles_hold inside]
    exact Nat.le_add_right _ _
  · by_cases same : other = token
    · subst same
      exact held.elim (rooted.rooted other) id
    · rw [handles_hold inside, List.count_singleton] at heldOther
      exact rooted.rooted other (by simpa [Ne.symm same] using heldOther)

theorem handles_letGo (token other : Nat) :
    (state.letGo token).handles other = state.handles other - [token].count other := by
  have holders : (state.letGo token).holders = state.holders.modify token (· - 1) := by
    simp only [letGo]
    split <;> rfl
  simp only [handles, holders, Array.getElem?_modify]
  by_cases same : token = other
  · subst same
    cases state.holders[token]? <;> simp
  · simp [same]

theorem letGo_forest_of_held (held : 0 < (state.letGo token).handles token) :
    (state.letGo token).forest = state.forest := by
  rw [handles_letGo, List.count_singleton_self] at held
  have several : ¬(state.holders[token]?).getD 0 - 1 = 0 := Nat.ne_of_gt held
  simp only [letGo, several, if_false]

/-- Whoever lets go of a token takes nothing else out of the forest. -/
theorem Rooted.letGo (rooted : state.Rooted) (token : Nat) : (state.letGo token).Rooted := by
  have quiet : (state.letGo token).forest.Quiet (state.letGo token).tokenCancelled := by
    simp only [Forest.Quiet, tokenCancelled, state.letGo_cancelled token]
    rcases state.letGo_forest token with forest | forest
    · rw [forest]
      exact rooted.quiet
    · rw [forest]
      intro upper lower parent
      rcases parent.of_prune with before | ⟨above, -⟩
      · exact rooted.quiet upper lower before
      · exact rooted.quiet upper token above
  refine ⟨?_, ?_, quiet, fun other held => ?_⟩
  · rcases state.letGo_forest token with forest | forest
    · rw [forest]
      exact rooted.distinct
    · rw [forest]
      exact Forest.nodup_prune rooted.distinct token
  · rw [state.letGo_holders token]
    rcases state.letGo_forest token with forest | forest
    · rw [forest]
      exact rooted.grown
    · rw [forest]
      exact fun other member =>
        rooted.grown other (Forest.tokens_prune_subset token _ member)
  · have before : 0 < state.handles other := by
      rw [handles_letGo] at held
      omega
    refine (rooted.rooted other before).imp (fun inside => ?_) fun cancelled => ?_
    · by_cases same : other = token
      · subst same
        rw [letGo_forest_of_held held]
        exact inside
      · rcases state.letGo_forest token with forest | forest
        · rw [forest]
          exact inside
        · rw [forest]
          exact Forest.mem_prune rooted.distinct inside same
    · rw [state.letGo_cancelled token]
      exact cancelled

theorem Binds.letGo (binds : state.Binds upper lower) (rooted : state.Rooted)
    (upperHeld : 0 < (state.letGo token).handles upper)
    (lowerHeld : 0 < (state.letGo token).handles lower) :
    (state.letGo token).Binds upper lower := by
  refine binds.imp (fun cancelled => ?_) fun parent => ?_
  · rw [state.letGo_cancelled token]
    exact cancelled
  · by_cases same : token = upper ∨ token = lower
    · have held : 0 < (state.letGo token).handles token := by
        rcases same with rfl | rfl
        · exact upperHeld
        · exact lowerHeld
      rw [letGo_forest_of_held held]
      exact parent
    · have apart := not_or.mp same
      rcases state.letGo_forest token with forest | forest
      · rw [forest]
        exact parent
      · rw [forest]
        exact parent.prune rooted.distinct (Ne.symm apart.1) (Ne.symm apart.2)

/-! ### Contexts -/

/-- A handle on a context is a handle on each of its tokens. -/
theorem clone_extends (rooted : state.Rooted) (context : Context)
    (known : ∀ token ∈ context.tokens, state.Knows token ∧ token < state.holders.size) :
    state.Extends (state.clone context) ∧ ∀ other,
      (state.clone context).handles other = state.handles other + context.tokens.count other := by
  simp only [clone, Context.tokens] at known ⊢
  generalize context.links = links at known ⊢
  induction links generalizing state with
  | nil => exact ⟨.refl rooted, fun other => rfl⟩
  | cons link rest ih =>
      rcases known link.token List.mem_cons_self with ⟨knows, inside⟩
      have first := rooted.hold (Or.inr knows) inside
      have still : ∀ token ∈ rest.map (·.token),
          (state.hold link.token).Knows token ∧ token < (state.hold link.token).holders.size := by
        intro token member
        have before := known token (List.mem_cons_of_mem _ member)
        exact ⟨before.1, by simpa [Cancellation.hold] using before.2⟩
      rcases ih first.rooted still with ⟨further, counted⟩
      refine ⟨first.trans further, fun other => ?_⟩
      rw [List.foldl_cons, counted, handles_hold inside, List.map_cons, List.count_singleton,
        List.count_cons]
      omega

theorem handles_drop (context : Context) (other : Nat) :
    (state.drop context).handles other = state.handles other - context.tokens.count other := by
  simp only [drop, Context.tokens]
  induction context.links generalizing state with
  | nil => rfl
  | cons link rest ih =>
      rw [List.foldl_cons, ih, handles_letGo, List.map_cons, List.count_singleton,
        List.count_cons]
      omega

theorem Rooted.drop (rooted : state.Rooted) (context : Context) : (state.drop context).Rooted := by
  simp only [Cancellation.drop]
  induction context.links generalizing state with
  | nil => exact rooted
  | cons link rest ih => exact ih (rooted.letGo link.token)

/-- A token stays bound to another when others are given up. -/
theorem Binds.drop (binds : state.Binds upper lower) (rooted : state.Rooted) (context : Context)
    (upperHeld : 0 < (state.drop context).handles upper)
    (lowerHeld : 0 < (state.drop context).handles lower) :
    (state.drop context).Binds upper lower := by
  have least (links : List Link) (state : Cancellation) (token : Nat) :
      (links.foldl (fun state link => state.letGo link.token) state).handles token ≤
        state.handles token := by
    induction links generalizing state with
    | nil => exact Nat.le_refl _
    | cons link rest ih =>
        refine Nat.le_trans (ih _) ?_
        rw [handles_letGo]
        exact Nat.sub_le _ _
  simp only [Cancellation.drop] at upperHeld lowerHeld ⊢
  generalize context.links = links at upperHeld lowerHeld ⊢
  induction links generalizing state with
  | nil => exact binds
  | cons link rest ih =>
      refine ih (binds.letGo rooted ?_ ?_) (rooted.letGo link.token) upperHeld lowerHeld
      · exact Nat.lt_of_lt_of_le upperHeld (least rest _ upper)
      · exact Nat.lt_of_lt_of_le lowerHeld (least rest _ lower)

end Holding

/-! ### Making and cancelling -/

section Making

variable {state : Cancellation} {token parent : Nat} {context : Context}

theorem handles_push (other : Nat) :
    ({ state with holders := state.holders.push 0 } : Cancellation).handles other =
      state.handles other := by
  simp only [handles, Array.getElem?_push]
  split
  · rename_i same
    simp [same]
  · rfl

theorem Rooted.newToken (rooted : state.Rooted) :
    state.Extends state.newToken.1 ∧ state.newToken.1.Knows state.holders.size := by
  have fresh : state.holders.size ∉ state.forest.tokens := fun member =>
    Nat.lt_irrefl _ (rooted.grown _ member)
  have tokens : state.newToken.1.forest.tokens = state.forest.tokens ++ [state.holders.size] :=
    Forest.tokens_append _ _
  have handles (other : Nat) : state.newToken.1.handles other = state.handles other :=
    handles_push other
  refine ⟨⟨⟨?_, ?_, ?_, ?_⟩, fun other => Nat.le_of_eq (handles other).symm, ?_⟩, Or.inl ?_⟩
  · rw [tokens, List.nodup_append]
    refine ⟨rooted.distinct, List.nodup_singleton _, ?_⟩
    rintro one before two new rfl
    rw [List.mem_singleton.mp new] at before
    exact fresh before
  · intro other member
    rw [tokens] at member
    simp only [Cancellation.newToken, Array.size_push]
    rcases List.mem_append.mp member with before | new
    · exact Nat.lt_succ_of_lt (rooted.grown other before)
    · rw [List.mem_singleton.mp new]
      exact Nat.lt_succ_self _
  · intro upper lower above
    rcases Forest.IsParent.of_append above with before | new
    · exact rooted.quiet upper lower before
    · simp [Forest.IsParent] at new
  · intro other held
    rw [handles] at held
    refine (rooted.rooted other held).imp_left fun inside => ?_
    rw [tokens]
    exact List.mem_append_left _ inside
  · exact fun upper lower => Or.imp_right fun above => above.append _
  · rw [tokens]
    exact List.mem_append_right _ List.mem_cons_self

/-- A token that is made under a known one is bound to it. -/
theorem Rooted.newTokenUnder (rooted : state.Rooted) (known : state.Knows parent) :
    state.Extends (state.newTokenUnder parent).1 ∧
      (state.newTokenUnder parent).1.Knows state.holders.size ∧
      (state.newTokenUnder parent).1.Binds parent state.holders.size := by
  have fresh : state.holders.size ∉ state.forest.tokens := fun member =>
    Nat.lt_irrefl _ (rooted.grown _ member)
  have handles (other : Nat) :
      (state.newTokenUnder parent).1.handles other = state.handles other := by
    simp only [Cancellation.newTokenUnder]
    split <;> exact handles_push other
  rcases state.newTokenUnder_cases parent with
    ⟨size, ⟨cancelled, forest, grown⟩ | ⟨live, forest, same⟩⟩
  · refine ⟨⟨⟨?_, ?_, ?_, ?_⟩, fun other => Nat.le_of_eq (handles other).symm, ?_⟩, ?_, ?_⟩
    · rw [forest]
      exact rooted.distinct
    · rw [forest, size]
      exact fun other member => Nat.lt_succ_of_lt (rooted.grown other member)
    · rw [forest]
      intro upper lower above
      have known := above.mem_tokens.1
      have before := tokenCancelled_eq_false.mp (rooted.quiet upper lower above)
      rw [tokenCancelled_eq_false, grown, List.mem_cons, not_or]
      exact ⟨fun new => fresh (new ▸ known), before⟩
    · intro other held
      rw [handles] at held
      simp only [Knows, forest, grown]
      exact (rooted.rooted other held).imp_right (List.mem_cons_of_mem _)
    · simp only [Binds, forest, grown]
      exact fun upper lower => Or.imp_left (List.mem_cons_of_mem _)
    · refine Or.inr ?_
      rw [grown]
      exact List.mem_cons_self
    · refine Or.inl ?_
      rw [grown]
      exact List.mem_cons_self
  · have present : parent ∈ state.forest.tokens :=
      known.resolve_right (tokenCancelled_eq_false.mp live)
    have bound : (state.newTokenUnder parent).1.forest.IsParent parent state.holders.size := by
      rw [forest]
      exact Forest.isParent_attach present _
    refine ⟨⟨⟨?_, ?_, ?_, ?_⟩, fun other => Nat.le_of_eq (handles other).symm, ?_⟩,
      Or.inl bound.mem_tokens.2, Or.inr bound⟩
    · rw [forest]
      exact Forest.nodup_attach rooted.distinct fresh parent
    · rw [forest, size]
      intro other member
      rcases Forest.mem_tokens_of_attach member with before | rfl
      · exact Nat.lt_succ_of_lt (rooted.grown other before)
      · exact Nat.lt_succ_self _
    · rw [forest]
      simp only [Forest.Quiet, tokenCancelled, same]
      intro upper lower above
      rcases Forest.IsParent.of_attach above with before | ⟨rfl, -⟩
      · exact rooted.quiet upper lower before
      · exact live
    · intro other held
      rw [handles] at held
      simp only [Knows, forest, same]
      exact (rooted.rooted other held).imp_left fun inside =>
        Forest.mem_tokens_attach inside _ _
    · simp only [Binds, forest, same]
      exact fun upper lower => Or.imp_right fun above => above.attach _ _

theorem Rooted.newRecord (rooted : state.Rooted) (causes : Array (Option String)) :
    state.Extends { state with causes } :=
  rooted.extends_of_eq rfl rfl (Nat.le_refl _) (fun _ => Nat.le_refl _) rooted.rooted

/-- Whoever is under a token that is cancelled hears of it, and nobody else. -/
theorem Rooted.cancelToken_felled (rooted : state.Rooted)
    (live : state.tokenCancelled token = false) :
    ∃ told, (state.cancelToken token).1 = { state with
        forest := state.forest.strip token
        cancelled := told ++ state.cancelled } ∧
      token ∈ told ∧
      (∀ other ∈ told, other = token ∨ state.forest.IsUnder token other) ∧
      ∀ other, state.forest.IsUnder token other → other ∈ told ++ state.cancelled := by
  simp only [Cancellation.cancelToken, live, Bool.false_eq_true, if_false]
  refine ⟨_, rfl, List.mem_append_right _ List.mem_cons_self, fun other member => ?_, ?_⟩
  · rcases List.mem_append.mp member with below | same
    · right
      rcases Forest.mem_tokens_of_felling below with ⟨entry, cut, inside⟩
      have among := Forest.tokens_trees.mpr ⟨entry, Forest.firstCut_subset _ _ cut, inside⟩
      cases found : state.forest.under? token with
      | none =>
          rw [found] at among
          cases among
      | some shoots =>
          rw [found] at among
          exact ⟨shoots, found, among⟩
    · exact Or.inl (List.mem_singleton.mp same)
  · rintro other ⟨shoots, found, inside⟩
    rw [found, Option.getD_some]
    rcases (rooted.quiet.under? found).felling_firstCut inside with before | heard
    · exact List.mem_append_right _ (tokenCancelled_iff.mp before)
    · exact List.mem_append_left _ (List.mem_append_left _ heard)

theorem Rooted.cancelToken (rooted : state.Rooted) (token : Nat) :
    state.Extends (state.cancelToken token).1 := by
  by_cases cancelled : state.tokenCancelled token = true
  · have same : (state.cancelToken token).1 = state := by simp [Cancellation.cancelToken, cancelled]
    rw [same]
    exact .refl rooted
  rcases rooted.cancelToken_felled (eq_false_of_ne_true cancelled) with
    ⟨told, same, -, heard, complete⟩
  rw [same]
  refine ⟨⟨?_, ?_, ?_, ?_⟩, fun _ => Nat.le_refl _, ?_⟩
  · exact rooted.distinct.sublist (Forest.strip_sublist token _)
  · exact fun other member => rooted.grown other (Forest.tokens_strip_subset token _ member)
  · intro upper lower above
    rw [tokenCancelled_eq_false, List.mem_append, not_or]
    refine ⟨fun toldUpper => ?_, tokenCancelled_eq_false.mp
      (rooted.quiet upper lower above.of_strip)⟩
    rcases heard upper toldUpper with rfl | below
    · exact Forest.not_isParent_strip rooted.distinct above
    · exact Forest.not_mem_tokens_strip rooted.distinct below above.mem_tokens.1
  · intro other held
    rcases rooted.rooted other held with inside | before
    · exact (Forest.mem_tokens_strip rooted.distinct inside token).imp_right (complete other)
    · exact Or.inr (List.mem_append_right _ before)
  · rintro upper lower (before | above)
    · exact Or.inl (List.mem_append_right _ before)
    · exact (above.strip rooted.distinct token).symm.imp_left (complete lower)

theorem Rooted.cancel (rooted : state.Rooted) (context : Context) (cause : Option String) :
    state.Extends (state.cancel context cause).1 := by
  cases cause with
  | none => exact rooted.cancelToken context.token
  | some cause =>
      have recorded : state.Extends (state.recordCause context cause) := by
        simp only [recordCause]
        split
        · exact .refl rooted
        · exact rooted.newRecord _
      exact recorded.trans (recorded.rooted.cancelToken context.token)

/-! ### Contexts that are made -/

/-- What a new context needs: a handle on each of its tokens. -/
structure Provides (state next : Cancellation) (context : Context) : Prop
    extends state.Extends next where
  provided : ∀ token, state.handles token + context.tokens.count token ≤ next.handles token

theorem Extends.around {first : Cancellation} (extended : first.Extends state) (token : Nat)
    (above : List Link)
    (known : ∀ other ∈ token :: above.map (·.token),
      state.Knows other ∧ other < state.holders.size) :
    first.Provides (state.around token above).1 (state.around token above).2 := by
  have recorded := extended.rooted.newRecord (state.causes.push none)
  have cloned := clone_extends recorded.rooted ⟨⟨token, state.causes.size⟩, above⟩ known
  refine ⟨extended.trans (recorded.trans cloned.1), fun other => ?_⟩
  have counted : (state.around token above).1.handles other =
      state.handles other + (state.around token above).2.tokens.count other := cloned.2 other
  have before := extended.handles other
  omega

theorem Rooted.known_of_handles (rooted : state.Rooted) (held : 0 < state.handles token) :
    state.Knows token ∧ token < state.holders.size :=
  ⟨rooted.rooted token held, lt_size_of_handles held⟩

theorem Rooted.clone (rooted : state.Rooted) (holds : state.Holds context) :
    state.Provides (state.clone context) context := by
  have cloned := clone_extends rooted context fun token member =>
    rooted.known_of_handles (holds token member)
  exact ⟨cloned.1, fun other => Nat.le_of_eq (cloned.2 other).symm⟩

theorem Rooted.create (rooted : state.Rooted) :
    state.Provides state.create.1 state.create.2 := by
  rcases rooted.newToken with ⟨extended, known⟩
  refine extended.around _ _ fun other member => ?_
  rw [List.mem_singleton.mp member]
  exact ⟨known, by simp [Cancellation.newToken]⟩

/-- A context that is derived from one that is held is bound to it. -/
theorem Rooted.child (rooted : state.Rooted) (holds : state.Holds context) :
    state.Provides (state.child context).1 (state.child context).2 ∧
      (state.child context).2.above = context.links ∧
      (state.child context).1.Binds context.token (state.child context).2.token := by
  have parent := rooted.known_of_handles (holds context.token List.mem_cons_self)
  rcases rooted.newTokenUnder parent.1 with ⟨extended, known, bound⟩
  have size := (state.newTokenUnder_cases context.token).1
  have made := state.newTokenUnder_token context.token
  have above : ∀ other ∈ (state.newTokenUnder context.token).2 :: context.links.map (·.token),
      (state.newTokenUnder context.token).1.Knows other ∧
        other < (state.newTokenUnder context.token).1.holders.size := by
    intro other member
    rw [made] at member
    rcases List.mem_cons.mp member with rfl | inside
    · exact ⟨known, by rw [size]; exact Nat.lt_succ_self _⟩
    · exact extended.rooted.known_of_handles (extended.holds holds other inside)
  have provides := extended.around _ _ above
  refine ⟨provides, rfl, ?_⟩
  have recorded := extended.rooted.newRecord
    ((state.newTokenUnder context.token).1.causes.push none)
  have cloned := recorded.trans (clone_extends recorded.rooted
    ⟨⟨(state.newTokenUnder context.token).2, (state.newTokenUnder context.token).1.causes.size⟩,
      context.links⟩ above).1
  refine cloned.binds _ _ ?_
  have same : (state.child context).2.token = state.holders.size := made
  rw [same]
  exact bound

theorem Rooted.wrap (rooted : state.Rooted) (holds : state.Holds context) :
    state.Provides (state.wrap context).1 (state.wrap context).2 := by
  refine (Extends.refl rooted).around _ _ fun other member => ?_
  rw [List.mem_singleton.mp member]
  exact rooted.known_of_handles (holds context.token List.mem_cons_self)

theorem Rooted.wrapChild (rooted : state.Rooted) (holds : state.Holds context) :
    state.Provides (state.wrapChild context).1 (state.wrapChild context).2 := by
  have parent := rooted.known_of_handles (holds context.token List.mem_cons_self)
  rcases rooted.newTokenUnder parent.1 with ⟨extended, known, -⟩
  refine extended.around (state.newTokenUnder context.token).2 [] fun other member => ?_
  rw [List.mem_singleton.mp member, state.newTokenUnder_token]
  exact ⟨known, by rw [(state.newTokenUnder_cases context.token).1]; exact Nat.lt_succ_self _⟩

end Making

end Cancellation

end Admission
