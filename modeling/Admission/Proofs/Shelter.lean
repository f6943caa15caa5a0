import Admission.Proofs.Lineage
import Admission.Proofs.Run

/-!
# Contexts that nobody else can cancel

The state of all contexts is only ever changed by a few operations on tokens. Here `Reaches` says
that one state comes out of another by such operations, none of which cancels a ward. What is proved
of the operations one by one then holds of everything that a system does.

A state shelters its wards if each of them, and each token of a lineage, stands directly under a
token of the lineage or under none. A ward that is sheltered is cancelled only if a token of the
lineage is.
-/

namespace Admission

namespace Cancellation

/-- What becomes of the contexts when nobody cancels a ward itself. -/
inductive Reaches (wards : Nat → Prop) (state : Cancellation) : Cancellation → Prop where
  | unchanged : Reaches wards state state
  | newToken {used : Cancellation} (before : Reaches wards state used) :
      Reaches wards state used.newToken.1
  | newTokenUnder {used : Cancellation} (before : Reaches wards state used) (parent : Nat) :
      Reaches wards state (used.newTokenUnder parent).1
  | causes {used : Cancellation} (before : Reaches wards state used)
      (causes : Array (Option String)) : Reaches wards state { used with causes }
  | hold {used : Cancellation} (before : Reaches wards state used) (token : Nat) :
      Reaches wards state (used.hold token)
  | letGo {used : Cancellation} (before : Reaches wards state used) (token : Nat) :
      Reaches wards state (used.letGo token)
  | cancelToken {used : Cancellation} (before : Reaches wards state used) {token : Nat}
      (made : token < used.holders.size) (apart : ¬wards token) :
      Reaches wards state (used.cancelToken token).1

namespace Reaches

variable {wards : Nat → Prop} {state used last : Cancellation}

theorem trans (before : Reaches wards state used) (after : Reaches wards used last) :
    Reaches wards state last := by
  induction after with
  | unchanged => exact before
  | newToken _ ih => exact ih.newToken
  | newTokenUnder _ parent ih => exact ih.newTokenUnder parent
  | causes _ causes ih => exact ih.causes causes
  | hold _ token ih => exact ih.hold token
  | letGo _ token ih => exact ih.letGo token
  | cancelToken _ made apart ih => exact ih.cancelToken made apart

theorem clone (before : Reaches wards state used) (context : Context) :
    Reaches wards state (used.clone context) := by
  simp only [Cancellation.clone]
  induction context.links generalizing used with
  | nil => exact before
  | cons link rest ih => exact ih (before.hold link.token)

theorem drop (before : Reaches wards state used) (context : Context) :
    Reaches wards state (used.drop context) := by
  simp only [Cancellation.drop]
  induction context.links generalizing used with
  | nil => exact before
  | cons link rest ih => exact ih (before.letGo link.token)

theorem around (before : Reaches wards state used) (token : Nat) (above : List Link) :
    Reaches wards state (used.around token above).1 :=
  (before.causes _).clone _

theorem create (before : Reaches wards state used) : Reaches wards state used.create.1 :=
  before.newToken.around _ _

theorem child (before : Reaches wards state used) (parent : Context) :
    Reaches wards state (used.child parent).1 :=
  (before.newTokenUnder parent.token).around _ _

theorem wrap (before : Reaches wards state used) (other : Context) :
    Reaches wards state (used.wrap other).1 :=
  before.around _ _

theorem wrapChild (before : Reaches wards state used) (other : Context) :
    Reaches wards state (used.wrapChild other).1 :=
  (before.newTokenUnder other.token).around _ _

theorem recordCause (before : Reaches wards state used) (context : Context) (cause : String) :
    Reaches wards state (used.recordCause context cause) := by
  simp only [Cancellation.recordCause]
  split
  · exact before
  · exact before.causes _

theorem cancel (before : Reaches wards state used) {context : Context} (cause : Option String)
    (made : context.token < used.holders.size) (apart : ¬wards context.token) :
    Reaches wards state (used.cancel context cause).1 := by
  cases cause with
  | none => exact before.cancelToken made apart
  | some cause =>
      refine (before.recordCause context cause).cancelToken ?_ apart
      simp only [Cancellation.recordCause]
      split
      · exact made
      · exact made

end Reaches

/-! ### What each operation does -/

section Operations

variable (state : Cancellation) (token : Nat)

theorem letGo_holders : (state.letGo token).holders.size = state.holders.size := by
  simp only [letGo]
  split <;> simp

theorem letGo_cancelled : (state.letGo token).cancelled = state.cancelled := by
  simp only [letGo]
  split <;> rfl

theorem letGo_forest :
    (state.letGo token).forest = state.forest ∨
      (state.letGo token).forest = state.forest.prune token := by
  simp only [letGo]
  split
  · exact Or.inr rfl
  · exact Or.inl rfl

theorem newTokenUnder_token : (state.newTokenUnder token).2 = state.holders.size := by
  simp only [newTokenUnder]
  split <;> rfl

theorem newTokenUnder_cases :
    (state.newTokenUnder token).1.holders.size = state.holders.size + 1 ∧
      ((state.tokenCancelled token = true ∧
          (state.newTokenUnder token).1.forest = state.forest ∧
          (state.newTokenUnder token).1.cancelled = state.holders.size :: state.cancelled) ∨
        (state.tokenCancelled token = false ∧
          (state.newTokenUnder token).1.forest =
            state.forest.attach token state.holders.size ∧
          (state.newTokenUnder token).1.cancelled = state.cancelled)) := by
  have same : ({ state with holders := state.holders.push 0 } : Cancellation).tokenCancelled token =
      state.tokenCancelled token := rfl
  simp only [newTokenUnder, same]
  by_cases cancelled : state.tokenCancelled token = true
  · simp [cancelled]
  · simp [cancelled]

theorem cancelToken_cases :
    (state.cancelToken token).1 = state ∨
      ∃ told, (state.cancelToken token).1 =
          { state with
            forest := state.forest.strip token
            cancelled := told ++ state.cancelled } ∧
        ∀ other ∈ told, other = token ∨
          (other ∈ state.forest.tokens ∧
            ∃ upper ∈ told, state.forest.IsParent upper other) := by
  by_cases cancelled : state.tokenCancelled token = true
  · exact Or.inl (by simp [cancelToken, cancelled])
  · right
    simp only [cancelToken, cancelled, Bool.false_eq_true, if_false]
    refine ⟨_, rfl, ?_⟩
    intro other member
    rcases List.mem_append.mp member with felled | same
    · right
      cases found : state.forest.under? token with
      | none =>
          rw [found, Option.getD_none] at felled
          simp [Forest.firstCut, Forest.trees, Forest.felling] at felled
      | some shoots =>
          rw [found, Option.getD_some] at felled member
          rcases Forest.under?_some found with ⟨heads, parents, tokens⟩
          have inside : shoots.firstCut state.tokenCancelled ⊆ shoots.trees :=
            Forest.firstCut_subset _ _
          refine ⟨?_, ?_⟩
          · rcases Forest.mem_tokens_of_felling felled with ⟨entry, cut, below⟩
            exact tokens (Forest.tokens_trees.mpr ⟨entry, inside cut, below⟩)
          · rw [Option.getD_some]
            rcases Forest.mem_felling felled with
              ⟨entry, cut, same⟩ | ⟨upper, heard, entry, cut, below⟩
            · refine ⟨token, List.mem_append_right _ List.mem_cons_self, heads other ?_⟩
              exact List.mem_map.mpr ⟨entry, inside cut, same⟩
            · refine ⟨upper, List.mem_append_left _ heard, parents upper other ?_⟩
              exact Forest.isParent_iff_trees.mpr ⟨entry, inside cut, below⟩
    · exact Or.inl (List.mem_singleton.mp same)

end Operations

/-! ### Wards -/

/-- Whether every token that is known was made. -/
structure Counted (state : Cancellation) : Prop where
  grown : ∀ token ∈ state.forest.tokens, token < state.holders.size
  cancelled : ∀ token ∈ state.cancelled, token < state.holders.size

/-- No ward is cancelled, and what stands directly above a ward or a token of the lineage belongs to
the lineage. -/
structure Shelters (lineage wards : Nat → Prop) (state : Cancellation) : Prop where
  counted : state.Counted
  made : ∀ token, lineage token ∨ wards token → token < state.holders.size
  live : ∀ token, wards token → token ∉ state.cancelled
  closed : ∀ upper lower, state.forest.IsParent upper lower → lineage lower ∨ wards lower →
    lineage upper

section Wards

variable {lineage wards : Nat → Prop} {state next : Cancellation}

theorem Shelters.of_eq (shelters : state.Shelters lineage wards)
    (forest : next.forest = state.forest) (holders : next.holders.size = state.holders.size)
    (cancelled : next.cancelled = state.cancelled) : next.Shelters lineage wards where
  counted := by
    refine ⟨?_, ?_⟩
    · rw [forest, holders]
      exact shelters.counted.grown
    · rw [cancelled, holders]
      exact shelters.counted.cancelled
  made := by
    rw [holders]
    exact shelters.made
  live := by
    rw [cancelled]
    exact shelters.live
  closed := by
    rw [forest]
    exact shelters.closed

/-- A new token does no harm, wherever it is grown. -/
theorem Shelters.of_grown (shelters : state.Shelters lineage wards)
    (holders : next.holders.size = state.holders.size + 1)
    (cancelled : ∀ token ∈ next.cancelled, token ∈ state.cancelled ∨ token = state.holders.size)
    (tokens : ∀ token ∈ next.forest.tokens,
      token ∈ state.forest.tokens ∨ token = state.holders.size)
    (parents : ∀ upper lower, next.forest.IsParent upper lower →
      state.forest.IsParent upper lower ∨ lower = state.holders.size) :
    next.Shelters lineage wards where
  counted := by
    refine ⟨?_, ?_⟩
    · intro token member
      rcases tokens token member with before | rfl
      · have := shelters.counted.grown token before
        omega
      · omega
    · intro token member
      rcases cancelled token member with before | rfl
      · have := shelters.counted.cancelled token before
        omega
      · omega
  made := by
    intro token known
    have := shelters.made token known
    omega
  live := by
    intro token ward member
    rcases cancelled token member with before | rfl
    · exact shelters.live token ward before
    · have := shelters.made _ (Or.inr ward)
      omega
  closed := by
    intro upper lower parent known
    rcases parents upper lower parent with before | rfl
    · exact shelters.closed upper lower before known
    · have := shelters.made _ known
      omega

theorem Shelters.newToken (shelters : state.Shelters lineage wards) :
    state.newToken.1.Shelters lineage wards := by
  refine shelters.of_grown (by simp [Cancellation.newToken])
    (fun token member => Or.inl member) ?_ ?_
  · intro token member
    rcases Forest.mem_tokens_of_append member with before | new
    · exact Or.inl before
    · right
      simpa [Forest.tokens] using new
  · intro upper lower parent
    rcases Forest.IsParent.of_append parent with before | new
    · exact Or.inl before
    · simp [Forest.IsParent] at new

theorem Shelters.newTokenUnder (shelters : state.Shelters lineage wards) (parent : Nat) :
    (state.newTokenUnder parent).1.Shelters lineage wards := by
  rcases state.newTokenUnder_cases parent with ⟨holders, ⟨-, forest, cancelled⟩ |
    ⟨-, forest, cancelled⟩⟩
  · apply shelters.of_grown holders
    · rw [cancelled]
      exact fun token member => (List.mem_cons.mp member).symm
    · rw [forest]
      exact fun token member => Or.inl member
    · rw [forest]
      exact fun upper lower before => Or.inl before
  · apply shelters.of_grown holders
    · rw [cancelled]
      exact fun token member => Or.inl member
    · rw [forest]
      exact fun token member => Forest.mem_tokens_of_attach member
    · rw [forest]
      intro upper lower attached
      exact (Forest.IsParent.of_attach attached).imp_right And.right

theorem Shelters.letGo (shelters : state.Shelters lineage wards) (token : Nat) :
    (state.letGo token).Shelters lineage wards := by
  rcases state.letGo_forest token with forest | forest
  · exact shelters.of_eq forest (state.letGo_holders token) (state.letGo_cancelled token)
  · refine ⟨⟨?_, ?_⟩, ?_, ?_, ?_⟩
    · rw [forest, state.letGo_holders token]
      exact fun other member =>
        shelters.counted.grown other (Forest.tokens_prune_subset token _ member)
    · rw [state.letGo_cancelled token, state.letGo_holders token]
      exact shelters.counted.cancelled
    · rw [state.letGo_holders token]
      exact shelters.made
    · rw [state.letGo_cancelled token]
      exact shelters.live
    · rw [forest]
      intro upper lower parent known
      rcases parent.of_prune with before | ⟨above, below⟩
      · exact shelters.closed upper lower before known
      · exact shelters.closed upper token above (Or.inl (shelters.closed token lower below known))

/-- As long as no token of the lineage is cancelled, no ward is, unless it is cancelled itself. -/
theorem Shelters.cancelToken (shelters : state.Shelters lineage wards) {token : Nat}
    (made : token < state.holders.size) (apart : ¬wards token)
    (spared : ∀ other, lineage other → other ∉ (state.cancelToken token).1.cancelled) :
    (state.cancelToken token).1.Shelters lineage wards := by
  rcases state.cancelToken_cases token with same | ⟨told, same, heard⟩
  · rw [same]
    exact shelters
  · rw [same] at spared ⊢
    refine ⟨⟨?_, ?_⟩, shelters.made, ?_, ?_⟩
    · exact fun other member =>
        shelters.counted.grown other (Forest.tokens_strip_subset token _ member)
    · intro other member
      rcases List.mem_append.mp member with new | before
      · rcases heard other new with rfl | ⟨known, -⟩
        · exact made
        · exact shelters.counted.grown other known
      · exact shelters.counted.cancelled other before
    · intro other ward member
      rcases List.mem_append.mp member with new | before
      · rcases heard other new with rfl | ⟨-, upper, upperTold, parent⟩
        · exact apart ward
        · exact spared upper (shelters.closed upper other parent (Or.inr ward))
            (List.mem_append_left _ upperTold)
      · exact shelters.live other ward before
    · exact fun upper lower parent known => shelters.closed upper lower parent.of_strip known

theorem Shelters.clone (shelters : state.Shelters lineage wards) (context : Context) :
    (state.clone context).Shelters lineage wards := by
  simp only [Cancellation.clone]
  induction context.links generalizing state with
  | nil => exact shelters
  | cons link rest ih =>
      exact ih (shelters.of_eq rfl (by simp [Cancellation.hold]) rfl)

theorem Shelters.around (shelters : state.Shelters lineage wards) (token : Nat)
    (above : List Link) : (state.around token above).1.Shelters lineage wards := by
  have recorded : (state.newRecord.1).Shelters lineage wards := shelters.of_eq rfl rfl rfl
  exact recorded.clone _

/-- What is cancelled stays cancelled. -/
theorem Reaches.cancelled_subset (reaches : Reaches wards state next) :
    state.cancelled ⊆ next.cancelled := by
  induction reaches with
  | unchanged => exact List.Subset.refl _
  | newToken _ ih => exact ih
  | @newTokenUnder used _ parent ih =>
      rcases used.newTokenUnder_cases parent with ⟨-, ⟨-, -, cancelled⟩ | ⟨-, -, cancelled⟩⟩
      · rw [cancelled]
        exact List.subset_cons_of_subset _ ih
      · rw [cancelled]
        exact ih
  | causes _ causes ih => exact ih
  | hold _ token ih => exact ih
  | @letGo used _ token ih =>
      rw [used.letGo_cancelled token]
      exact ih
  | @cancelToken used _ token made apart ih =>
      rcases used.cancelToken_cases token with same | ⟨told, same, -⟩
      · rw [same]
        exact ih
      · rw [same]
        exact List.subset_append_of_subset_right _ ih

/-- Wards stay sheltered as long as the lineage is spared. -/
theorem Reaches.shelters (reaches : Reaches wards state next)
    (initially : state.Shelters lineage wards)
    (spared : ∀ token, lineage token → token ∉ next.cancelled) : next.Shelters lineage wards := by
  induction reaches with
  | unchanged => exact initially
  | newToken _ ih => exact (ih spared).newToken
  | @newTokenUnder used before parent ih =>
      refine (ih fun token known member => ?_).newTokenUnder parent
      exact spared token known
        ((Reaches.newTokenUnder .unchanged parent : Reaches wards used _).cancelled_subset member)
  | causes _ causes ih => exact (ih spared).of_eq rfl rfl rfl
  | hold _ token ih => exact (ih spared).of_eq rfl (by simp [Cancellation.hold]) rfl
  | @letGo used _ token ih =>
      rw [used.letGo_cancelled token] at spared
      exact (ih spared).letGo token
  | @cancelToken used _ token made apart ih =>
      refine (ih fun other known member => ?_).cancelToken made apart spared
      exact spared other known
        ((Reaches.cancelToken .unchanged made apart : Reaches wards used _).cancelled_subset member)

/-- A token that is grown directly under one of the lineage is sheltered. -/
theorem Shelters.adopt (shelters : state.Shelters lineage (fun _ => False)) {parent : Context}
    (known : lineage parent.token) (spared : parent.token ∉ state.cancelled) :
    (state.child parent).1.Shelters lineage (fun token => token = state.holders.size) ∧
      (state.child parent).2.token = state.holders.size := by
  have live : state.tokenCancelled parent.token = false := by
    simpa [tokenCancelled] using spared
  refine ⟨?_, state.newTokenUnder_token parent.token⟩
  have grown : (state.newTokenUnder parent.token).1.Shelters lineage
      (fun token => token = state.holders.size) := by
    have before := shelters.newTokenUnder parent.token
    rcases state.newTokenUnder_cases parent.token with ⟨holders, ⟨cancelled, -⟩ |
      ⟨-, forest, cancelled⟩⟩
    · rw [live] at cancelled
      cases cancelled
    · refine ⟨before.counted, ?_, ?_, ?_⟩
      · rintro token (inside | rfl)
        · exact before.made token (Or.inl inside)
        · omega
      · rintro token rfl member
        rw [cancelled] at member
        have := shelters.counted.cancelled _ member
        omega
      · rw [forest]
        rintro upper lower attached (inside | rfl)
        · rcases Forest.IsParent.of_attach attached with earlier | ⟨rfl, rfl⟩
          · exact shelters.closed upper lower earlier (Or.inl inside)
          · exact known
        · rcases Forest.IsParent.of_attach attached with earlier | ⟨rfl, -⟩
          · have := shelters.counted.grown _ earlier.mem_tokens.2
            omega
          · exact known
  exact grown.around _ _

/-- The tokens above a token, and the token itself, are a lineage. -/
theorem Shelters.above (shelters : state.Shelters (fun _ => False) (fun _ => False)) {token : Nat}
    (made : token < state.holders.size) :
    state.Shelters
      (fun upper => Relation.ReflTransGen (fun upper lower => state.forest.IsParent upper lower)
        upper token)
      (fun _ => False) where
  counted := shelters.counted
  made := by
    rintro upper (above | impossible)
    · rcases Relation.ReflTransGen.cases_head above with rfl | ⟨lower, parent, -⟩
      · exact made
      · exact shelters.counted.grown upper parent.mem_tokens.1
    · exact impossible.elim
  live := fun _ impossible => impossible.elim
  closed := by
    rintro upper lower parent (above | impossible)
    · exact Relation.ReflTransGen.head parent above
    · exact impossible.elim

end Wards

end Cancellation

end Admission
