import Admission.Cancellation.Context
import Mathlib.Logic.Relation

/-!
# Who hears of a cancellation

A token hears of the cancellation of another one only through the token that it was grown under.
The operations that rearrange the forest keep this up: pruning a token puts what grew under it one
step closer to the root, and nothing ever comes between a token and the one that it was grown under.

A set of tokens that has, with each token, the one above it is a lineage. As long as no token of the
lineage is cancelled, nothing that grew directly under it is cancelled either, unless somebody
cancels that token itself.
-/

namespace Admission

namespace Forest

/-- The tokens of the first level. -/
def heads (forest : Forest) : List Nat :=
  forest.trees.map (·.1)

/-- Whether a token stands directly above another. -/
def IsParent (upper lower : Nat) : Forest → Prop
  | bare => False
  | tree token shoots siblings =>
      (token = upper ∧ lower ∈ shoots.heads) ∨ IsParent upper lower shoots ∨
        IsParent upper lower siblings

@[simp]
theorem heads_bare : bare.heads = [] := rfl

@[simp]
theorem heads_tree (token : Nat) (shoots siblings : Forest) :
    (tree token shoots siblings).heads = token :: siblings.heads := rfl

theorem heads_subset_tokens (forest : Forest) : forest.heads ⊆ forest.tokens := by
  induction forest with
  | bare => exact List.Subset.refl _
  | tree token shoots siblings _ ih =>
      intro other member
      rcases List.mem_cons.mp member with rfl | later
      · exact List.mem_cons_self
      · exact List.mem_cons_of_mem _ (List.mem_append_right _ (ih later))

section Parents

variable {upper lower : Nat} {forest : Forest}

theorem IsParent.mem_tokens (parent : forest.IsParent upper lower) :
    upper ∈ forest.tokens ∧ lower ∈ forest.tokens := by
  induction forest with
  | bare => exact parent.elim
  | tree token shoots siblings shootsCase siblingsCase =>
      rcases parent with ⟨rfl, head⟩ | inner | beside
      · refine ⟨List.mem_cons_self, List.mem_cons_of_mem _ (List.mem_append_left _ ?_)⟩
        exact heads_subset_tokens shoots head
      · rcases shootsCase inner with ⟨first, second⟩
        exact ⟨List.mem_cons_of_mem _ (List.mem_append_left _ first),
          List.mem_cons_of_mem _ (List.mem_append_left _ second)⟩
      · rcases siblingsCase beside with ⟨first, second⟩
        exact ⟨List.mem_cons_of_mem _ (List.mem_append_right _ first),
          List.mem_cons_of_mem _ (List.mem_append_right _ second)⟩

/-- The parents of a forest, tree by tree. -/
theorem isParent_iff_trees :
    forest.IsParent upper lower ↔ ∃ entry ∈ forest.trees,
      (entry.1 = upper ∧ lower ∈ entry.2.heads) ∨ entry.2.IsParent upper lower := by
  induction forest with
  | bare => simp [IsParent, trees]
  | tree token shoots siblings _ ih => simp [IsParent, trees, ih, or_assoc]

theorem trees_ofTrees (entries : List (Nat × Forest)) : (ofTrees entries).trees = entries := by
  induction entries with
  | nil => rfl
  | cons entry rest ih =>
      rcases entry with ⟨token, shoots⟩
      simp [ofTrees, trees, ih]

theorem tokens_trees {token : Nat} :
    token ∈ forest.tokens ↔
      ∃ entry ∈ forest.trees, entry.1 = token ∨ token ∈ entry.2.tokens := by
  induction forest with
  | bare => simp [tokens, trees]
  | tree own shoots siblings _ ih =>
      simp only [tokens, trees, List.mem_cons, List.mem_append, ih, exists_eq_or_imp, or_assoc]
      rw [eq_comm (a := token)]

/-! ### Growing -/

theorem trees_append (forest after : Forest) :
    (forest.append after).trees = forest.trees ++ after.trees := by
  induction forest with
  | bare => rfl
  | tree token shoots siblings _ ih => simp [append, trees, ih]

theorem heads_append (forest after : Forest) :
    (forest.append after).heads = forest.heads ++ after.heads := by
  simp [heads, trees_append]

theorem IsParent.of_append {after : Forest} (parent : (forest.append after).IsParent upper lower) :
    forest.IsParent upper lower ∨ after.IsParent upper lower := by
  rw [isParent_iff_trees, trees_append] at parent
  rcases parent with ⟨entry, member, below⟩
  rcases List.mem_append.mp member with first | second
  · exact Or.inl (isParent_iff_trees.mpr ⟨entry, first, below⟩)
  · exact Or.inr (isParent_iff_trees.mpr ⟨entry, second, below⟩)

theorem mem_tokens_of_append {after : Forest} {token : Nat}
    (member : token ∈ (forest.append after).tokens) :
    token ∈ forest.tokens ∨ token ∈ after.tokens := by
  rw [tokens_trees, trees_append] at member
  rcases member with ⟨entry, inside, below⟩
  rcases List.mem_append.mp inside with first | second
  · exact Or.inl (tokens_trees.mpr ⟨entry, first, below⟩)
  · exact Or.inr (tokens_trees.mpr ⟨entry, second, below⟩)

theorem heads_attach (parent child : Nat) (forest : Forest) :
    (forest.attach parent child).heads = forest.heads := by
  induction forest with
  | bare => rfl
  | tree token shoots siblings _ ih =>
      simp only [attach]
      split <;> simp [ih]

/-- A token is attached under one token only. -/
theorem IsParent.of_attach {parent child : Nat}
    (attached : (forest.attach parent child).IsParent upper lower) :
    forest.IsParent upper lower ∨ (upper = parent ∧ lower = child) := by
  induction forest with
  | bare => exact attached.elim
  | tree token shoots siblings shootsCase siblingsCase =>
      simp only [attach] at attached
      split at attached
      · rename_i same
        rcases attached with ⟨rfl, head⟩ | inner | beside
        · rw [heads_append] at head
          rcases List.mem_append.mp head with before | new
          · exact Or.inl (Or.inl ⟨rfl, before⟩)
          · exact Or.inr ⟨same, List.mem_singleton.mp new⟩
        · rcases inner.of_append with before | new
          · exact Or.inl (Or.inr (Or.inl before))
          · simp [IsParent] at new
        · exact Or.inl (Or.inr (Or.inr beside))
      · rcases attached with ⟨rfl, head⟩ | inner | beside
        · rw [heads_attach] at head
          exact Or.inl (Or.inl ⟨rfl, head⟩)
        · rcases shootsCase inner with before | new
          · exact Or.inl (Or.inr (Or.inl before))
          · exact Or.inr new
        · rcases siblingsCase beside with before | new
          · exact Or.inl (Or.inr (Or.inr before))
          · exact Or.inr new

theorem mem_tokens_of_attach {parent child token : Nat}
    (member : token ∈ (forest.attach parent child).tokens) :
    token ∈ forest.tokens ∨ token = child := by
  induction forest with
  | bare => cases member
  | tree own shoots siblings shootsCase siblingsCase =>
      simp only [attach] at member
      split at member
      · simp only [tokens, List.mem_cons, List.mem_append] at member ⊢
        rcases member with same | inner | beside
        · exact Or.inl (Or.inl same)
        · rcases mem_tokens_of_append inner with before | new
          · exact Or.inl (Or.inr (Or.inl before))
          · right
            simpa [tokens] using new
        · exact Or.inl (Or.inr (Or.inr beside))
      · simp only [tokens, List.mem_cons, List.mem_append] at member ⊢
        rcases member with same | inner | beside
        · exact Or.inl (Or.inl same)
        · rcases shootsCase inner with before | new
          · exact Or.inl (Or.inr (Or.inl before))
          · exact Or.inr new
        · rcases siblingsCase beside with before | new
          · exact Or.inl (Or.inr (Or.inr before))
          · exact Or.inr new

/-! ### Stripping -/

theorem heads_strip (wanted : Nat) (forest : Forest) :
    (forest.strip wanted).heads = forest.heads := by
  induction forest with
  | bare => rfl
  | tree token shoots siblings _ ih =>
      simp only [strip]
      split <;> simp [ih]

theorem IsParent.of_strip {wanted : Nat} (parent : (forest.strip wanted).IsParent upper lower) :
    forest.IsParent upper lower := by
  induction forest with
  | bare => exact parent.elim
  | tree token shoots siblings shootsCase siblingsCase =>
      simp only [strip] at parent
      split at parent
      · rcases parent with ⟨-, head⟩ | inner | beside
        · cases head
        · exact inner.elim
        · exact Or.inr (Or.inr beside)
      · rcases parent with ⟨rfl, head⟩ | inner | beside
        · rw [heads_strip] at head
          exact Or.inl ⟨rfl, head⟩
        · exact Or.inr (Or.inl (shootsCase inner))
        · exact Or.inr (Or.inr (siblingsCase beside))

theorem tokens_strip_subset (wanted : Nat) (forest : Forest) :
    (forest.strip wanted).tokens ⊆ forest.tokens := by
  induction forest with
  | bare => exact List.Subset.refl _
  | tree token shoots siblings shootsCase siblingsCase =>
      intro other member
      simp only [strip] at member
      split at member
      · simp only [tokens, List.nil_append, List.mem_cons, List.mem_append] at member ⊢
        exact member.imp_right Or.inr
      · simp only [tokens, List.mem_cons, List.mem_append] at member ⊢
        exact member.imp_right (Or.imp (fun inner => shootsCase inner)
          (fun beside => siblingsCase beside))

/-! ### Pruning -/

theorem fillGap_subset (wanted : Nat) (entries : List (Nat × Forest)) :
    fillGap wanted entries ⊆ entries := by
  intro entry member
  simp only [fillGap] at member
  split at member
  · cases member
  · rename_i last isLast
    split at member
    · exact List.dropLast_subset _ member
    · rcases List.mem_map.mp member with ⟨other, inside, same⟩
      split at same
      · rw [← same]
        exact List.mem_of_getLast? isLast
      · rw [← same]
        exact List.dropLast_subset _ inside

/-- What a level looks like from which a token was taken out. -/
theorem release?_some {wanted : Nat} {released : Forest}
    (releases : forest.release? wanted = some released) :
    ∃ shoots, (wanted, shoots) ∈ forest.trees ∧ released.trees ⊆ forest.trees ++ shoots.trees := by
  simp only [release?, Option.map_eq_some_iff] at releases
  rcases releases with ⟨shoots, found, rfl⟩
  rcases List.lookup_eq_some_iff.mp found with ⟨before, after, split, -⟩
  refine ⟨shoots, by simp [split], ?_⟩
  rw [trees_ofTrees]
  exact fillGap_subset wanted _

theorem IsParent.of_release? {wanted : Nat} {released : Forest}
    (releases : forest.release? wanted = some released)
    (parent : released.IsParent upper lower) : forest.IsParent upper lower := by
  rcases release?_some releases with ⟨shoots, found, subset⟩
  rcases isParent_iff_trees.mp parent with ⟨entry, member, below⟩
  rcases List.mem_append.mp (subset member) with here | moved
  · exact isParent_iff_trees.mpr ⟨entry, here, below⟩
  · have inner : shoots.IsParent upper lower := isParent_iff_trees.mpr ⟨entry, moved, below⟩
    exact isParent_iff_trees.mpr ⟨(wanted, shoots), found, Or.inr inner⟩

/-- The tokens that come up to a level stood directly under the token that was taken out. -/
theorem mem_heads_of_release? {wanted token : Nat} {released : Forest}
    (releases : forest.release? wanted = some released) (head : token ∈ released.heads) :
    token ∈ forest.heads ∨ (wanted ∈ forest.heads ∧ forest.IsParent wanted token) := by
  rcases release?_some releases with ⟨shoots, found, subset⟩
  rcases List.mem_map.mp head with ⟨entry, member, rfl⟩
  rcases List.mem_append.mp (subset member) with here | moved
  · exact Or.inl (List.mem_map_of_mem here)
  · refine Or.inr ⟨List.mem_map.mpr ⟨(wanted, shoots), found, rfl⟩, ?_⟩
    exact isParent_iff_trees.mpr
      ⟨(wanted, shoots), found, Or.inl ⟨rfl, List.mem_map_of_mem moved⟩⟩

theorem tokens_release?_subset {wanted : Nat} {released : Forest}
    (releases : forest.release? wanted = some released) : released.tokens ⊆ forest.tokens := by
  intro token member
  rcases release?_some releases with ⟨shoots, found, subset⟩
  rcases tokens_trees.mp member with ⟨entry, inside, below⟩
  rcases List.mem_append.mp (subset inside) with here | moved
  · exact tokens_trees.mpr ⟨entry, here, below⟩
  · have inner : token ∈ shoots.tokens := tokens_trees.mpr ⟨entry, moved, below⟩
    exact tokens_trees.mpr ⟨(wanted, shoots), found, Or.inr inner⟩

theorem heads_pruneBelow (wanted : Nat) (forest : Forest) :
    (forest.pruneBelow wanted).heads = forest.heads := by
  induction forest with
  | bare => rfl
  | tree token shoots siblings _ ih => simp [pruneBelow, ih]

theorem IsParent.of_pruneBelow {wanted : Nat}
    (parent : (forest.pruneBelow wanted).IsParent upper lower) :
    forest.IsParent upper lower ∨
      (forest.IsParent upper wanted ∧ forest.IsParent wanted lower) := by
  induction forest with
  | bare => exact parent.elim
  | tree token shoots siblings shootsCase siblingsCase =>
      have under (inner : shoots.IsParent upper lower ∨
          (shoots.IsParent upper wanted ∧ shoots.IsParent wanted lower)) :
          (tree token shoots siblings).IsParent upper lower ∨
            ((tree token shoots siblings).IsParent upper wanted ∧
              (tree token shoots siblings).IsParent wanted lower) :=
        inner.imp (fun one => Or.inr (Or.inl one))
          (fun two => ⟨Or.inr (Or.inl two.1), Or.inr (Or.inl two.2)⟩)
      rcases parent with ⟨rfl, head⟩ | inner | beside
      · cases releases : shoots.release? wanted with
        | none =>
            rw [releases, Option.getD_none, heads_pruneBelow] at head
            exact Or.inl (Or.inl ⟨rfl, head⟩)
        | some released =>
            rw [releases, Option.getD_some] at head
            rcases mem_heads_of_release? releases head with here | ⟨found, moved⟩
            · exact Or.inl (Or.inl ⟨rfl, here⟩)
            · exact Or.inr ⟨Or.inl ⟨rfl, found⟩, Or.inr (Or.inl moved)⟩
      · cases releases : shoots.release? wanted with
        | none =>
            rw [releases, Option.getD_none] at inner
            exact under (shootsCase inner)
        | some released =>
            rw [releases, Option.getD_some] at inner
            exact under (Or.inl (inner.of_release? releases))
      · exact (siblingsCase beside).imp (fun one => Or.inr (Or.inr one))
          (fun two => ⟨Or.inr (Or.inr two.1), Or.inr (Or.inr two.2)⟩)

/-- What stood directly under a token that is taken out comes to stand under the one above it. -/
theorem IsParent.of_prune {wanted : Nat} (parent : (forest.prune wanted).IsParent upper lower) :
    forest.IsParent upper lower ∨
      (forest.IsParent upper wanted ∧ forest.IsParent wanted lower) := by
  simp only [prune] at parent
  cases releases : forest.release? wanted with
  | none =>
      rw [releases, Option.getD_none] at parent
      exact parent.of_pruneBelow
  | some released =>
      rw [releases, Option.getD_some] at parent
      exact Or.inl (parent.of_release? releases)

theorem tokens_pruneBelow_subset (wanted : Nat) (forest : Forest) :
    (forest.pruneBelow wanted).tokens ⊆ forest.tokens := by
  induction forest with
  | bare => exact List.Subset.refl _
  | tree token shoots siblings shootsCase siblingsCase =>
      intro other member
      simp only [pruneBelow, tokens, List.mem_cons, List.mem_append] at member ⊢
      refine member.imp_right (Or.imp (fun inner => ?_) (fun beside => siblingsCase beside))
      cases releases : shoots.release? wanted with
      | none =>
          rw [releases, Option.getD_none] at inner
          exact shootsCase inner
      | some released =>
          rw [releases, Option.getD_some] at inner
          exact tokens_release?_subset releases inner

theorem tokens_prune_subset (wanted : Nat) (forest : Forest) :
    (forest.prune wanted).tokens ⊆ forest.tokens := by
  simp only [prune]
  cases releases : forest.release? wanted with
  | none => exact tokens_pruneBelow_subset wanted forest
  | some released => exact tokens_release?_subset releases

/-! ### Cutting -/

theorem under?_some {wanted : Nat} {shoots : Forest}
    (found : forest.under? wanted = some shoots) :
    (∀ token ∈ shoots.heads, forest.IsParent wanted token) ∧
      (∀ upper lower, shoots.IsParent upper lower → forest.IsParent upper lower) ∧
      shoots.tokens ⊆ forest.tokens := by
  induction forest with
  | bare => cases found
  | tree token own siblings ownCase siblingsCase =>
      simp only [under?] at found
      split at found
      · rename_i same
        cases found
        refine ⟨fun other head => Or.inl ⟨same, head⟩,
          fun upper lower inner => Or.inr (Or.inl inner), ?_⟩
        exact fun other member => List.mem_cons_of_mem _ (List.mem_append_left _ member)
      · rcases Option.or_eq_some_iff.mp found with inner | ⟨-, beside⟩
        · rcases ownCase inner with ⟨first, second, third⟩
          refine ⟨fun other head => Or.inr (Or.inl (first other head)),
            fun upper lower parent => Or.inr (Or.inl (second upper lower parent)), ?_⟩
          exact fun other member => List.mem_cons_of_mem _ (List.mem_append_left _ (third member))
        · rcases siblingsCase beside with ⟨first, second, third⟩
          refine ⟨fun other head => Or.inr (Or.inr (first other head)),
            fun upper lower parent => Or.inr (Or.inr (second upper lower parent)), ?_⟩
          exact fun other member => List.mem_cons_of_mem _ (List.mem_append_right _ (third member))

theorem firstCut_subset (isCancelled : Nat → Bool) (level : Forest) :
    level.firstCut isCancelled ⊆ level.trees := by
  intro entry member
  simp only [firstCut, List.mem_append, Option.mem_toList] at member
  rcases member with last | other
  · exact (List.mem_filter.mp (List.mem_of_getLast? last)).1
  · exact (List.mem_filter.mp (List.dropLast_subset _ other)).1

/-- A token hears of a cut at the level of the cut, or through the token directly above it. -/
theorem mem_felling {isCancelled : Nat → Bool} {work : List (Nat × Forest)} {token : Nat}
    (hears : token ∈ felling isCancelled work) :
    (∃ entry ∈ work, entry.1 = token) ∨
      ∃ upper ∈ felling isCancelled work, ∃ entry ∈ work,
        (entry.1 = upper ∧ token ∈ entry.2.heads) ∨ entry.2.IsParent upper token := by
  induction work using felling.induct isCancelled with
  | case1 =>
      simp only [felling] at hears
      cases hears
  | case2 first shoots rest cancelled ih =>
      simp only [felling, cancelled, if_true] at hears ⊢
      rcases ih hears with ⟨entry, member, same⟩ | ⟨upper, heard, entry, member, below⟩
      · exact Or.inl ⟨entry, List.mem_cons_of_mem _ member, same⟩
      · exact Or.inr ⟨upper, heard, entry, List.mem_cons_of_mem _ member, below⟩
  | case3 first shoots rest live ih =>
      simp only [felling, live, Bool.false_eq_true, if_false] at hears ⊢
      rcases List.mem_cons.mp hears with rfl | later
      · exact Or.inl ⟨(token, shoots), List.mem_cons_self, rfl⟩
      · rcases ih later with ⟨entry, member, same⟩ | ⟨upper, heard, entry, member, below⟩
        · rcases List.mem_append.mp member with beside | inner
          · exact Or.inl ⟨entry, List.mem_cons_of_mem _ beside, same⟩
          · refine Or.inr ⟨first, List.mem_cons_self, (first, shoots), List.mem_cons_self,
              Or.inl ⟨rfl, ?_⟩⟩
            exact List.mem_map.mpr ⟨entry, List.mem_reverse.mp inner, same⟩
        · have told := List.mem_cons_of_mem first heard
          rcases List.mem_append.mp member with beside | inner
          · exact Or.inr ⟨upper, told, entry, List.mem_cons_of_mem _ beside, below⟩
          · refine Or.inr ⟨upper, told, (first, shoots), List.mem_cons_self, Or.inr ?_⟩
            exact isParent_iff_trees.mpr ⟨entry, List.mem_reverse.mp inner, below⟩

theorem mem_tokens_of_felling {isCancelled : Nat → Bool} {work : List (Nat × Forest)} {token : Nat}
    (hears : token ∈ felling isCancelled work) :
    ∃ entry ∈ work, entry.1 = token ∨ token ∈ entry.2.tokens := by
  rcases mem_felling hears with ⟨entry, member, same⟩ | ⟨upper, -, entry, member, below⟩
  · exact ⟨entry, member, Or.inl same⟩
  · rcases below with ⟨-, head⟩ | parent
    · exact ⟨entry, member, Or.inr (heads_subset_tokens entry.2 head)⟩
    · exact ⟨entry, member, Or.inr parent.mem_tokens.2⟩

end Parents

end Forest

end Admission
