import Admission.Proofs.Lineage
import Mathlib.Data.List.Nodup

/-!
# What stays in the forest

In a forest that has every token once, the operations that rearrange it lose nothing that they
should keep. A token that is pruned takes nothing else with it, and whatever stood directly under
another token stays there unless one of the two is pruned or something above is stripped.

When a tree is cut, every live token in it hears of it, provided that no token with others under it
was cancelled before.
-/

namespace Admission

namespace Forest

variable {upper lower token wanted : Nat} {forest : Forest}

theorem heads_sublist_tokens (forest : Forest) : forest.heads.Sublist forest.tokens := by
  induction forest with
  | bare => exact List.Sublist.refl _
  | tree token shoots siblings _ ih =>
      exact (ih.trans (List.sublist_append_right _ _)).cons_cons token

theorem tokens_eq_flatMap (forest : Forest) :
    forest.tokens = forest.trees.flatMap fun entry => entry.1 :: entry.2.tokens := by
  induction forest with
  | bare => rfl
  | tree token shoots siblings _ ih => simp [tokens, trees, ih]

/-- What a forest with every token once has in each of its parts. -/
theorem nodup_tree {own siblings : Forest} :
    (tree token own siblings).tokens.Nodup ↔
      (token ∉ own.tokens ∧ token ∉ siblings.tokens) ∧ own.tokens.Nodup ∧ siblings.tokens.Nodup ∧
        ∀ other ∈ own.tokens, other ∉ siblings.tokens := by
  simp only [tokens, List.nodup_cons, List.mem_append, not_or, List.nodup_append]
  refine and_congr_right fun _ => and_congr_right fun _ => and_congr_right fun _ => ?_
  exact ⟨fun apart other inside beside => apart other inside other beside rfl,
    fun apart one inside two beside same => apart one inside (same ▸ beside)⟩

/-! ### Growing -/

theorem tokens_append (forest after : Forest) :
    (forest.append after).tokens = forest.tokens ++ after.tokens := by
  rw [tokens_eq_flatMap, trees_append, List.flatMap_append, ← tokens_eq_flatMap,
    ← tokens_eq_flatMap]

theorem IsParent.append (parent : forest.IsParent upper lower) (after : Forest) :
    (forest.append after).IsParent upper lower := by
  rcases isParent_iff_trees.mp parent with ⟨entry, member, below⟩
  rw [isParent_iff_trees, trees_append]
  exact ⟨entry, List.mem_append_left _ member, below⟩

theorem attach_of_not_mem (absent : wanted ∉ forest.tokens) (child : Nat) :
    forest.attach wanted child = forest := by
  induction forest with
  | bare => rfl
  | tree token own siblings ownCase siblingsCase =>
      simp only [tokens, List.mem_cons, List.mem_append, not_or] at absent
      rw [attach, if_neg (Ne.symm absent.1), ownCase absent.2.1, siblingsCase absent.2.2]

/-- A token stands where it was attached, and everything else where it was. -/
theorem IsParent.attach (parent : forest.IsParent upper lower) (wanted child : Nat) :
    (forest.attach wanted child).IsParent upper lower := by
  induction forest with
  | bare => exact parent.elim
  | tree token own siblings ownCase siblingsCase =>
      simp only [Forest.attach]
      split
      · rcases parent with ⟨rfl, head⟩ | inner | beside
        · refine Or.inl ⟨rfl, ?_⟩
          rw [heads_append]
          exact List.mem_append_left _ head
        · exact Or.inr (Or.inl (inner.append _))
        · exact Or.inr (Or.inr beside)
      · rcases parent with ⟨rfl, head⟩ | inner | beside
        · refine Or.inl ⟨rfl, ?_⟩
          rw [heads_attach]
          exact head
        · exact Or.inr (Or.inl (ownCase inner))
        · exact Or.inr (Or.inr (siblingsCase beside))

theorem isParent_attach (present : wanted ∈ forest.tokens) (child : Nat) :
    (forest.attach wanted child).IsParent wanted child := by
  induction forest with
  | bare => cases present
  | tree token own siblings ownCase siblingsCase =>
      simp only [attach]
      split
      · rename_i same
        refine Or.inl ⟨same, ?_⟩
        rw [heads_append]
        exact List.mem_append_right _ List.mem_cons_self
      · rename_i apart
        rcases List.mem_cons.mp present with same | below
        · exact absurd same.symm apart
        · rcases List.mem_append.mp below with inner | beside
          · exact Or.inr (Or.inl (ownCase inner))
          · exact Or.inr (Or.inr (siblingsCase beside))

theorem mem_tokens_attach (member : token ∈ forest.tokens) (wanted child : Nat) :
    token ∈ (forest.attach wanted child).tokens := by
  induction forest with
  | bare => cases member
  | tree own shoots siblings shootsCase siblingsCase =>
      simp only [attach]
      split
      · simp only [tokens, tokens_append, List.mem_cons, List.mem_append] at member ⊢
        exact member.imp_right (Or.imp_left Or.inl)
      · simp only [tokens, List.mem_cons, List.mem_append] at member ⊢
        exact member.imp_right (Or.imp shootsCase siblingsCase)

theorem nodup_attach (distinct : forest.tokens.Nodup) {child : Nat}
    (fresh : child ∉ forest.tokens) (wanted : Nat) :
    (forest.attach wanted child).tokens.Nodup := by
  induction forest with
  | bare => exact distinct
  | tree token own siblings ownCase siblingsCase =>
      rcases nodup_tree.mp distinct with ⟨⟨notInner, notBeside⟩, ownNodup, siblingsNodup, apart⟩
      simp only [tokens, List.mem_cons, List.mem_append, not_or] at fresh
      rcases fresh with ⟨notOwn, freshInner, freshBeside⟩
      simp only [attach]
      split
      · refine nodup_tree.mpr ⟨⟨?_, notBeside⟩, ?_, siblingsNodup, ?_⟩
        · simpa [tokens_append, tokens, notInner] using Ne.symm notOwn
        · rw [tokens_append, List.nodup_append]
          refine ⟨ownNodup, List.nodup_singleton child, ?_⟩
          rintro one inner two new rfl
          rw [List.mem_singleton.mp new] at inner
          exact freshInner inner
        · intro other inner
          rw [tokens_append] at inner
          rcases List.mem_append.mp inner with before | new
          · exact apart other before
          · rw [List.mem_singleton.mp new]
            exact freshBeside
      · have added {part : Forest} {other : Nat} (absent : other ∉ part.tokens)
            (notChild : other ≠ child) : other ∉ (part.attach wanted child).tokens := fun inside =>
          (mem_tokens_of_attach inside).elim absent notChild
        refine nodup_tree.mpr ⟨⟨added notInner (Ne.symm notOwn), added notBeside (Ne.symm notOwn)⟩,
          ownCase ownNodup freshInner, siblingsCase siblingsNodup freshBeside, ?_⟩
        -- The token is attached in one of the two parts only.
        by_cases inside : wanted ∈ own.tokens
        · rw [attach_of_not_mem (apart wanted inside)]
          intro other inner
          rcases mem_tokens_of_attach inner with before | rfl
          · exact apart other before
          · exact freshBeside
        · rw [attach_of_not_mem inside]
          intro other inner
          exact added (apart other inner) fun same => freshInner (same ▸ inner)

/-! ### Stripping -/

theorem under?_of_not_mem (absent : wanted ∉ forest.tokens) : forest.under? wanted = none := by
  induction forest with
  | bare => rfl
  | tree token own siblings ownCase siblingsCase =>
      simp only [tokens, List.mem_cons, List.mem_append, not_or] at absent
      rw [under?, if_neg (Ne.symm absent.1), ownCase absent.2.1, siblingsCase absent.2.2]
      rfl

theorem mem_tokens_of_under? {shoots : Forest} (found : forest.under? wanted = some shoots) :
    wanted ∈ forest.tokens := by
  by_cases present : wanted ∈ forest.tokens
  · exact present
  · rw [under?_of_not_mem present] at found
    cases found

theorem strip_sublist (wanted : Nat) (forest : Forest) :
    (forest.strip wanted).tokens.Sublist forest.tokens := by
  induction forest with
  | bare => exact List.Sublist.refl _
  | tree token own siblings ownCase siblingsCase =>
      simp only [strip]
      split
      · exact (List.sublist_append_right own.tokens siblings.tokens).cons_cons token
      · exact (ownCase.append siblingsCase).cons_cons token

/-- Whatever is forgotten stood under the token that is stripped. -/
def IsUnder (forest : Forest) (wanted token : Nat) : Prop :=
  ∃ shoots, forest.under? wanted = some shoots ∧ token ∈ shoots.tokens

theorem IsUnder.of_own {own siblings : Forest} (apart : token ≠ wanted) {other : Nat}
    (below : own.IsUnder wanted other) : (tree token own siblings).IsUnder wanted other := by
  rcases below with ⟨shoots, found, inside⟩
  exact ⟨shoots, by rw [under?, if_neg apart, found]; rfl, inside⟩

theorem IsUnder.of_siblings {own siblings : Forest}
    (distinct : (tree token own siblings).tokens.Nodup) {other : Nat}
    (below : siblings.IsUnder wanted other) : (tree token own siblings).IsUnder wanted other := by
  rcases below with ⟨shoots, found, inside⟩
  rcases nodup_tree.mp distinct with ⟨⟨-, notBeside⟩, -, -, apart⟩
  have beside := mem_tokens_of_under? found
  have notOwn : token ≠ wanted := fun same => notBeside (same ▸ beside)
  have notInner : wanted ∉ own.tokens := fun inner => apart wanted inner beside
  exact ⟨shoots, by rw [under?, if_neg notOwn, under?_of_not_mem notInner, found]; rfl, inside⟩

theorem mem_tokens_strip (distinct : forest.tokens.Nodup) (member : token ∈ forest.tokens)
    (wanted : Nat) : token ∈ (forest.strip wanted).tokens ∨ forest.IsUnder wanted token := by
  induction forest with
  | bare => cases member
  | tree own shoots siblings shootsCase siblingsCase =>
      rcases nodup_tree.mp distinct with ⟨-, shootsNodup, siblingsNodup, -⟩
      by_cases same : own = wanted
      · rw [strip, if_pos same]
        rcases List.mem_cons.mp member with rfl | below
        · exact Or.inl List.mem_cons_self
        · rcases List.mem_append.mp below with inner | beside
          · exact Or.inr ⟨shoots, by rw [under?, if_pos same], inner⟩
          · exact Or.inl (List.mem_cons_of_mem _ beside)
      · rw [strip, if_neg same]
        rcases List.mem_cons.mp member with rfl | below
        · exact Or.inl List.mem_cons_self
        · rcases List.mem_append.mp below with inner | beside
          · refine (shootsCase shootsNodup inner).imp (fun kept => ?_) (IsUnder.of_own same)
            exact List.mem_cons_of_mem _ (List.mem_append_left _ kept)
          · refine (siblingsCase siblingsNodup beside).imp (fun kept => ?_)
              (IsUnder.of_siblings distinct)
            exact List.mem_cons_of_mem _ (List.mem_append_right _ kept)

/-- What stands directly under a token stays there, unless something above is stripped. -/
theorem IsParent.strip (parent : forest.IsParent upper lower) (distinct : forest.tokens.Nodup)
    (wanted : Nat) :
    (forest.strip wanted).IsParent upper lower ∨ forest.IsUnder wanted lower := by
  induction forest with
  | bare => exact parent.elim
  | tree token own siblings ownCase siblingsCase =>
      rcases nodup_tree.mp distinct with ⟨-, ownNodup, siblingsNodup, -⟩
      by_cases same : token = wanted
      · have below (inside : lower ∈ own.tokens) :
            (tree token own siblings).IsUnder wanted lower :=
          ⟨own, by rw [under?, if_pos same], inside⟩
        rw [Forest.strip, if_pos same]
        rcases parent with ⟨-, head⟩ | inner | beside
        · exact Or.inr (below (heads_subset_tokens own head))
        · exact Or.inr (below inner.mem_tokens.2)
        · exact Or.inl (Or.inr (Or.inr beside))
      · rw [Forest.strip, if_neg same]
        rcases parent with ⟨rfl, head⟩ | inner | beside
        · refine Or.inl (Or.inl ⟨rfl, ?_⟩)
          rw [heads_strip]
          exact head
        · exact (ownCase inner ownNodup).imp (fun kept => Or.inr (Or.inl kept))
            (IsUnder.of_own same)
        · exact (siblingsCase beside siblingsNodup).imp (fun kept => Or.inr (Or.inr kept))
            (IsUnder.of_siblings distinct)

/-- What stood under the token that is stripped is gone. -/
theorem not_mem_tokens_strip (distinct : forest.tokens.Nodup)
    (below : forest.IsUnder wanted token) : token ∉ (forest.strip wanted).tokens := by
  induction forest with
  | bare =>
      rcases below with ⟨shoots, found, -⟩
      cases found
  | tree own shoots siblings shootsCase siblingsCase =>
      rcases nodup_tree.mp distinct with ⟨⟨notInner, notBeside⟩, shootsNodup, siblingsNodup, apart⟩
      rcases below with ⟨cut, found, inside⟩
      by_cases same : own = wanted
      · rw [under?, if_pos same, Option.some.injEq] at found
        subst found
        rw [strip, if_pos same]
        simp only [tokens, List.nil_append, List.mem_cons, not_or]
        exact ⟨fun equal => notInner (equal ▸ inside), apart token inside⟩
      · rw [under?, if_neg same] at found
        rw [strip, if_neg same]
        simp only [tokens, List.mem_cons, List.mem_append, not_or]
        rcases Option.or_eq_some_iff.mp found with inner | ⟨absent, beside⟩
        · have insideShoots := (under?_some inner).2.2 inside
          refine ⟨fun equal => notInner (equal ▸ insideShoots),
            shootsCase shootsNodup ⟨cut, inner, inside⟩, fun kept => ?_⟩
          exact apart token insideShoots (tokens_strip_subset wanted siblings kept)
        · have insideSiblings := (under?_some beside).2.2 inside
          refine ⟨fun equal => notBeside (equal ▸ insideSiblings), fun kept => ?_,
            siblingsCase siblingsNodup ⟨cut, beside, inside⟩⟩
          exact apart token (tokens_strip_subset wanted shoots kept) insideSiblings

theorem not_isParent_strip (distinct : forest.tokens.Nodup) :
    ¬(forest.strip wanted).IsParent wanted lower := by
  induction forest with
  | bare => exact id
  | tree token own siblings ownCase siblingsCase =>
      rcases nodup_tree.mp distinct with ⟨⟨notInner, notBeside⟩, ownNodup, siblingsNodup, -⟩
      by_cases same : token = wanted
      · rw [strip, if_pos same]
        rintro (⟨-, head⟩ | inner | beside)
        · cases head
        · exact inner
        · exact notBeside (same ▸ beside.mem_tokens.1)
      · rw [strip, if_neg same]
        rintro (⟨equal, -⟩ | inner | beside)
        · exact same equal
        · exact ownCase ownNodup inner
        · exact siblingsCase siblingsNodup beside

/-! ### Pruning -/

theorem filter_of_not_mem {entries : List (Nat × Forest)} (absent : wanted ∉ entries.map (·.1)) :
    (entries.filter fun entry => entry.1 != wanted) = entries := by
  refine List.filter_eq_self.mpr fun entry member => ?_
  have different : entry.1 ≠ wanted := fun same => absent (same ▸ List.mem_map_of_mem member)
  simpa using different

/-- The last tree moves into the gap, and all others stay where they are. -/
theorem fillGap_perm {entries : List (Nat × Forest)} (distinct : (entries.map (·.1)).Nodup)
    (present : wanted ∈ entries.map (·.1)) :
    (fillGap wanted entries).Perm (entries.filter fun entry => entry.1 != wanted) := by
  rcases List.eq_nil_or_concat entries with rfl | ⟨others, last, rfl⟩
  · cases present
  simp only [List.concat_eq_append, List.map_append, List.map_cons, List.map_nil]
    at distinct present
  rcases List.nodup_append.mp distinct with ⟨othersNodup, -, apart⟩
  have lastApart : ∀ entry ∈ others, entry.1 ≠ last.1 := fun entry member =>
    apart entry.1 (List.mem_map_of_mem member) last.1 (List.mem_singleton_self _)
  rw [List.concat_eq_append, fillGap, List.getLast?_concat, List.dropLast_concat]
  by_cases same : last.1 = wanted
  · have absent : wanted ∉ others.map (·.1) := fun member => by
      rcases List.mem_map.mp member with ⟨entry, inside, equal⟩
      exact lastApart entry inside (equal.trans same.symm)
    simp [same, filter_of_not_mem absent]
  · rcases List.mem_append.mp present with inside | atLast
    · rcases List.mem_map.mp inside with ⟨entry, member, rfl⟩
      rcases List.append_of_mem member with ⟨before, after, rfl⟩
      simp only [List.map_append, List.map_cons] at othersNodup
      have notBefore : entry.1 ∉ before.map (·.1) := fun earlier =>
        (List.nodup_append.mp othersNodup).2.2 entry.1 earlier entry.1 List.mem_cons_self rfl
      have notAfter : entry.1 ∉ after.map (·.1) :=
        (List.nodup_cons.mp (List.nodup_append.mp othersNodup).2.1).1
      have filled (rest : List (Nat × Forest)) (absent : entry.1 ∉ rest.map (·.1)) :
          (rest.map fun other => if other.1 = entry.1 then last else other) = rest := by
        refine (List.map_congr_left fun other member => if_neg fun equal => ?_).trans
          (List.map_id' rest)
        exact absent (equal ▸ List.mem_map_of_mem member)
      simp only [same, if_false, List.map_append, List.map_cons, if_true, filled before notBefore,
        filled after notAfter, List.filter_append, filter_of_not_mem notBefore, List.append_assoc]
      rw [List.filter_cons_of_neg (by simp), List.filter_cons_of_pos (by simpa using same),
        List.filter_nil, filter_of_not_mem notAfter]
      exact (List.perm_append_singleton last after).symm.append_left before
    · exact absurd (List.mem_singleton.mp atLast).symm same

/-- All tokens of some trees. -/
def tokensOf (entries : List (Nat × Forest)) : List Nat :=
  entries.flatMap fun entry => entry.1 :: entry.2.tokens

theorem map_sublist_tokensOf (entries : List (Nat × Forest)) :
    (entries.map (·.1)).Sublist (tokensOf entries) := by
  induction entries with
  | nil => exact List.Sublist.refl _
  | cons entry rest ih =>
      exact (ih.trans (List.sublist_append_right entry.2.tokens _)).cons_cons entry.1

theorem tokensOf_append (entries more : List (Nat × Forest)) :
    tokensOf (entries ++ more) = tokensOf entries ++ tokensOf more :=
  List.flatMap_append

/-- A level from which a token is taken out has its other trees, and the shoots of the token. -/
theorem release?_perm {released : Forest} (distinct : forest.tokens.Nodup)
    (releases : forest.release? wanted = some released) :
    ∃ before shoots after, forest.trees = before ++ (wanted, shoots) :: after ∧
      released.trees.Perm (before ++ after ++ shoots.trees) := by
  simp only [release?, Option.map_eq_some_iff] at releases
  rcases releases with ⟨shoots, found, rfl⟩
  rcases List.lookup_eq_some_iff.mp found with ⟨before, after, split, -⟩
  refine ⟨before, shoots, after, split, ?_⟩
  have firsts : ((before ++ (wanted, shoots) :: (shoots.trees ++ after)).map (·.1)).Nodup := by
    rw [tokens_eq_flatMap, split] at distinct
    refine List.Nodup.sublist ?_ distinct
    have inner : ((shoots.trees ++ after).map (·.1)).Sublist (shoots.tokens ++ tokensOf after) := by
      rw [List.map_append]
      exact (heads_sublist_tokens shoots).append (map_sublist_tokensOf after)
    have outer := (map_sublist_tokensOf before).append (inner.cons_cons wanted)
    simpa [tokensOf, List.flatMap_append, List.flatMap_cons] using outer
  have rearranged : (forest.trees ++ shoots.trees).Perm
      (before ++ (wanted, shoots) :: (shoots.trees ++ after)) := by
    rw [split, List.append_assoc, List.cons_append]
    exact ((List.perm_append_comm).cons _).append_left before
  have heads := (rearranged.map (·.1)).nodup_iff.mpr firsts
  rw [trees_ofTrees]
  refine (fillGap_perm heads (by simp [split])).trans ((rearranged.filter _).trans ?_)
  rw [List.map_append, List.map_cons, List.nodup_append, List.nodup_cons] at firsts
  rcases firsts with ⟨-, ⟨notBehind, -⟩, apart⟩
  have notBefore : wanted ∉ before.map (·.1) := fun earlier =>
    apart wanted earlier wanted List.mem_cons_self rfl
  rw [List.filter_append, filter_of_not_mem notBefore, List.filter_cons_of_neg (by simp),
    filter_of_not_mem notBehind, List.append_assoc]
  exact List.perm_append_comm.append_left before

section Released

variable {released : Forest} (distinct : forest.tokens.Nodup)
  (releases : forest.release? wanted = some released)

include distinct releases

/-- Only the token that is taken out is missing. -/
theorem tokens_release?_perm : forest.tokens.Perm (wanted :: released.tokens) := by
  rcases release?_perm distinct releases with ⟨before, shoots, after, split, perm⟩
  have all : released.tokens.Perm (tokensOf before ++ tokensOf after ++ shoots.tokens) := by
    rw [tokens_eq_flatMap released, tokens_eq_flatMap shoots]
    refine (perm.flatMap_right _).trans ?_
    simp [tokensOf, List.flatMap_append]
  rw [tokens_eq_flatMap, split]
  refine List.Perm.trans ?_ (all.symm.cons wanted)
  have shown : (before ++ (wanted, shoots) :: after).flatMap
      (fun entry => entry.1 :: entry.2.tokens) =
        tokensOf before ++ wanted :: (shoots.tokens ++ tokensOf after) := by
    simp [tokensOf, List.flatMap_append]
  rw [shown, List.append_assoc]
  refine List.perm_middle.trans (List.Perm.cons wanted ?_)
  exact List.perm_append_comm.append_left _

theorem nodup_release? : released.tokens.Nodup :=
  ((tokens_release?_perm distinct releases).nodup_iff.mp distinct).of_cons

theorem mem_release? (member : token ∈ forest.tokens) (apart : token ≠ wanted) :
    token ∈ released.tokens :=
  (List.mem_cons.mp ((tokens_release?_perm distinct releases).mem_iff.mp member)).resolve_left apart

theorem mem_heads_release? (head : token ∈ forest.heads) (apart : token ≠ wanted) :
    token ∈ released.heads := by
  rcases release?_perm distinct releases with ⟨before, shoots, after, split, perm⟩
  rcases List.mem_map.mp head with ⟨entry, member, rfl⟩
  refine List.mem_map.mpr ⟨entry, perm.mem_iff.mpr ?_, rfl⟩
  rw [split, List.mem_append, List.mem_cons] at member
  rcases member with earlier | rfl | later
  · exact List.mem_append_left _ (List.mem_append_left _ earlier)
  · exact absurd rfl apart
  · exact List.mem_append_left _ (List.mem_append_right _ later)

theorem IsParent.release? (parent : forest.IsParent upper lower) (apart : upper ≠ wanted) :
    released.IsParent upper lower := by
  rcases release?_perm distinct releases with ⟨before, shoots, after, split, perm⟩
  rcases isParent_iff_trees.mp parent with ⟨entry, member, below⟩
  rw [split, List.mem_append, List.mem_cons] at member
  rw [isParent_iff_trees]
  rcases member with earlier | rfl | later
  · exact ⟨entry, perm.mem_iff.mpr
      (List.mem_append_left _ (List.mem_append_left _ earlier)), below⟩
  · rcases below with ⟨same, -⟩ | inner
    · exact absurd same.symm apart
    · rcases isParent_iff_trees.mp inner with ⟨moved, inside, further⟩
      exact ⟨moved, perm.mem_iff.mpr (List.mem_append_right _ inside), further⟩
  · exact ⟨entry, perm.mem_iff.mpr
      (List.mem_append_left _ (List.mem_append_right _ later)), below⟩

end Released

theorem nodup_pruneBelow (distinct : forest.tokens.Nodup) (wanted : Nat) :
    (forest.pruneBelow wanted).tokens.Nodup := by
  induction forest with
  | bare => exact distinct
  | tree token own siblings ownCase siblingsCase =>
      rcases nodup_tree.mp distinct with ⟨⟨notInner, notBeside⟩, ownNodup, siblingsNodup, apart⟩
      have inner : ((release? wanted own).getD (pruneBelow wanted own)).tokens ⊆ own.tokens ∧
          ((release? wanted own).getD (pruneBelow wanted own)).tokens.Nodup := by
        cases releases : own.release? wanted with
        | none => exact ⟨tokens_pruneBelow_subset wanted own, ownCase ownNodup⟩
        | some released =>
            exact ⟨tokens_release?_subset releases, nodup_release? ownNodup releases⟩
      have beside := tokens_pruneBelow_subset wanted siblings
      rw [pruneBelow]
      exact nodup_tree.mpr ⟨⟨fun inside => notInner (inner.1 inside),
        fun inside => notBeside (beside inside)⟩, inner.2, siblingsCase siblingsNodup,
        fun other inside alsoBeside => apart other (inner.1 inside) (beside alsoBeside)⟩

theorem mem_pruneBelow (distinct : forest.tokens.Nodup) (member : token ∈ forest.tokens)
    (apart : token ≠ wanted) : token ∈ (forest.pruneBelow wanted).tokens := by
  induction forest with
  | bare => cases member
  | tree own shoots siblings shootsCase siblingsCase =>
      rcases nodup_tree.mp distinct with ⟨-, shootsNodup, siblingsNodup, -⟩
      simp only [pruneBelow, tokens, List.mem_cons, List.mem_append] at member ⊢
      refine member.imp_right (Or.imp (fun inner => ?_) (siblingsCase siblingsNodup))
      cases releases : shoots.release? wanted with
      | none => exact shootsCase shootsNodup inner
      | some released => exact mem_release? shootsNodup releases inner apart

theorem IsParent.pruneBelow (parent : forest.IsParent upper lower)
    (distinct : forest.tokens.Nodup) (upperApart : upper ≠ wanted) (lowerApart : lower ≠ wanted) :
    (forest.pruneBelow wanted).IsParent upper lower := by
  induction forest with
  | bare => exact parent.elim
  | tree token own siblings ownCase siblingsCase =>
      rcases nodup_tree.mp distinct with ⟨-, ownNodup, siblingsNodup, -⟩
      rw [Forest.pruneBelow]
      rcases parent with ⟨rfl, head⟩ | inner | beside
      · refine Or.inl ⟨rfl, ?_⟩
        cases releases : own.release? wanted with
        | none =>
            rw [Option.getD_none, heads_pruneBelow]
            exact head
        | some released => exact mem_heads_release? ownNodup releases head lowerApart
      · refine Or.inr (Or.inl ?_)
        cases releases : own.release? wanted with
        | none => exact ownCase inner ownNodup
        | some released => exact inner.release? ownNodup releases upperApart
      · exact Or.inr (Or.inr (siblingsCase beside siblingsNodup))

/-- Pruning a token leaves all others in the forest. -/
theorem nodup_prune (distinct : forest.tokens.Nodup) (wanted : Nat) :
    (forest.prune wanted).tokens.Nodup := by
  rw [prune]
  cases releases : forest.release? wanted with
  | none => exact nodup_pruneBelow distinct wanted
  | some released => exact nodup_release? distinct releases

theorem mem_prune (distinct : forest.tokens.Nodup) (member : token ∈ forest.tokens)
    (apart : token ≠ wanted) : token ∈ (forest.prune wanted).tokens := by
  rw [prune]
  cases releases : forest.release? wanted with
  | none => exact mem_pruneBelow distinct member apart
  | some released => exact mem_release? distinct releases member apart

/-- What stands directly under a token stays there, unless one of the two is pruned. -/
theorem IsParent.prune (parent : forest.IsParent upper lower) (distinct : forest.tokens.Nodup)
    (upperApart : upper ≠ wanted) (lowerApart : lower ≠ wanted) :
    (forest.prune wanted).IsParent upper lower := by
  rw [Forest.prune]
  cases releases : forest.release? wanted with
  | none => exact parent.pruneBelow distinct upperApart lowerApart
  | some released => exact parent.release? distinct releases upperApart

/-! ### Cutting -/

/-- No token with others under it was cancelled. -/
def Quiet (isCancelled : Nat → Bool) (forest : Forest) : Prop :=
  ∀ upper lower, forest.IsParent upper lower → isCancelled upper = false

theorem eq_bare_of_childless {shoots : Forest} (childless : shoots.heads = []) :
    shoots = bare := by
  cases shoots with
  | bare => rfl
  | tree token own siblings => cases childless

/-- A tree of a quiet forest. -/
def QuietTree (isCancelled : Nat → Bool) (entry : Nat × Forest) : Prop :=
  (isCancelled entry.1 = true → entry.2 = bare) ∧ entry.2.Quiet isCancelled

theorem Quiet.trees {isCancelled : Nat → Bool} (quiet : forest.Quiet isCancelled) :
    ∀ entry ∈ forest.trees, QuietTree isCancelled entry := by
  intro entry member
  refine ⟨fun cancelled => eq_bare_of_childless ?_, fun upper lower parent => ?_⟩
  · refine List.eq_nil_iff_forall_not_mem.mpr fun head inside => ?_
    have live := quiet entry.1 head (isParent_iff_trees.mpr ⟨entry, member, Or.inl ⟨rfl, inside⟩⟩)
    rw [cancelled] at live
    cases live
  · exact quiet upper lower (isParent_iff_trees.mpr ⟨entry, member, Or.inr parent⟩)

/-- Every token in the trees of a worklist was cancelled before, or hears of it now. -/
theorem felling_complete {isCancelled : Nat → Bool} {work : List (Nat × Forest)}
    (quiet : ∀ entry ∈ work, QuietTree isCancelled entry) :
    ∀ token ∈ tokensOf work, isCancelled token = true ∨ token ∈ felling isCancelled work := by
  induction work using felling.induct isCancelled with
  | case1 =>
      intro token member
      cases member
  | case2 first shoots rest cancelled ih =>
      intro token member
      have childless : shoots = bare := (quiet (first, shoots) List.mem_cons_self).1 cancelled
      subst childless
      simp only [felling, cancelled, if_true]
      rcases List.mem_cons.mp member with rfl | later
      · exact Or.inl cancelled
      · exact ih (fun entry inside => quiet entry (List.mem_cons_of_mem _ inside)) token later
  | case3 first shoots rest live ih =>
      intro token member
      simp only [felling, live, Bool.false_eq_true, if_false]
      have below := (quiet (first, shoots) List.mem_cons_self).2.trees
      have further : token ∈ tokensOf (rest ++ shoots.trees.reverse) →
          isCancelled token = true ∨ token ∈ first :: felling isCancelled
            (rest ++ shoots.trees.reverse) := by
        intro inside
        refine (ih (fun entry among => ?_) token inside).imp_right (List.mem_cons_of_mem first)
        rcases List.mem_append.mp among with beside | inner
        · exact quiet entry (List.mem_cons_of_mem _ beside)
        · exact below entry (List.mem_reverse.mp inner)
      rcases List.mem_cons.mp member with rfl | later
      · exact Or.inr List.mem_cons_self
      · refine further ?_
        rw [tokensOf_append]
        rcases List.mem_append.mp later with inner | beside
        · refine List.mem_append_right _ ?_
          rw [tokens_eq_flatMap] at inner
          simpa [tokensOf] using inner
        · exact List.mem_append_left _ beside

/-- Every token of a level that is cut was cancelled before, or hears of it. -/
theorem Quiet.felling_firstCut {isCancelled : Nat → Bool} (quiet : forest.Quiet isCancelled)
    (member : token ∈ forest.tokens) :
    isCancelled token = true ∨ token ∈ felling isCancelled (forest.firstCut isCancelled) := by
  rw [tokens_eq_flatMap] at member
  rcases List.mem_flatMap.mp member with ⟨entry, inside, below⟩
  cases cancelled : isCancelled entry.1 with
  | true =>
      rw [(quiet.trees entry inside).1 cancelled] at below
      rw [List.mem_singleton.mp below]
      exact Or.inl cancelled
  | false =>
      have quietCut (other) (cut : other ∈ firstCut isCancelled forest) :=
        quiet.trees other (firstCut_subset _ _ cut)
      refine felling_complete quietCut token ?_
      refine List.mem_flatMap.mpr ⟨entry, ?_, below⟩
      have live : entry ∈ forest.trees.filter fun entry => !isCancelled entry.1 :=
        List.mem_filter.mpr ⟨inside, by simp [cancelled]⟩
      rw [firstCut, List.mem_append]
      rcases List.eq_nil_or_concat (forest.trees.filter fun entry => !isCancelled entry.1) with
        none | ⟨others, last, all⟩
      · rw [none] at live
        cases live
      · rw [all, List.concat_eq_append] at live ⊢
        rw [List.getLast?_concat, List.dropLast_concat, Option.toList_some]
        exact (List.mem_append.mp live).symm

theorem Quiet.under? {isCancelled : Nat → Bool} (quiet : forest.Quiet isCancelled)
    {shoots : Forest} (found : forest.under? wanted = some shoots) : shoots.Quiet isCancelled :=
  fun upper lower parent => quiet upper lower ((under?_some found).2.1 upper lower parent)

end Forest

end Admission
