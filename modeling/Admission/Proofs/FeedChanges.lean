import Admission.Feed.Memory

/-!
# Changes of a feed in memory

A feed in memory keeps its resources sorted, so that it has one resource at most for an identifier.
Putting a resource in or taking one out changes the number of unfinished resources by the resources
concerned.
-/

namespace Admission

namespace MemoryFeed

/-- The resources are in ascending order of their identifiers. -/
def Sorted (resources : List JobResource) : Prop :=
  resources.Pairwise fun first second => first.uid < second.uid

def unfinished (resources : List JobResource) : Nat :=
  resources.countP fun resource => !resource.isFinished

section Resources

variable {resource previous : JobResource} {resources : List JobResource} {uid : String}

theorem unfinished_cons (resource : JobResource) (resources : List JobResource) :
    unfinished (resource :: resources) = unfinished resources + (!resource.isFinished).toNat := by
  simp only [unfinished, List.countP_cons]
  cases resource.isFinished <;> rfl

theorem lt_of_not_lt {first second : String} (apart : first ≠ second) (notLess : ¬second < first) :
    first < second := by
  rcases Decidable.em (first < second) with less | notLessEither
  · exact less
  · exact absurd (String.le_antisymm notLess notLessEither) apart

theorem mem_of_mem_insert {other : JobResource} (member : other ∈ insert resource resources) :
    other = resource ∨ other ∈ resources := by
  induction resources with
  | nil => exact Or.inl (List.mem_singleton.mp member)
  | cons first rest ih =>
      simp only [insert] at member
      split at member
      · exact (List.mem_cons.mp member).imp_right (List.mem_cons_of_mem first)
      · split at member
        · exact List.mem_cons.mp member
        · rcases List.mem_cons.mp member with rfl | later
          · exact Or.inr List.mem_cons_self
          · exact (ih later).imp_right (List.mem_cons_of_mem first)

theorem insert_sorted (resource : JobResource) (sorted : Sorted resources) :
    Sorted (insert resource resources) := by
  induction resources with
  | nil => exact List.pairwise_singleton _ _
  | cons first rest ih =>
      rcases List.pairwise_cons.mp sorted with ⟨least, sortedRest⟩
      simp only [insert]
      split
      · rename_i same
        refine List.pairwise_cons.mpr ⟨?_, sortedRest⟩
        intro other member
        rw [← same]
        exact least other member
      · rename_i apart
        split
        · rename_i less
          refine List.pairwise_cons.mpr ⟨?_, sorted⟩
          intro other member
          rcases List.mem_cons.mp member with rfl | later
          · exact less
          · exact String.lt_trans less (least other later)
        · rename_i notLess
          refine List.pairwise_cons.mpr ⟨?_, ih sortedRest⟩
          intro other member
          rcases mem_of_mem_insert member with rfl | later
          · exact lt_of_not_lt apart notLess
          · exact least other later

theorem ofResources_sorted (resources : List JobResource) :
    Sorted (ofResources resources).resources := by
  have inserting : ∀ (resources held : List JobResource), Sorted held →
      Sorted (resources.foldl (fun held resource => insert resource held) held) := by
    intro resources
    induction resources with
    | nil => exact fun _ sorted => sorted
    | cons resource rest ih => exact fun held sorted => ih _ (insert_sorted resource sorted)
  exact inserting resources [] List.Pairwise.nil

/-- A resource of a new identifier is added to those that were there. -/
theorem unfinished_insert_of_absent
    (absent : resources.find? (fun other => other.uid == resource.uid) = none) :
    unfinished (insert resource resources) =
      unfinished resources + (!resource.isFinished).toNat := by
  induction resources with
  | nil => exact unfinished_cons resource []
  | cons first rest ih =>
      rw [List.find?_cons] at absent
      split at absent
      · cases absent
      · rename_i apart
        have different : first.uid ≠ resource.uid := by simpa using apart
        simp only [insert, different, if_false]
        split
        · exact unfinished_cons resource (first :: rest)
        · rw [unfinished_cons, unfinished_cons, ih absent]
          omega

/-- A resource of a known identifier takes the place of the one that was there. -/
theorem unfinished_insert_of_present (sorted : Sorted resources)
    (present : resources.find? (fun other => other.uid == resource.uid) = some previous) :
    unfinished (insert resource resources) + (!previous.isFinished).toNat =
      unfinished resources + (!resource.isFinished).toNat := by
  induction resources with
  | nil => cases present
  | cons first rest ih =>
      rcases List.pairwise_cons.mp sorted with ⟨least, sortedRest⟩
      rw [List.find?_cons] at present
      split at present
      · rename_i same
        cases present
        have equal : previous.uid = resource.uid := by simpa using same
        simp only [insert, equal, if_true]
        rw [unfinished_cons, unfinished_cons]
        omega
      · rename_i apart
        have different : first.uid ≠ resource.uid := by simpa using apart
        have later := least previous (List.mem_of_find?_eq_some present)
        have equal : previous.uid = resource.uid := by simpa using List.find?_some present
        rw [equal] at later
        simp only [insert, different, String.lt_asymm later, if_false]
        have inner := ih sortedRest present
        rw [unfinished_cons, unfinished_cons]
        omega

theorem delete_sorted (uid : String) (sorted : Sorted resources) :
    Sorted (resources.filter fun resource => resource.uid != uid) :=
  List.Pairwise.filter _ sorted

/-- Deleting a resource takes away that one only. -/
theorem unfinished_delete (sorted : Sorted resources)
    (present : resources.find? (fun other => other.uid == uid) = some previous) :
    unfinished (resources.filter fun other => other.uid != uid) + (!previous.isFinished).toNat =
      unfinished resources := by
  induction resources with
  | nil => cases present
  | cons first rest ih =>
      rcases List.pairwise_cons.mp sorted with ⟨least, sortedRest⟩
      rw [List.find?_cons] at present
      split at present
      · rename_i same
        cases present
        have equal : previous.uid = uid := by simpa using same
        have kept : rest.filter (fun other => other.uid != uid) = rest := by
          rw [List.filter_eq_self]
          intro other member
          have greater := least other member
          rw [equal] at greater
          have apart : other.uid ≠ uid := by
            intro also
            rw [also] at greater
            exact String.lt_irrefl uid greater
          simpa using apart
        rw [List.filter_cons_of_neg (by simp [equal]), kept, unfinished_cons]
      · rename_i apart
        have different : first.uid ≠ uid := by simpa using apart
        have inner := ih sortedRest present
        rw [List.filter_cons_of_pos (by simpa using different), unfinished_cons, unfinished_cons]
        omega

end Resources

end MemoryFeed

end Admission
