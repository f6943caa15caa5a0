import Admission.Proofs.FeedChanges
import Admission.Proofs.Run
import Mathlib.Logic.Function.Basic

/-!
# Pictures of a feed

Somebody who reads the items of a watch can keep a picture of the feed: what is added or updated is
put into it, and what is deleted is taken out. An item fits the picture if the picture shows of the
past what the item says of it.

What the calls of a feed tell depends on the resources of the feed and on the calls alone. Beginning
with the resources that are there, the picture then keeps up with the feed, and everything that is
told fits it.
-/

namespace Admission

/-- What somebody takes to be in a feed, by identifier. -/
abbrev Picture := String → Option JobResource

namespace Picture

/-- Nothing is in it. -/
def blank : Picture := fun _ => none

/-- What is in a feed that has some resources. -/
def ofResources (resources : List JobResource) : Picture :=
  fun uid => resources.find? fun resource => resource.uid == uid

/-- The picture after an item. -/
def see (picture : Picture) : FeedItem → Picture
  | .event (.added resource _) => Function.update picture resource.uid (some resource)
  | .event (.updated _ current) => Function.update picture current.uid (some current)
  | .event (.deleted lastKnown) => Function.update picture lastKnown.uid none
  | .event (.unrecognized _ _) => picture
  | .synced => picture

/-- What an item says of the past is what the picture shows. -/
def Fits (picture : Picture) : FeedItem → Prop
  | .event (.added resource _) => picture resource.uid = none
  | .event (.updated previous current) => picture current.uid = some previous
  | .event (.deleted lastKnown) => picture lastKnown.uid = some lastKnown
  | .event (.unrecognized _ _) => True
  | .synced => True

/-- Every item fits the picture that the items before it have left. -/
def FitsAll : Picture → List FeedItem → Prop
  | _, [] => True
  | picture, item :: rest => picture.Fits item ∧ (picture.see item).FitsAll rest

theorem fitsAll_append {picture : Picture} {items more : List FeedItem} :
    picture.FitsAll (items ++ more) ↔
      picture.FitsAll items ∧ Picture.FitsAll (items.foldl see picture) more := by
  induction items generalizing picture with
  | nil => simp [FitsAll]
  | cons item rest ih => simp only [List.cons_append, FitsAll, List.foldl_cons, ih, and_assoc]

/-! ### Resources -/

section Resources

variable {resource : JobResource} {resources : List JobResource} {uid : String}

theorem uid_of_ofResources (found : ofResources resources uid = some resource) :
    resource.uid = uid := by
  simpa using List.find?_some found

theorem ofResources_cons (first : JobResource) (rest : List JobResource) :
    ofResources (first :: rest) = Function.update (ofResources rest) first.uid (some first) := by
  funext uid
  by_cases same : uid = first.uid
  · subst same
    simp [ofResources]
  · simp [ofResources, Function.update_of_ne same, Ne.symm same]

theorem ofResources_insert (resource : JobResource) (resources : List JobResource) :
    ofResources (MemoryFeed.insert resource resources) =
      Function.update (ofResources resources) resource.uid (some resource) := by
  induction resources with
  | nil => exact ofResources_cons resource []
  | cons first rest ih =>
      simp only [MemoryFeed.insert]
      split
      · rename_i same
        rw [ofResources_cons, ofResources_cons, same, Function.update_idem]
      · rename_i apart
        split
        · exact ofResources_cons resource (first :: rest)
        · rw [ofResources_cons, ofResources_cons, ih, Function.update_comm apart]

theorem ofResources_delete (uid : String) (resources : List JobResource) :
    ofResources (resources.filter fun resource => resource.uid != uid) =
      Function.update (ofResources resources) uid none := by
  induction resources with
  | nil =>
      rw [List.filter_nil]
      exact (Function.update_eq_self uid blank).symm
  | cons first rest ih =>
      by_cases same : first.uid = uid
      · rw [List.filter_cons_of_neg (by simp [same]), ih, ofResources_cons, same,
          Function.update_idem]
      · rw [List.filter_cons_of_pos (by simp [same]), ofResources_cons, ofResources_cons, ih,
          Function.update_comm same]

theorem delete_of_absent (absent : ofResources resources uid = none) :
    (resources.filter fun resource => resource.uid != uid) = resources := by
  refine List.filter_eq_self.mpr fun resource member => ?_
  have apart := List.find?_eq_none.mp absent resource member
  simpa using apart

/-- Resources that the picture does not show can be put into it one after the other. -/
theorem fitsAll_replay {picture : Picture} (sorted : MemoryFeed.Sorted resources)
    (absent : ∀ resource ∈ resources, picture resource.uid = none) :
    picture.FitsAll (resources.map fun resource => .event (.added resource true)) := by
  induction resources generalizing picture with
  | nil => trivial
  | cons first rest ih =>
      rcases List.pairwise_cons.mp sorted with ⟨least, sortedRest⟩
      refine ⟨absent first List.mem_cons_self, ih sortedRest fun resource member => ?_⟩
      have apart : resource.uid ≠ first.uid := fun same =>
        String.lt_irrefl _ (same ▸ least resource member)
      rw [see, Function.update_of_ne apart]
      exact absent resource (List.mem_cons_of_mem first member)

theorem foldl_replay {picture : Picture} (sorted : MemoryFeed.Sorted resources) :
    (resources.map fun resource => FeedItem.event (.added resource true)).foldl see picture =
      fun uid => (ofResources resources uid).or (picture uid) := by
  induction resources generalizing picture with
  | nil => rfl
  | cons first rest ih =>
      rcases List.pairwise_cons.mp sorted with ⟨least, sortedRest⟩
      rw [List.map_cons, List.foldl_cons, ih sortedRest, ofResources_cons]
      funext uid
      by_cases same : uid = first.uid
      · subst same
        have absent : ofResources rest first.uid = none := by
          refine List.find?_eq_none.mpr fun other member found => ?_
          have equal : other.uid = first.uid := by simpa using found
          exact String.lt_irrefl _ (equal ▸ least other member)
        simp [see, absent]
      · simp [see, Function.update_of_ne same]

end Resources

end Picture

/-! ### What calls tell -/

namespace ResourceEvent

/-- Whether a notification makes sense. -/
def isRecognized : ResourceEvent → Bool
  | unrecognized _ _ => false
  | _ => true

end ResourceEvent

namespace Happening

/-- What the watchers of the cluster's feed are told when it has some resources. -/
def tells (resources : List JobResource) : Happening → Option ResourceEvent
  | applyResource feed resource =>
      if feed = System.clusterFeed then
        match Picture.ofResources resources resource.uid with
        | some previous => some (.updated previous resource)
        | none => some (.added resource false)
      else none
  | deleteResource feed uid =>
      if feed = System.clusterFeed then (Picture.ofResources resources uid).map .deleted else none
  | injectChange feed change => if feed = System.clusterFeed then some change else none
  | _ => none

/-- The resources of the cluster's feed afterwards. -/
def leaves (resources : List JobResource) : Happening → List JobResource
  | applyResource feed resource =>
      if feed = System.clusterFeed then MemoryFeed.insert resource resources else resources
  | deleteResource feed uid =>
      if feed = System.clusterFeed then resources.filter fun resource => resource.uid != uid
      else resources
  | _ => resources

/-- Whether it is a call to the cluster's feed that changes something or tells something. -/
def isCall : Happening → Bool
  | applyResource feed _ | deleteResource feed _ | injectChange feed _ =>
      feed == System.clusterFeed
  | _ => false

/-- Whether what the watchers are told without a change of the feed is unrecognized. -/
def InjectsNoise : Happening → Prop
  | injectChange _ change => change.isRecognized = false
  | _ => True

/-- What the watchers of the cluster's feed are told in a course of happenings. -/
def told : List JobResource → List Happening → List ResourceEvent
  | _, [] => []
  | resources, happening :: rest =>
      (happening.tells resources).toList ++ told (happening.leaves resources) rest

variable {resources : List JobResource} {happening : Happening}

theorem tells_of_not_isCall (other : happening.isCall = false) :
    happening.tells resources = none := by
  cases happening with
  | applyResource feed resource => simp_all [isCall, tells]
  | deleteResource feed uid => simp_all [isCall, tells]
  | injectChange feed change => simp_all [isCall, tells]
  | _ => rfl

theorem leaves_of_not_isCall (other : happening.isCall = false) :
    happening.leaves resources = resources := by
  cases happening with
  | applyResource feed resource => simp_all [isCall, leaves]
  | deleteResource feed uid => simp_all [isCall, leaves]
  | _ => rfl

/-- What is told depends on the calls only. -/
theorem told_filter_isCall (resources : List JobResource) (happenings : List Happening) :
    told resources (happenings.filter isCall) = told resources happenings := by
  induction happenings generalizing resources with
  | nil => rfl
  | cons happening rest ih =>
      cases call : happening.isCall with
      | true => rw [List.filter_cons_of_pos call, told, told, ih]
      | false =>
          rw [List.filter_cons_of_neg (by simp [call]), told, tells_of_not_isCall call,
            leaves_of_not_isCall call, Option.toList_none, List.nil_append, ih]

/-- What is told fits the picture, which then shows the resources again. -/
theorem fits_tells (noise : happening.InjectsNoise) {change : ResourceEvent}
    (tells : happening.tells resources = some change) :
    (Picture.ofResources resources).Fits (.event change) ∧
      (Picture.ofResources resources).see (.event change) =
        Picture.ofResources (happening.leaves resources) := by
  cases happening with
  | applyResource feed resource =>
      simp only [Happening.tells, leaves] at tells ⊢
      split at tells
      · rename_i same
        rw [if_pos same, Picture.ofResources_insert]
        split at tells
        · rename_i previous present
          cases tells
          exact ⟨present, rfl⟩
        · rename_i absent
          cases tells
          exact ⟨absent, rfl⟩
      · cases tells
  | deleteResource feed uid =>
      simp only [Happening.tells, leaves] at tells ⊢
      split at tells
      · rename_i same
        rw [if_pos same, Picture.ofResources_delete]
        rcases Option.map_eq_some_iff.mp tells with ⟨lastKnown, present, rfl⟩
        have equal := Picture.uid_of_ofResources present
        subst equal
        exact ⟨present, rfl⟩
      · cases tells
  | injectChange feed injected =>
      simp only [Happening.tells] at tells
      split at tells
      · cases tells
        cases change with
        | unrecognized kind reason => exact ⟨trivial, rfl⟩
        | _ => cases noise
      · cases tells
  | _ => cases tells

/-- Without anything being told, the feed shows the same. -/
theorem ofResources_leaves_of_silent (silent : happening.tells resources = none) :
    Picture.ofResources (happening.leaves resources) = Picture.ofResources resources := by
  cases happening with
  | applyResource feed resource =>
      simp only [tells, leaves] at silent ⊢
      split at silent
      · split at silent <;> cases silent
      · rename_i other
        rw [if_neg other]
  | deleteResource feed uid =>
      simp only [tells, leaves] at silent ⊢
      split at silent
      · rename_i same
        have absent := Option.map_eq_none_iff.mp silent
        rw [if_pos same, Picture.ofResources_delete, ← absent, Function.update_eq_self]
      · rename_i other
        rw [if_neg other]
  | _ => rfl

/-- The picture keeps up with the feed, and all that is told fits it. -/
theorem fitsAll_told {happenings : List Happening}
    (noise : ∀ happening ∈ happenings, happening.InjectsNoise) (resources : List JobResource) :
    (Picture.ofResources resources).FitsAll ((told resources happenings).map .event) ∧
      ((told resources happenings).map FeedItem.event).foldl Picture.see
          (Picture.ofResources resources) =
        Picture.ofResources (happenings.foldl leaves resources) := by
  induction happenings generalizing resources with
  | nil => exact ⟨trivial, rfl⟩
  | cons happening rest ih =>
      have later := ih (fun other member => noise other (List.mem_cons_of_mem happening member))
        (happening.leaves resources)
      rw [told, List.foldl_cons]
      cases tells : happening.tells resources with
      | none =>
          rw [ofResources_leaves_of_silent tells] at later
          exact later
      | some change =>
          rcases fits_tells (noise happening List.mem_cons_self) tells with ⟨fits, seen⟩
          rw [← seen] at later
          exact ⟨⟨fits, later.1⟩, later.2⟩

end Happening

end Admission
