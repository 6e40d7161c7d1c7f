import Glasswyrm.Library.Order
import Glasswyrm.Compositor.Scene

namespace Glasswyrm.Compositor

/-! The stacking order of a scene whose surfaces are filed under their own
identifiers. -/

def Scene.Keyed (scene : Scene) : Prop :=
  ∀ (id : Nat) surface, scene.surfaces[id]? = some surface →
    surface.surfaceId = id

theorem AcceptedScene.keyed {scene : Scene}
    (accepted : AcceptedScene scene) : scene.Keyed :=
  fun id surface found => (accepted.surfaces id surface found).1.symm

theorem stackedBefore_total (left right : SurfaceUpsert) :
    StackedBefore left right ∨ StackedBefore right left := by
  unfold StackedBefore
  cases cursorSurface left <;> cases cursorSurface right <;> simp <;> omega

theorem stackedBefore_trans {first second third : SurfaceUpsert}
    (left : StackedBefore first second) (right : StackedBefore second third) :
    StackedBefore first third := by
  unfold StackedBefore at left right ⊢
  revert left right
  cases cursorSurface first <;> cases cursorSurface second <;>
    cases cursorSurface third <;> simp <;> omega

theorem stackedBefore_antisymm {left right : SurfaceUpsert}
    (first : StackedBefore left right) (second : StackedBefore right left) :
    left.surfaceId = right.surfaceId := by
  unfold StackedBefore at first second
  revert first second
  cases cursorSurface left <;> cases cursorSurface right <;> simp <;> omega

instance : Std.Total StackedBefore := ⟨stackedBefore_total⟩

instance : IsTrans SurfaceUpsert StackedBefore :=
  ⟨fun _ _ _ => stackedBefore_trans⟩

/-- Whether the first surface lies below the second in the scene. -/
def Scene.Below (scene : Scene) (left right : Nat) : Prop :=
  ∃ lower upper, scene.surfaces[left]? = some lower ∧
    scene.surfaces[right]? = some upper ∧ StackedBefore lower upper

theorem Scene.Below.antisymm {scene : Scene} (keyed : scene.Keyed)
    {left right : Nat} (first : scene.Below left right)
    (second : scene.Below right left) : left = right := by
  obtain ⟨lower, upper, foundLower, foundUpper, below⟩ := first
  obtain ⟨_, _, sameUpper, sameLower, above⟩ := second
  obtain rfl := Option.some.inj (foundUpper.symm.trans sameUpper)
  obtain rfl := Option.some.inj (foundLower.symm.trans sameLower)
  rw [← keyed left _ foundLower, ← keyed right _ foundUpper]
  exact stackedBefore_antisymm below above

namespace SceneModel

variable {model : SceneModel}

theorem mem_sorted_surfaces {surface : SurfaceUpsert} :
    surface ∈ (model.committed.surfaces.toList.map (·.2)).insertionSort
        StackedBefore ↔
      ∃ id : Nat, model.committed.surfaces[id]? = some surface := by
  rw [List.mem_insertionSort, List.mem_map]
  constructor
  · rintro ⟨⟨id, _⟩, member, rfl⟩
    exact ⟨id, KeyMap.mem_toList.mp member⟩
  · rintro ⟨id, found⟩
    exact ⟨(id, surface), KeyMap.mem_toList.mpr found, rfl⟩

theorem mem_stackingOrder (keyed : model.committed.Keyed) (id : Nat) :
    id ∈ model.stackingOrder ↔ id ∈ model.committed.surfaces := by
  unfold stackingOrder
  simp only [List.mem_map, mem_sorted_surfaces, KeyMap.mem_iff]
  constructor
  · rintro ⟨surface, ⟨other, found⟩, rfl⟩
    rw [keyed other surface found]
    exact ⟨surface, found⟩
  · rintro ⟨surface, found⟩
    exact ⟨surface, ⟨id, found⟩, keyed id surface found⟩

theorem stackingOrder_nodup (keyed : model.committed.Keyed) :
    model.stackingOrder.Nodup := by
  unfold stackingOrder
  have sorted := List.perm_insertionSort StackedBefore
    (model.committed.surfaces.toList.map (·.2))
  rw [(sorted.map _).nodup_iff, List.map_map]
  have ids : model.committed.surfaces.toList.map
      ((·.surfaceId) ∘ (·.2)) = model.committed.surfaces.toList.map (·.1) := by
    refine List.map_congr_left fun entry member => ?_
    exact keyed entry.1 entry.2 (KeyMap.mem_toList.mp member)
  rw [ids]
  refine List.pairwise_map.mpr ?_
  exact (KeyMap.toList_pairwise _).imp fun less => Nat.ne_of_lt less

theorem stackingOrder_sorted (keyed : model.committed.Keyed) :
    model.stackingOrder.Pairwise model.committed.Below := by
  unfold stackingOrder
  refine List.pairwise_map.mpr ?_
  refine (List.pairwise_insertionSort StackedBefore _).imp_of_mem ?_
  intro lower upper lowerMember upperMember below
  obtain ⟨left, foundLower⟩ := mem_sorted_surfaces.mp lowerMember
  obtain ⟨right, foundUpper⟩ := mem_sorted_surfaces.mp upperMember
  refine ⟨lower, upper, ?_, ?_, below⟩
  · rw [keyed left lower foundLower]
    exact foundLower
  · rw [keyed right upper foundUpper]
    exact foundUpper

end SceneModel

end Glasswyrm.Compositor
