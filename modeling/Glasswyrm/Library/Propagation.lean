import Glasswyrm.Library.KeyMap

namespace Glasswyrm.Library

/-! Values that are computed one after the other, each from the value that its
parent has by then.  Where no entry comes before its parent, the values end up
as a solution of the equations they are computed by. -/

variable {α : Type*} (parent : Nat → Nat) (value : Nat → α → α → α)
  (fallback : α)

def propagate (map : KeyMap α) (id : Nat) : KeyMap α :=
  map.insert id
    (value id (map[id]?.getD fallback) (map[parent id]?.getD fallback))

/-- No entry comes before its parent, none comes twice. -/
def ParentsFirst (ids : List Nat) : Prop :=
  (ids.Pairwise fun earlier later =>
      later ≠ earlier ∧ later ≠ parent earlier) ∧
    ∀ id ∈ ids, parent id ≠ id

variable {parent value fallback}

theorem propagate_lookup (map : KeyMap α) (id other : Nat) :
    (propagate parent value fallback map id)[other]? =
      if id = other then
        some (value id (map[id]?.getD fallback)
          (map[parent id]?.getD fallback))
      else map[other]? :=
  KeyMap.lookup_insert ..

theorem foldl_propagate_absent {ids : List Nat} {map : KeyMap α} {id : Nat}
    (absent : id ∉ ids) :
    (ids.foldl (propagate parent value fallback) map)[id]? = map[id]? := by
  induction ids generalizing map with
  | nil => rfl
  | cons head rest ih =>
      rw [List.mem_cons, not_or] at absent
      rw [List.foldl_cons, ih absent.2, propagate_lookup,
        if_neg (Ne.symm absent.1)]

theorem foldl_propagate {ids : List Nat}
    (ordered : ParentsFirst parent ids) {map : KeyMap α} {id : Nat}
    (member : id ∈ ids) :
    (ids.foldl (propagate parent value fallback) map)[id]? =
      some (value id (map[id]?.getD fallback)
        ((ids.foldl (propagate parent value fallback) map)[parent id]?.getD
          fallback)) := by
  obtain ⟨pairwise, proper⟩ := ordered
  induction ids generalizing map with
  | nil => cases member
  | cons head rest ih =>
      obtain ⟨first, others⟩ := List.pairwise_cons.mp pairwise
      obtain ⟨_, properRest⟩ := List.forall_mem_cons.mp proper
      rw [List.foldl_cons]
      rcases List.mem_cons.mp member with rfl | later
      · have itself : id ∉ rest := fun again => (first id again).1 rfl
        have above : parent id ∉ rest := fun again =>
          (first (parent id) again).2 rfl
        rw [foldl_propagate_absent itself, foldl_propagate_absent above,
          propagate_lookup, if_pos rfl, propagate_lookup,
          if_neg (Ne.symm (proper id member))]
      · have other : head ≠ id := fun same => (first id later).1 same.symm
        have step := @ih (propagate parent value fallback map head) later
          others properRest
        rw [propagate_lookup, if_neg other] at step
        exact step

/-- Entries that are present stay present, and no others appear. -/
theorem foldl_propagate_mem {ids : List Nat} {map : KeyMap α}
    (known : ∀ id ∈ ids, id ∈ map) (id : Nat) :
    id ∈ ids.foldl (propagate parent value fallback) map ↔ id ∈ map := by
  induction ids generalizing map with
  | nil => exact Iff.rfl
  | cons head rest ih =>
      obtain ⟨present, others⟩ := List.forall_mem_cons.mp known
      have same : ∀ other, other ∈ propagate parent value fallback map head ↔
          other ∈ map := by
        intro other
        rw [propagate, Std.ExtTreeMap.mem_insert, Nat.compare_eq_eq]
        refine ⟨fun either => ?_, .inr⟩
        exact either.elim (fun same => same ▸ present) fun there => there
      rw [List.foldl_cons, ih fun other member =>
        (same other).mpr (others other member), same]

end Glasswyrm.Library
