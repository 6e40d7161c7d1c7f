import Mathlib.Data.List.Rotate

namespace Glasswyrm.Library

/-! The edges of a closed list of points, and those that change sides. -/

variable {α : Type*}

/-- Each element with the next one, the last with the first. -/
def cyclicEdges (points : List α) : List (α × α) :=
  points.zip (points.rotate 1)

/-- The edges of an open list that goes on to a point. -/
def chainEdges : List α → α → List (α × α)
  | [], _ => []
  | [point], next => [(point, next)]
  | first :: second :: rest, next =>
      (first, second) :: chainEdges (second :: rest) next

theorem chainEdges_eq_zip (first : α) (rest : List α) (next : α) :
    chainEdges (first :: rest) next = (first :: rest).zip (rest ++ [next]) := by
  induction rest generalizing first with
  | nil => rfl
  | cons second rest ih =>
      rw [chainEdges, ih]
      rfl

theorem cyclicEdges_cons (first : α) (rest : List α) :
    cyclicEdges (first :: rest) = chainEdges (first :: rest) first := by
  rw [chainEdges_eq_zip, cyclicEdges, List.rotate_cons_succ, List.rotate_zero]

theorem chainEdges_append {front : List α} (some : front ≠ []) (point : α)
    (back : List α) (next : α) :
    chainEdges (front ++ point :: back) next =
      chainEdges front point ++ chainEdges (point :: back) next := by
  induction front with
  | nil => exact absurd rfl some
  | cons first rest ih =>
      cases rest with
      | nil => rfl
      | cons second rest =>
          rw [List.cons_append, List.cons_append, chainEdges,
            ← List.cons_append, ih (List.cons_ne_nil _ _)]
          rfl

theorem mem_cyclicEdges {points : List α} {edge : α × α}
    (member : edge ∈ cyclicEdges points) :
    edge.1 ∈ points ∧ edge.2 ∈ points := by
  obtain ⟨first, second⟩ := List.of_mem_zip (a := edge.1) (b := edge.2) member
  exact ⟨first, List.mem_rotate.mp second⟩

section

variable (side : α → Bool)

/-- The edges between the sides. -/
def changes (edges : List (α × α)) : List (α × α) :=
  edges.filter fun edge => side edge.1 != side edge.2

variable {side} {value : Bool}

theorem changes_append (front back : List (α × α)) :
    changes side (front ++ back) = changes side front ++ changes side back :=
  List.filter_append front back

theorem changes_chain_same {points : List α} {next : α}
    (alike : ∀ point ∈ points, side point = value)
    (last : side next = value) : changes side (chainEdges points next) = [] := by
  induction points with
  | nil => rfl
  | cons first rest ih =>
      have here := alike first List.mem_cons_self
      cases rest with
      | nil => simp [changes, chainEdges, here, last]
      | cons second rest =>
          have there := alike second
            (List.mem_cons_of_mem _ List.mem_cons_self)
          have later := ih fun point member =>
            alike point (List.mem_cons_of_mem _ member)
          rw [chainEdges, changes, List.filter_cons_of_neg]
          · exact later
          · simp [here, there]

theorem changes_chain_other {points : List α} {next : α}
    (some : points ≠ []) (alike : ∀ point ∈ points, side point = value)
    (last : side next ≠ value) :
    ∃ point ∈ points,
      changes side (chainEdges points next) = [(point, next)] := by
  induction points with
  | nil => exact absurd rfl some
  | cons first rest ih =>
      have here := alike first List.mem_cons_self
      cases rest with
      | nil =>
          refine ⟨first, List.mem_cons_self, ?_⟩
          simp [changes, chainEdges, here, last.symm]
      | cons second rest =>
          have there := alike second
            (List.mem_cons_of_mem _ List.mem_cons_self)
          obtain ⟨point, member, later⟩ := ih (List.cons_ne_nil _ _)
            fun point member => alike point (List.mem_cons_of_mem _ member)
          refine ⟨point, List.mem_cons_of_mem _ member, ?_⟩
          rw [chainEdges, changes, List.filter_cons_of_neg]
          · exact later
          · simp [here, there]

/-- No four points in order lie on one side and the other in turn. -/
def NeverAlternates (side : α → Bool) (points : List α) : Prop :=
  ∀ (i j k l : Nat) (w x y z : α), i < j → j < k → k < l →
    points[i]? = some w → points[j]? = some x → points[k]? = some y →
      points[l]? = some z → side x ≠ side w → side y = side w →
        side z = side w

/-- The first run of points on one side, and the point that ends it. -/
theorem split_run (side : α → Bool) (value : Bool) (points : List α) :
    ∃ front back, points = front ++ back ∧
      (∀ point ∈ front, side point = value) ∧
      (back = [] ∨ ∃ turn rest, back = turn :: rest ∧
        side turn = !value) := by
  induction points with
  | nil => exact ⟨[], [], rfl, List.forall_mem_nil _, Or.inl rfl⟩
  | cons first rest ih =>
      by_cases here : side first = value
      · obtain ⟨front, back, rfl, alike, ends⟩ := ih
        exact ⟨first :: front, back, rfl,
          List.forall_mem_cons.mpr ⟨here, alike⟩, ends⟩
      · refine ⟨[], first :: rest, rfl, List.forall_mem_nil _,
          Or.inr ⟨first, rest, rfl, ?_⟩⟩
        exact Bool.eq_not.mpr here

/-- Points that never alternate fall into three runs. -/
theorem NeverAlternates.runs {first : α} {rest : List α}
    (never : NeverAlternates side (first :: rest))
    (other : ∃ point ∈ rest, side point ≠ side first) :
    ∃ (front : List α) (turn : α) (middle back : List α),
      first :: rest = (first :: front) ++ (turn :: middle) ++ back ∧
      (∀ point ∈ first :: front, side point = side first) ∧
      (∀ point ∈ turn :: middle, side point = !side first) ∧
      ∀ point ∈ back, side point = side first := by
  obtain ⟨front, later, rfl, alike, ends⟩ := split_run side (side first) rest
  obtain rfl | ⟨turn, tail, rfl, turns⟩ := ends
  · obtain ⟨point, member, differs⟩ := other
    rw [List.append_nil] at member
    exact absurd (alike point member) differs
  obtain ⟨middle, back, rfl, unlike, returns⟩ :=
    split_run side (!side first) tail
  refine ⟨front, turn, middle, back, by simp,
    List.forall_mem_cons.mpr ⟨rfl, alike⟩,
    List.forall_mem_cons.mpr ⟨turns, unlike⟩, ?_⟩
  obtain rfl | ⟨again, last, rfl, comes⟩ := returns
  · exact List.forall_mem_nil _
  rw [Bool.not_not] at comes
  refine List.forall_mem_cons.mpr ⟨comes, fun point member => ?_⟩
  obtain ⟨n, isN⟩ := List.mem_iff_getElem?.mp member
  -- the four points are those that begin the runs, and this one
  refine never 0 (front.length + 1) (front.length + middle.length + 2)
    (front.length + middle.length + 3 + n) first turn again point (by omega)
    (by omega) (by omega) rfl ?_ ?_ ?_ ?_ comes
  · simp
  · rw [show front.length + middle.length + 2 =
      front.length + (middle.length + 1) + 1 by omega,
      List.getElem?_cons_succ, List.getElem?_append_right (by omega),
      Nat.add_sub_cancel_left, List.getElem?_cons_succ,
      List.getElem?_append_right (Nat.le_refl _), Nat.sub_self]
    rfl
  · rw [show front.length + middle.length + 3 + n =
      front.length + (middle.length + (n + 1) + 1) + 1 by omega,
      List.getElem?_cons_succ, List.getElem?_append_right (by omega),
      Nat.add_sub_cancel_left, List.getElem?_cons_succ,
      List.getElem?_append_right (by omega), Nat.add_sub_cancel_left,
      List.getElem?_cons_succ]
    exact isN
  · rw [turns]
    cases side first <;> decide

/-- Points that never alternate, but lie on both sides, have two edges between
the sides: one that leaves the first point's side and one that comes back. -/
theorem NeverAlternates.changes {points : List α}
    (never : NeverAlternates side points)
    (both : ∃ first ∈ points, ∃ second ∈ points, side second ≠ side first) :
    ∃ a b c d, changes side (cyclicEdges points) = [(a, b), (c, d)] ∧
      side b = (!side a) ∧ side c = (!side a) ∧ side d = side a := by
  cases points with
  | nil =>
      obtain ⟨_, member, _⟩ := both
      cases member
  | cons first rest =>
      have other : ∃ point ∈ rest, side point ≠ side first := by
        by_contra none
        simp only [not_exists, not_and, not_not] at none
        have alike : ∀ point ∈ first :: rest, side point = side first :=
          List.forall_mem_cons.mpr ⟨rfl, none⟩
        obtain ⟨one, isOne, two, isTwo, differ⟩ := both
        exact differ ((alike two isTwo).trans (alike one isOne).symm)
      obtain ⟨front, turn, middle, back, whole, alike, unlike, again⟩ :=
        never.runs other
      have leaves : side turn ≠ side first := by
        rw [unlike turn List.mem_cons_self]
        cases side first <;> decide
      obtain ⟨a, isA, here⟩ := @changes_chain_other _ side _ _ turn
        (List.cons_ne_nil first front) alike leaves
      have returns (next : α) (last : side next = side first) :
          side next ≠ !side first := by
        rw [last]
        cases side first <;> decide
      rw [cyclicEdges_cons, whole, List.append_assoc, @List.cons_append _ turn,
        chainEdges_append (List.cons_ne_nil _ _), changes_append, here]
      cases back with
      | nil =>
          obtain ⟨c, isC, there⟩ := @changes_chain_other _ side _ _ first
            (List.cons_ne_nil turn middle) unlike (returns first rfl)
          rw [List.append_nil, there]
          exact ⟨a, turn, c, first, rfl,
            by rw [alike a isA, unlike turn List.mem_cons_self],
            by rw [alike a isA, unlike c isC], (alike a isA).symm⟩
      | cons back tail =>
          have last := again back List.mem_cons_self
          obtain ⟨c, isC, there⟩ := @changes_chain_other _ side _ _ back
            (List.cons_ne_nil turn middle) unlike (returns back last)
          rw [← List.cons_append, chainEdges_append (List.cons_ne_nil _ _),
            changes_append, there, changes_chain_same again rfl]
          exact ⟨a, turn, c, back, rfl,
            by rw [alike a isA, unlike turn List.mem_cons_self],
            by rw [alike a isA, unlike c isC], by rw [alike a isA, last]⟩

end

end Glasswyrm.Library
