import Mathlib.Data.List.Lex
import Mathlib.Data.List.Sort
import Mathlib.Data.List.Nodup

namespace Glasswyrm.Library

/-! Two orders of overlapping collections: where they agree on the items that
matter, the items come out in the same order. -/

variable {α : Type*} {β : Type*}

theorem filterMap_filter_isSome (f : α → Option β) (items : List α) :
    (items.filter fun item => (f item).isSome).filterMap f =
      items.filterMap f := by
  induction items with
  | nil => rfl
  | cons item rest ih =>
      cases found : f item <;> simp [found, ih]

/-- Items that yield something are filed alike by two sorted lists that both
contain them. -/
theorem filterMap_eq_of_sorted {f : α → Option β} {first second : List α}
    {before : α → α → Prop} (firstNodup : first.Nodup)
    (secondNodup : second.Nodup)
    (same : ∀ item, (f item).isSome = true → (item ∈ first ↔ item ∈ second))
    (antisymmetric : ∀ left right, (f left).isSome = true →
      (f right).isSome = true → before left right → before right left →
        left = right)
    (firstSorted : first.Pairwise fun left right =>
      (f left).isSome = true → (f right).isSome = true → before left right)
    (secondSorted : second.Pairwise fun left right =>
      (f left).isSome = true → (f right).isSome = true → before left right) :
    first.filterMap f = second.filterMap f := by
  have ordered : ∀ {items : List α}, (items.Pairwise fun left right =>
      (f left).isSome = true → (f right).isSome = true → before left right) →
        (items.filter fun item => (f item).isSome).Pairwise before := by
    intro items sorted
    refine (sorted.sublist List.filter_sublist).imp_of_mem ?_
    intro left right leftMember rightMember related
    exact related (List.mem_filter.mp leftMember).2
      (List.mem_filter.mp rightMember).2
  have alike : (first.filter fun item => (f item).isSome).Perm
      (second.filter fun item => (f item).isSome) := by
    rw [List.perm_ext_iff_of_nodup (firstNodup.filter _)
      (secondNodup.filter _)]
    intro item
    simp only [List.mem_filter]
    exact and_congr_left fun yields => same item yields
  rw [← filterMap_filter_isSome f first, ← filterMap_filter_isSome f second]
  congr 1
  refine alike.eq_of_pairwise ?_ (ordered firstSorted) (ordered secondSorted)
  intro left right leftMember rightMember
  exact antisymmetric left right (List.mem_filter.mp leftMember).2
    (List.mem_filter.mp rightMember).2

/-! ## Filtering a sorted list -/

section

variable {before : α → α → Prop} [DecidableRel before]
  [IsTrans α before]

/-- Inserting into a sorted list and filtering it. -/
theorem filter_orderedInsert (keep : α → Bool) (entry : α) {entries : List α}
    (sorted : entries.Pairwise before) :
    (entries.orderedInsert before entry).filter keep =
      if keep entry then (entries.filter keep).orderedInsert before entry
      else entries.filter keep := by
  induction entries with
  | nil => cases kept : keep entry <;> simp [kept]
  | cons head rest ih =>
      obtain ⟨least, later⟩ := List.pairwise_cons.mp sorted
      rw [List.orderedInsert_cons]
      split
      · rename_i first
        have below : ∀ other ∈ (head :: rest).filter keep,
            before entry other := by
          intro other member
          rcases List.mem_cons.mp (List.mem_of_mem_filter member) with
            rfl | member
          · exact first
          · exact IsTrans.trans _ _ _ first (least other member)
        rw [List.filter_cons]
        split
        · generalize (head :: rest).filter keep = kept at below ⊢
          cases kept with
          | nil => rfl
          | cons other _ =>
              rw [List.orderedInsert_cons, if_pos (below other List.mem_cons_self)]
        · rfl
      · rename_i behind
        rw [List.filter_cons, ih later]
        split
        · rename_i kept
          rw [List.filter_cons, if_pos kept, List.orderedInsert_cons,
            if_neg behind]
          split <;> rfl
        · rename_i dropped
          rw [List.filter_cons, if_neg dropped]

theorem filter_insertionSort [Std.Total before] (keep : α → Bool)
    (entries : List α) :
    (entries.insertionSort before).filter keep =
      (entries.filter keep).insertionSort before := by
  induction entries with
  | nil => rfl
  | cons entry rest ih =>
      rw [List.insertionSort_cons,
        filter_orderedInsert keep entry (List.pairwise_insertionSort _ _), ih,
        List.filter_cons]
      split
      · rfl
      · rfl

end

/-! ## Running maxima and minima -/

section

variable {γ : Type*} [LinearOrder γ] (entries : List α) (edge : α → γ)
  (start : γ)

/-- A running maximum is at least its start and every value it met. -/
theorem le_foldl_max :
    start ≤ entries.foldl (fun most entry => max most (edge entry)) start ∧
      ∀ entry ∈ entries,
        edge entry ≤
          entries.foldl (fun most entry => max most (edge entry)) start := by
  induction entries generalizing start with
  | nil => exact ⟨le_refl start, List.forall_mem_nil _⟩
  | cons entry rest ih =>
      obtain ⟨above, within⟩ := ih (max start (edge entry))
      rw [List.foldl_cons]
      refine ⟨(le_max_left _ _).trans above, fun other member => ?_⟩
      rcases List.mem_cons.mp member with rfl | later
      · exact (le_max_right _ _).trans above
      · exact within other later

end

/-! ## Lexicographic keys -/

/-- Keys compare by their heads, and then by their tails. -/
theorem cons_le_cons_iff [LinearOrder α] {first second : α}
    {left right : List α} :
    first :: left ≤ second :: right ↔
      first < second ∨ (first = second ∧ left ≤ right) := by
  rw [← not_lt, List.cons_lt_cons_iff, not_or, not_lt, not_and, not_lt,
    le_iff_lt_or_eq]
  constructor
  · rintro ⟨less | same, tail⟩
    · exact .inl less
    · exact .inr ⟨same, tail same.symm⟩
  · rintro (less | ⟨same, tail⟩)
    · exact ⟨.inl less, fun same => absurd same less.ne'⟩
    · exact ⟨.inr same, fun _ => tail⟩

/-- Lists that are related entry by entry are pairwise related alike. -/
theorem pairwise_of_forall₂ {α β : Type*} {first : α → α → Prop}
    {second : β → β → Prop} {same : α → β → Prop}
    (transfers : ∀ left right other another, same left other →
      same right another → first left right → second other another)
    {entries : List α} {others : List β}
    (related : List.Forall₂ same entries others)
    (pairwise : entries.Pairwise first) : others.Pairwise second := by
  induction related with
  | nil => exact .nil
  | @cons entry other rest later here there ih =>
      obtain ⟨front, remaining⟩ := List.pairwise_cons.mp pairwise
      refine List.pairwise_cons.mpr ⟨fun another member => ?_, ih remaining⟩
      obtain ⟨index, bound, rfl⟩ := List.getElem_of_mem member
      have inside : index < rest.length := there.length_eq ▸ bound
      exact transfers entry rest[index] other later[index] here
        (there.get inside bound) (front _ (List.getElem_mem inside))

end Glasswyrm.Library
