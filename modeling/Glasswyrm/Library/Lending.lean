import Mathlib.Data.Set.Insert
import Mathlib.Data.List.Count

namespace Glasswyrm.Library

/-! Items that are lent and released again.  An item is lent only while it is
not out, and released only while it is; a reset forgets all that are out. -/

inductive LoanEvent (α : Type*)
  | lend (item : α)
  | release (item : α)
  | reset
deriving DecidableEq

variable {α : Type*}

/-- The events lead from the items that are out at first to those at last. -/
inductive Loans : Set α → List (LoanEvent α) → Set α → Prop
  | nil (out : Set α) : Loans out [] out
  | lend {out final : Set α} {item : α} {rest : List (LoanEvent α)}
      (free : item ∉ out) (later : Loans (insert item out) rest final) :
      Loans out (.lend item :: rest) final
  | release {out final : Set α} {item : α} {rest : List (LoanEvent α)}
      (lent : item ∈ out) (later : Loans (out \ {item}) rest final) :
      Loans out (.release item :: rest) final
  | reset {out final : Set α} {rest : List (LoanEvent α)}
      (later : Loans ∅ rest final) : Loans out (.reset :: rest) final

namespace Loans

variable {first middle last : Set α} {events later : List (LoanEvent α)}

theorem append (left : Loans first events middle)
    (right : Loans middle later last) : Loans first (events ++ later) last := by
  induction left with
  | nil out => exact right
  | lend free _ ih => exact .lend free (ih right)
  | release lent _ ih => exact .release lent (ih right)
  | reset _ ih => exact .reset (ih right)

theorem split (loans : Loans first (events ++ later) last) :
    ∃ middle, Loans first events middle ∧ Loans middle later last := by
  induction events generalizing first with
  | nil => exact ⟨first, .nil first, loans⟩
  | cons event rest ih =>
      cases loans with
      | lend free remaining =>
          obtain ⟨middle, before, after⟩ := ih remaining
          exact ⟨middle, .lend free before, after⟩
      | release lent remaining =>
          obtain ⟨middle, before, after⟩ := ih remaining
          exact ⟨middle, .release lent before, after⟩
      | reset remaining =>
          obtain ⟨middle, before, after⟩ := ih remaining
          exact ⟨middle, .reset before, after⟩

/-- Distinct items that are out can all be released. -/
theorem releases {items : List α} (distinct : items.Nodup)
    (lent : ∀ item ∈ items, item ∈ first) :
    Loans first (items.map .release) (first \ {item | item ∈ items}) := by
  induction items generalizing first with
  | nil =>
      have same : first \ {item | item ∈ ([] : List α)} = first := by
        ext item
        simp
      rw [same]
      exact .nil first
  | cons item rest ih =>
      obtain ⟨fresh, others⟩ := List.nodup_cons.mp distinct
      obtain ⟨here, remaining⟩ := List.forall_mem_cons.mp lent
      have still : ∀ other ∈ rest, other ∈ first \ {item} :=
        fun other member =>
          ⟨remaining other member, fun same => fresh (same ▸ member)⟩
      have same : (first \ {item}) \ {other | other ∈ rest} =
          first \ {other | other ∈ item :: rest} := by
        ext other
        simp [and_assoc]
      rw [← same]
      exact .release here (ih others still)

open Classical in
/-- How often an item has to be released. -/
noncomputable def owed (out : Set α) (item : α) : Nat :=
  if item ∈ out then 1 else 0

theorem owed_of_mem {out : Set α} {item : α} (member : item ∈ out) :
    owed out item = 1 :=
  if_pos member

theorem owed_of_notMem {out : Set α} {item : α} (absent : item ∉ out) :
    owed out item = 0 :=
  if_neg absent

theorem owed_congr {first last : Set α} {item : α}
    (same : item ∈ first ↔ item ∈ last) : owed first item = owed last item := by
  by_cases member : item ∈ first
  · rw [owed_of_mem member, owed_of_mem (same.mp member)]
  · rw [owed_of_notMem member,
      owed_of_notMem fun other => member (same.mpr other)]

/-- Until the next reset, an item is out if it was lent once more than it was
released. -/
theorem balance [DecidableEq α] (loans : Loans first events last)
    (unreset : .reset ∉ events) (item : α) :
    events.count (.lend item) + owed first item =
      events.count (.release item) + owed last item := by
  induction loans with
  | nil out => simp
  | @lend out final other rest free remaining ih =>
      have held := ih fun member => unreset (.tail _ member)
      by_cases same : other = item
      · subst same
        rw [owed_of_mem (Set.mem_insert other out)] at held
        rw [owed_of_notMem free, List.count_cons_self,
          List.count_cons_of_ne (by simp)]
        omega
      · have apart : item ∈ insert other out ↔ item ∈ out := by
          simp [Ne.symm same]
        rw [owed_congr apart] at held
        rw [List.count_cons_of_ne (by simpa using same),
          List.count_cons_of_ne (by simp)]
        exact held
  | @release out final other rest lent remaining ih =>
      have held := ih fun member => unreset (.tail _ member)
      by_cases same : other = item
      · subst same
        have absent : other ∉ out \ {other} := by simp
        rw [owed_of_notMem absent] at held
        rw [owed_of_mem lent, List.count_cons_self,
          List.count_cons_of_ne (by simp)]
        omega
      · have apart : item ∈ out \ {other} ↔ item ∈ out := by
          simp [Ne.symm same]
        rw [owed_congr apart] at held
        rw [List.count_cons_of_ne (by simp),
          List.count_cons_of_ne (by simpa using same)]
        exact held
  | reset remaining ih => exact absurd List.mem_cons_self unreset

/-- Between two loans of an item that follow one another it is released
exactly once. -/
theorem released_once [DecidableEq α] {item : α}
    {before between after : List (LoanEvent α)}
    (loans : Loans first
      (before ++ .lend item :: between ++ .lend item :: after) last)
    (unreset : .reset ∉ between) (unlent : .lend item ∉ between) :
    between.count (.release item) = 1 := by
  rw [List.append_assoc] at loans
  obtain ⟨out, _, remaining⟩ := loans.split
  cases remaining with
  | lend free remaining =>
      obtain ⟨middle, held, again⟩ := remaining.split
      cases again with
      | lend absent _ =>
          have balanced := held.balance unreset item
          rw [owed_of_mem (Set.mem_insert item out), owed_of_notMem absent,
            List.count_eq_zero.mpr unlent] at balanced
          exact balanced.symm

end Loans

end Glasswyrm.Library
