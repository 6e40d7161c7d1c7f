import Mathlib.Data.List.Perm.Basic
import Mathlib.Data.Set.Lattice
import Mathlib.Logic.Relation
import Mathlib.Order.CompletePartialOrder

namespace Glasswyrm.Library

/-! Lists of parts, of which one absorbs another where the two can be merged,
until no part is left that absorbs a later one. -/

variable {α β : Type*} (merge : α → α → Option α)

/-- The first part of the list that `part` merges with is taken out. -/
def absorb (part : α) : List α → Option (α × List α)
  | [] => none
  | other :: rest =>
      match merge part other with
      | some whole => some (whole, rest)
      | none => (absorb part rest).map fun found =>
          (found.1, other :: found.2)

variable {merge}

theorem absorb_some {part whole : α} {parts rest : List α}
    (absorbed : absorb merge part parts = some (whole, rest)) :
    ∃ other, merge part other = some whole ∧
      List.Perm parts (other :: rest) := by
  induction parts generalizing rest with
  | nil => cases absorbed
  | cons other later ih =>
      unfold absorb at absorbed
      cases merged : merge part other with
      | some joined =>
          rw [merged] at absorbed
          obtain ⟨rfl, rfl⟩ := Prod.mk.inj (Option.some.inj absorbed)
          exact ⟨other, merged, List.Perm.refl _⟩
      | none =>
          rw [merged] at absorbed
          obtain ⟨found, taken, same⟩ := Option.map_eq_some_iff.mp absorbed
          obtain ⟨rfl, rfl⟩ := Prod.mk.inj same
          obtain ⟨partner, joins, perm⟩ := ih taken
          exact ⟨partner, joins,
            (perm.cons other).trans (List.Perm.swap partner other found.2)⟩

theorem absorb_length {part : α} {parts : List α} {found : α × List α}
    (absorbed : absorb merge part parts = some found) :
    parts.length = found.2.length + 1 := by
  obtain ⟨_, _, perm⟩ := absorb_some absorbed
  exact perm.length_eq

variable (merge)

/-- One pass, with whether any two parts were merged. -/
def coalesceOnce : List α → List α × Bool
  | [] => ([], false)
  | part :: rest =>
      match _absorbed : absorb merge part rest with
      | some found => ((coalesceOnce (found.1 :: found.2)).1, true)
      | none =>
          let later := coalesceOnce rest
          (part :: later.1, later.2)
termination_by parts => parts.length
decreasing_by
  · have shorter := absorb_length _absorbed
    simp only [List.length_cons]
    omega
  · simp only [List.length_cons]
    omega

/-- What can be reached by merging two parts at a time, in any order. -/
inductive Coalesced : List α → List α → Prop
  | perm {parts others : List α} (same : List.Perm parts others) :
      Coalesced parts others
  | join {part other whole : α} {rest parts : List α}
      (merged : merge part other = some whole)
      (later : Coalesced (whole :: rest) parts) :
      Coalesced (part :: other :: rest) parts
  | trans {parts between others : List α} (first : Coalesced parts between)
      (second : Coalesced between others) : Coalesced parts others

variable {merge}

theorem Coalesced.cons {parts others : List α} (part : α)
    (coalesced : Coalesced merge parts others) :
    Coalesced merge (part :: parts) (part :: others) := by
  induction coalesced with
  | perm same => exact .perm (same.cons part)
  | @join first second whole rest parts merged later ih =>
      have front : List.Perm (part :: first :: second :: rest)
          (first :: second :: part :: rest) :=
        (List.Perm.swap first part _).trans
          ((List.Perm.swap second part _).cons first)
      exact .trans (.perm front)
        (.join merged (.trans (.perm (List.Perm.swap part whole rest)) ih))
  | trans _ _ first second => exact .trans first second

/-- The induction rule: what does not depend on the order and survives the
merging of two parts survives any number of them. -/
theorem Coalesced.preserves (kept : List α → Prop)
    (permutes : ∀ parts others, List.Perm parts others → kept parts →
      kept others)
    (joins : ∀ part other whole rest, merge part other = some whole →
      kept (part :: other :: rest) → kept (whole :: rest))
    {parts others : List α} (coalesced : Coalesced merge parts others)
    (holds : kept parts) : kept others := by
  induction coalesced with
  | perm same => exact permutes _ _ same holds
  | join merged _ ih => exact ih (joins _ _ _ _ merged holds)
  | trans _ _ first second => exact second (first holds)

theorem coalesceOnce_coalesced (parts : List α) :
    Coalesced merge parts (coalesceOnce merge parts).1 := by
  induction parts using coalesceOnce.induct merge with
  | case1 =>
      rw [coalesceOnce]
      exact .perm (List.Perm.refl _)
  | case2 part rest found absorbed ih =>
      unfold coalesceOnce
      split
      · rename_i again taken
        obtain rfl := Option.some.inj (absorbed.symm.trans taken)
        obtain ⟨other, merged, perm⟩ := absorb_some absorbed
        exact .trans (.perm (perm.cons part)) (.join merged ih)
      · rename_i none
        cases absorbed.symm.trans none
  | case3 part rest absorbed ih =>
      unfold coalesceOnce
      split
      · rename_i taken
        cases absorbed.symm.trans taken
      · exact ih.cons part

theorem coalesceOnce_length (merge : α → α → Option α) (parts : List α) :
    (coalesceOnce merge parts).1.length +
      (if (coalesceOnce merge parts).2 then 1 else 0) ≤ parts.length := by
  induction parts using coalesceOnce.induct merge with
  | case1 => simp [coalesceOnce]
  | case2 part rest found absorbed ih =>
      have shorter := absorb_length absorbed
      unfold coalesceOnce
      split
      · rename_i again taken
        obtain rfl := Option.some.inj (absorbed.symm.trans taken)
        simp only [List.length_cons, if_true] at ih ⊢
        omega
      · rename_i none
        cases absorbed.symm.trans none
  | case3 part rest absorbed ih =>
      unfold coalesceOnce
      split
      · rename_i taken
        cases absorbed.symm.trans taken
      · simp only [List.length_cons] at ih ⊢
        omega

variable (merge)

/-- Passes until one merges nothing: each pass before it leaves fewer parts. -/
def coalesce (parts : List α) : List α :=
  let pass := coalesceOnce merge parts
  if _merged : pass.2 then coalesce pass.1 else pass.1
termination_by parts.length
decreasing_by
  have fewer := coalesceOnce_length merge parts
  rw [if_pos _merged] at fewer
  exact fewer

variable {merge}

theorem coalesce_coalesced (merge : α → α → Option α) (parts : List α) :
    Coalesced merge parts (coalesce merge parts) := by
  induction parts using coalesce.induct merge with
  | case1 parts pass merged ih =>
      unfold coalesce
      rw [dif_pos merged]
      exact .trans (coalesceOnce_coalesced parts) ih
  | case2 parts pass merged =>
      unfold coalesce
      rw [dif_neg merged]
      exact coalesceOnce_coalesced parts

variable (merge)

/-- The first two parts that merge, merged. -/
def mergeFirst : List α → Option (List α)
  | [] => none
  | part :: rest =>
      match absorb merge part rest with
      | some found => some (found.1 :: found.2)
      | none => (mergeFirst rest).map (part :: ·)

variable {merge}

theorem mergeFirst_coalesced {parts merged : List α}
    (first : mergeFirst merge parts = some merged) :
    Coalesced merge parts merged ∧ parts.length = merged.length + 1 := by
  induction parts generalizing merged with
  | nil => cases first
  | cons part rest ih =>
      unfold mergeFirst at first
      split at first
      · rename_i found absorbed
        obtain rfl := Option.some.inj first
        obtain ⟨other, joins, perm⟩ := absorb_some absorbed
        refine ⟨.trans (.perm (perm.cons part))
          (.join joins (.perm (List.Perm.refl _))), ?_⟩
        rw [List.length_cons, absorb_length absorbed, List.length_cons]
      · obtain ⟨later, taken, rfl⟩ := Option.map_eq_some_iff.mp first
        obtain ⟨coalesced, length⟩ := ih taken
        exact ⟨coalesced.cons part, by rw [List.length_cons, length,
          List.length_cons]⟩

theorem absorb_none {part : α} {parts : List α}
    (apart : absorb merge part parts = none) :
    ∀ other ∈ parts, merge part other = none := by
  induction parts with
  | nil => exact List.forall_mem_nil _
  | cons other rest ih =>
      unfold absorb at apart
      split at apart
      · cases apart
      · rename_i here
        exact List.forall_mem_cons.mpr
          ⟨here, ih (Option.map_eq_none_iff.mp apart)⟩

theorem mergeFirst_none {parts : List α}
    (settled : mergeFirst merge parts = none) :
    parts.Pairwise fun part other => merge part other = none := by
  induction parts with
  | nil => exact List.Pairwise.nil
  | cons part rest ih =>
      unfold mergeFirst at settled
      split at settled
      · cases settled
      · rename_i apart
        exact List.pairwise_cons.mpr ⟨absorb_none apart,
          ih (Option.map_eq_none_iff.mp settled)⟩

variable (merge)

/-- Two parts at a time are merged, each time from the front, until no two
merge: each round leaves one part fewer. -/
def settle (parts : List α) : List α :=
  match _first : mergeFirst merge parts with
  | some merged => settle merged
  | none => parts
termination_by parts.length
decreasing_by
  have shorter := (mergeFirst_coalesced _first).2
  omega

variable {merge}

theorem settle_coalesced (merge : α → α → Option α) (parts : List α) :
    Coalesced merge parts (settle merge parts) := by
  induction parts using settle.induct merge with
  | case1 parts merged first ih =>
      unfold settle
      split
      · rename_i again taken
        obtain rfl := Option.some.inj (first.symm.trans taken)
        exact .trans (mergeFirst_coalesced first).1 ih
      · rename_i none
        cases first.symm.trans none
  | case2 parts settled =>
      unfold settle
      split
      · rename_i taken
        cases settled.symm.trans taken
      · exact .perm (List.Perm.refl _)

theorem settle_settled (merge : α → α → Option α) (parts : List α) :
    (settle merge parts).Pairwise fun part other =>
      merge part other = none := by
  induction parts using settle.induct merge with
  | case1 parts merged first ih =>
      unfold settle
      split
      · rename_i again taken
        obtain rfl := Option.some.inj (first.symm.trans taken)
        exact ih
      · rename_i none
        cases first.symm.trans none
  | case2 parts settled =>
      unfold settle
      split
      · rename_i taken
        cases settled.symm.trans taken
      · exact mergeFirst_none settled

@[simp] theorem coalesce_single (part : α) :
    coalesce merge [part] = [part] := by
  simp [coalesce, coalesceOnce, absorb]

/-! ## Parts of a set -/

variable (shape : α → Set β)

/-- The points of a list of parts. -/
def covered (parts : List α) : Set β := {point | ∃ part ∈ parts,
  point ∈ shape part}

def Apart (parts : List α) : Prop :=
  parts.Pairwise fun part other => Disjoint (shape part) (shape other)

variable {shape}

@[simp] theorem covered_nil : covered shape [] = ∅ := by
  ext point
  simp [covered]

@[simp] theorem covered_cons (part : α) (parts : List α) :
    covered shape (part :: parts) = shape part ∪ covered shape parts := by
  ext point
  simp [covered]

@[simp] theorem covered_append (parts others : List α) :
    covered shape (parts ++ others) =
      covered shape parts ∪ covered shape others := by
  induction parts with
  | nil => simp
  | cons part rest ih =>
      rw [List.cons_append, covered_cons, ih, covered_cons, Set.union_assoc]

theorem covered_perm {parts others : List α} (same : List.Perm parts others) :
    covered shape parts = covered shape others := by
  ext point
  exact exists_congr fun part => and_congr_left' same.mem_iff

theorem shape_subset_covered {part : α} {parts : List α}
    (member : part ∈ parts) : shape part ⊆ covered shape parts :=
  fun _ inside => ⟨part, member, inside⟩

theorem Apart.perm {parts others : List α} (same : List.Perm parts others)
    (apart : Apart shape parts) : Apart shape others :=
  (same.pairwise_iff fun disjoint => disjoint.symm).mp apart

theorem apart_cons {part : α} {parts : List α} :
    Apart shape (part :: parts) ↔
      Disjoint (shape part) (covered shape parts) ∧ Apart shape parts := by
  unfold Apart
  rw [List.pairwise_cons]
  refine and_congr_left' ⟨fun each => ?_, fun disjoint other member =>
    disjoint.mono_right (shape_subset_covered member)⟩
  rw [Set.disjoint_left]
  rintro point inside ⟨other, member, also⟩
  exact Set.disjoint_left.mp (each other member) inside also

theorem apart_append {parts others : List α} :
    Apart shape (parts ++ others) ↔
      Apart shape parts ∧ Apart shape others ∧
        Disjoint (covered shape parts) (covered shape others) := by
  induction parts with
  | nil =>
      rw [List.nil_append, covered_nil]
      exact ⟨fun apart => ⟨List.Pairwise.nil, apart, Set.empty_disjoint _⟩,
        fun apart => apart.2.1⟩
  | cons part rest ih =>
      rw [List.cons_append, apart_cons, ih, apart_cons, covered_append,
        covered_cons, Set.disjoint_union_left, Set.disjoint_union_right]
      tauto

/-- Merging that covers what it merges loses no point. -/
theorem Coalesced.covers_more (shape : α → Set β) (sound : α → Prop)
    (joins : ∀ part other whole, merge part other = some whole →
      sound part → sound other →
        shape part ∪ shape other ⊆ shape whole ∧ sound whole)
    {parts others : List α} (coalesced : Coalesced merge parts others)
    (each : ∀ part ∈ parts, sound part) :
    covered shape parts ⊆ covered shape others ∧
      ∀ part ∈ others, sound part := by
  refine coalesced.preserves
    (fun list => covered shape parts ⊆ covered shape list ∧
      ∀ part ∈ list, sound part) ?_ ?_ ⟨subset_rfl, each⟩
  · rintro first second same ⟨covers, each⟩
    exact ⟨covers.trans (covered_perm same).subset,
      fun part member => each part (same.mem_iff.mpr member)⟩
  · rintro part other whole rest merged ⟨covers, each⟩
    rw [List.forall_mem_cons, List.forall_mem_cons] at each
    obtain ⟨soundPart, soundOther, others⟩ := each
    obtain ⟨union, soundWhole⟩ :=
      joins part other whole merged soundPart soundOther
    refine ⟨covers.trans ?_, List.forall_mem_cons.mpr ⟨soundWhole, others⟩⟩
    rw [covered_cons, covered_cons, covered_cons, ← Set.union_assoc]
    exact Set.union_subset_union_left _ union

/-- Merging that joins the shapes of disjoint parts keeps the points covered
and the parts disjoint. -/
theorem Coalesced.covers (shape : α → Set β) (sound : α → Prop)
    (joins : ∀ part other whole, merge part other = some whole →
      sound part → sound other →
        shape whole = shape part ∪ shape other ∧ sound whole)
    {parts others : List α} (coalesced : Coalesced merge parts others)
    (each : ∀ part ∈ parts, sound part) (apart : Apart shape parts) :
    covered shape others = covered shape parts ∧ Apart shape others ∧
      ∀ part ∈ others, sound part := by
  refine coalesced.preserves
    (fun list => covered shape list = covered shape parts ∧
      Apart shape list ∧ ∀ part ∈ list, sound part) ?_ ?_
    ⟨rfl, apart, each⟩
  · rintro first second same ⟨covers, apart, each⟩
    exact ⟨(covered_perm same).symm.trans covers, apart.perm same,
      fun part member => each part (same.mem_iff.mpr member)⟩
  · rintro part other whole rest merged ⟨covers, apart, each⟩
    rw [List.forall_mem_cons, List.forall_mem_cons] at each
    obtain ⟨soundPart, soundOther, others⟩ := each
    obtain ⟨union, soundWhole⟩ :=
      joins part other whole merged soundPart soundOther
    rw [apart_cons, apart_cons, covered_cons, Set.disjoint_union_right] at apart
    refine ⟨?_, ?_, List.forall_mem_cons.mpr ⟨soundWhole, others⟩⟩
    · rw [← covers, covered_cons, union, covered_cons, covered_cons,
        Set.union_assoc]
    · rw [apart_cons, union, Set.disjoint_union_left]
      exact ⟨⟨apart.1.2, apart.2.1⟩, apart.2.2⟩

end Glasswyrm.Library
