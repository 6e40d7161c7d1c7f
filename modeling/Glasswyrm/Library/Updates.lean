import Mathlib.Data.List.Basic

namespace Glasswyrm.Library

/-! Updates of a keyed state that were prepared from an older one.  An update
knows the values of the state it was prepared from and the values it intends;
when its turn comes it copies some of its values over the current state.  A
log lists the updates, newest first. -/

structure Update {κ : Type u} (V : κ → Type v) where
  base : ∀ key, V key
  intended : ∀ key, V key
  copies : κ → Bool

variable {κ : Type u} {V : κ → Type v}

namespace Update

def Changes (update : Update V) (key : κ) : Prop :=
  update.intended key ≠ update.base key

def apply (update : Update V) (state : ∀ key, V key) : ∀ key, V key :=
  fun key => if update.copies key then update.intended key else state key

/-- Applied to this state, the update has its own changes and nothing else. -/
structure Merges (update : Update V) (state : ∀ key, V key) : Prop where
  files : ∀ key, update.Changes key →
    update.copies key = true ∨ state key = update.intended key
  current : ∀ key, ¬update.Changes key → update.copies key = true →
    state key = update.base key

theorem apply_changed {update : Update V} {state : ∀ key, V key}
    (merges : update.Merges state) {key : κ} (changes : update.Changes key) :
    update.apply state key = update.intended key := by
  unfold apply
  split
  · rfl
  · rename_i kept
    rcases merges.files key changes with copied | same
    · exact absurd copied kept
    · exact same

theorem apply_unchanged {update : Update V} {state : ∀ key, V key}
    (merges : update.Merges state) {key : κ} (same : ¬update.Changes key) :
    update.apply state key = state key := by
  unfold apply
  split
  · rename_i copied
    rw [merges.current key same copied]
    exact not_not.mp same
  · rfl

end Update

/-! ## Logs -/

def replay (start : ∀ key, V key) (log : List (Update V)) : ∀ key, V key :=
  log.foldr (fun update state => update.apply state) start

@[simp] theorem replay_cons (start : ∀ key, V key) (update : Update V)
    (earlier : List (Update V)) :
    replay start (update :: earlier) = update.apply (replay start earlier) :=
  rfl

/-- Every change of the log is in the final state, unless a later update
changed the same key. -/
def NoLostUpdate (final : ∀ key, V key) (log : List (Update V)) : Prop :=
  ∀ later update earlier, log = later ++ update :: earlier →
    ∀ key, update.Changes key → (∀ other ∈ later, ¬other.Changes key) →
      final key = update.intended key

def AllMerge (start : ∀ key, V key) (log : List (Update V)) : Prop :=
  ∀ update earlier, update :: earlier <:+ log →
    update.Merges (replay start earlier)

/-- Where an update does not change a key, it was prepared from a state of the
same log. -/
def Prepared (start : ∀ key, V key) (log : List (Update V)) : Prop :=
  ∀ update earlier, update :: earlier <:+ log →
    ∀ key, ¬update.Changes key →
      ∃ past, past <:+ earlier ∧ update.base key = replay start past key

section

variable {start : ∀ key, V key}

theorem allMerge_cons {update : Update V} {log : List (Update V)} :
    AllMerge start (update :: log) ↔
      update.Merges (replay start log) ∧ AllMerge start log := by
  constructor
  · intro merge
    exact ⟨merge update log (List.suffix_refl _), fun other earlier place =>
      merge other earlier (place.trans (List.suffix_cons _ _))⟩
  · rintro ⟨merges, merge⟩ other earlier place
    rcases List.suffix_cons_iff.mp place with same | older
    · obtain ⟨rfl, rfl⟩ := List.cons.inj same
      exact merges
    · exact merge other earlier older

theorem AllMerge.of_suffix {log past : List (Update V)}
    (merge : AllMerge start log) (suffix : past <:+ log) :
    AllMerge start past :=
  fun update earlier place => merge update earlier (place.trans suffix)

theorem Prepared.of_suffix {log past : List (Update V)}
    (prepared : Prepared start log) (suffix : past <:+ log) :
    Prepared start past :=
  fun update earlier place => prepared update earlier (place.trans suffix)

theorem AllMerge.no_lost_update {log : List (Update V)}
    (merge : AllMerge start log) : NoLostUpdate (replay start log) log := by
  induction log with
  | nil =>
      intro later update earlier split
      simp at split
  | cons newest rest ih =>
      have merges := merge newest rest (List.suffix_refl _)
      intro later update earlier split key changes untouched
      cases later with
      | nil =>
          obtain ⟨rfl, rfl⟩ := List.cons.inj split
          exact Update.apply_changed merges changes
      | cons head tail =>
          obtain ⟨rfl, rfl⟩ := List.cons.inj split
          have kept : ¬newest.Changes key := untouched newest (.head _)
          rw [replay_cons, Update.apply_unchanged merges kept]
          exact ih (merge.of_suffix (List.suffix_cons _ _)) tail update
            earlier rfl key changes fun other member =>
              untouched other (.tail _ member)

/-- While every update merges, a key differs from an older state only because
an update in between changed it, and then the last such update's value is the
current one. -/
theorem AllMerge.last_writer {recent past : List (Update V)}
    (merge : AllMerge start (recent ++ past)) (key : κ)
    (different : replay start (recent ++ past) key ≠ replay start past key) :
    ∃ later update earlier, recent = later ++ update :: earlier ∧
      update.Changes key ∧ (∀ other ∈ later, ¬other.Changes key) ∧
      replay start (recent ++ past) key = update.intended key := by
  induction recent with
  | nil => simp at different
  | cons newest rest ih =>
      have merges := merge newest (rest ++ past) (List.suffix_refl _)
      by_cases changes : newest.Changes key
      · refine ⟨[], newest, rest, rfl, changes, by simp, ?_⟩
        exact Update.apply_changed merges changes
      · have same := Update.apply_unchanged merges changes
        rw [List.cons_append, replay_cons, same] at different ⊢
        obtain ⟨later, update, earlier, split, written, untouched, value⟩ :=
          ih (merge.of_suffix (List.suffix_cons _ _)) different
        refine ⟨newest :: later, update, earlier, by rw [split]; rfl, written,
          ?_, value⟩
        intro other member
        rcases List.mem_cons.mp member with rfl | member
        · exact changes
        · exact untouched other member

/-- No state of the log has lost an update exactly when every update merges
into the state it is applied to. -/
theorem no_lost_update_iff {log : List (Update V)}
    (prepared : Prepared start log) :
    (∀ past, past <:+ log → NoLostUpdate (replay start past) past) ↔
      AllMerge start log := by
  constructor
  · intro keeps
    induction log with
    | nil =>
        intro update earlier place
        simp at place
    | cons newest rest ih =>
        have suffix : rest <:+ newest :: rest := List.suffix_cons _ _
        have older : AllMerge start rest := ih (prepared.of_suffix suffix)
          fun past place => keeps past (place.trans suffix)
        intro update earlier place
        rcases List.suffix_cons_iff.mp place with same | place
        · obtain ⟨rfl, rfl⟩ := List.cons.inj same
          have whole := keeps (update :: earlier) (List.suffix_refl _)
          refine ⟨fun key changes => ?_, fun key kept copied => ?_⟩
          · have final := whole [] update earlier rfl key changes (by simp)
            rw [replay_cons, Update.apply] at final
            by_cases copied : update.copies key = true
            · exact .inl copied
            · rw [if_neg copied] at final
              exact .inr final
          · -- a stale copy would revert the last writer since its base
            obtain ⟨past, pastSuffix, base⟩ :=
              prepared update earlier (List.suffix_refl _) key kept
            obtain ⟨recent, rfl⟩ := pastSuffix
            by_contra stale
            rw [base] at stale
            obtain ⟨later, writer, before, split, written, untouched,
              value⟩ := older.last_writer key stale
            have final := whole (update :: later) writer (before ++ past)
              (by simp [split]) key written (by
                intro other member
                rcases List.mem_cons.mp member with rfl | member
                · exact kept
                · exact untouched other member)
            rw [replay_cons, Update.apply, if_pos copied,
              not_not.mp kept, base, ← value] at final
            exact stale final.symm
        · exact older update earlier place
  · intro merge past place
    exact (merge.of_suffix place).no_lost_update

end

end Glasswyrm.Library
