import Mathlib.Algebra.Ring.Nat
import Mathlib.Data.List.Pairwise
import Mathlib.Data.List.Perm.Subperm
import Mathlib.Data.List.Sort

namespace Glasswyrm

/-- `std::map` with unsigned keys: iteration visits the keys in ascending order. -/
abbrev KeyMap (α : Type u) := Std.ExtTreeMap Nat α compare

namespace KeyMap

variable {α : Type u} {β : Type v}

theorem lookup_insert (map : KeyMap α) (key : Nat) (value : α) (id : Nat) :
    (map.insert key value)[id]? =
      if key = id then some value else map[id]? := by
  simp [Std.ExtTreeMap.getElem?_insert]

theorem lookup_erase (map : KeyMap α) (key id : Nat) :
    (map.erase key)[id]? = if key = id then none else map[id]? := by
  simp [Std.ExtTreeMap.getElem?_erase]

theorem mem_toList {map : KeyMap α} {id : Nat} {value : α} :
    (id, value) ∈ map.toList ↔ map[id]? = some value :=
  Std.ExtTreeMap.mem_toList_iff_getElem?_eq_some

theorem toList_pairwise (map : KeyMap α) :
    map.toList.Pairwise fun left right => left.1 < right.1 := by
  have ordered := Std.ExtTreeMap.ordered_keys_toList (t := map)
  exact ordered.imp fun less => Nat.compare_eq_lt.mp less

/-- Filing a list of records, each under its own key. -/
def file (key : β → Nat) (map : KeyMap β) (records : List β) : KeyMap β :=
  records.foldl (fun map record => map.insert (key record) record) map

theorem file_lookup_absent {key : β → Nat} (map : KeyMap β)
    {records : List β} {id : Nat}
    (absent : ∀ record ∈ records, key record ≠ id) :
    (file key map records)[id]? = map[id]? := by
  induction records generalizing map with
  | nil => rfl
  | cons head rest ih =>
      have step := ih (map.insert (key head) head)
        fun record member => absent record (.tail _ member)
      rw [lookup_insert, if_neg (absent head (.head _))] at step
      exact step

theorem file_lookup_present {key : β → Nat} (map : KeyMap β)
    {records : List β} {record : β}
    (distinct : records.Pairwise fun left right => key left ≠ key right)
    (member : record ∈ records) :
    (file key map records)[key record]? = some record := by
  induction records generalizing map with
  | nil => simp at member
  | cons head rest ih =>
      obtain ⟨fresh, later⟩ := List.pairwise_cons.mp distinct
      rcases List.mem_cons.mp member with rfl | member
      · have absent := file_lookup_absent (map.insert (key record) record)
          fun other found => (fresh other found).symm
        rw [lookup_insert, if_pos rfl] at absent
        exact absent
      · exact ih (map.insert (key head) head) later member

/-- Filing the images of a map's values gives the mapped map, when every
image keeps its value's key. -/
theorem file_map_toList {map : KeyMap α} (f : α → β) (key : β → Nat)
    (keyed : ∀ id value, map[id]? = some value → key (f value) = id) :
    file key ∅ (map.toList.map fun entry => f entry.2) =
      map.map fun _ value => f value := by
  have distinct : (map.toList.map fun entry => f entry.2).Pairwise
      fun left right => key left ≠ key right := by
    rw [List.pairwise_map]
    refine (toList_pairwise map).imp_of_mem ?_
    intro left right leftMember rightMember less
    rw [keyed left.1 left.2 (mem_toList.mp leftMember),
      keyed right.1 right.2 (mem_toList.mp rightMember)]
    exact Nat.ne_of_lt less
  refine Std.ExtTreeMap.ext_getElem? fun id => ?_
  cases found : map[id]? with
  | none =>
      rw [file_lookup_absent]
      · simp [found]
      · intro record member
        obtain ⟨⟨other, value⟩, entry, rfl⟩ := List.mem_map.mp member
        have present := mem_toList.mp entry
        rw [keyed other value present]
        rintro rfl
        simp [found] at present
  | some value =>
      have member : f value ∈ map.toList.map fun entry => f entry.2 :=
        List.mem_map.mpr ⟨(id, value), mem_toList.mpr found, rfl⟩
      have present := file_lookup_present ∅ distinct member
      rw [keyed id value found] at present
      rw [present]
      simp [found]

/-- Filing what some values of a map yield, each under its value's key. -/
theorem file_filterMap_lookup {map : KeyMap α} (f : α → Option β)
    (key : β → Nat)
    (keyed : ∀ id value record, map[id]? = some value →
      f value = some record → key record = id) (id : Nat) :
    (file key ∅ (map.toList.filterMap fun entry => f entry.2))[id]? =
      map[id]?.bind f := by
  have distinct : (map.toList.filterMap fun entry => f entry.2).Pairwise
      fun left right => key left ≠ key right := by
    rw [List.pairwise_filterMap]
    refine (toList_pairwise map).imp_of_mem ?_
    intro left right leftMember rightMember less first hfirst second hsecond
    rw [keyed left.1 left.2 first (mem_toList.mp leftMember) hfirst,
      keyed right.1 right.2 second (mem_toList.mp rightMember) hsecond]
    exact Nat.ne_of_lt less
  have absent : ∀ result : Option β, result = none →
      (∀ record ∈ map.toList.filterMap fun entry => f entry.2,
        key record ≠ id) →
      (file key ∅ (map.toList.filterMap fun entry => f entry.2))[id]? =
        result := by
    rintro _ rfl missing
    rw [file_lookup_absent ∅ missing]
    simp
  cases found : map[id]? with
  | none =>
      refine absent _ rfl fun record member => ?_
      obtain ⟨⟨other, value⟩, entry, hrecord⟩ := List.mem_filterMap.mp member
      have present := mem_toList.mp entry
      rw [keyed other value record present hrecord]
      rintro rfl
      simp [found] at present
  | some value =>
      cases hrecord : f value with
      | none =>
          refine absent _ hrecord fun record member => ?_
          obtain ⟨⟨other, otherValue⟩, entry, hother⟩ :=
            List.mem_filterMap.mp member
          have present := mem_toList.mp entry
          rw [keyed other otherValue record present hother]
          rintro rfl
          have same : otherValue = value :=
            Option.some.inj (present.symm.trans found)
          rw [same, hrecord] at hother
          simp at hother
      | some record =>
          have member : record ∈
              map.toList.filterMap fun entry => f entry.2 :=
            List.mem_filterMap.mpr
              ⟨(id, value), mem_toList.mpr found, hrecord⟩
          have present := file_lookup_present ∅ distinct member
          rw [keyed id value record found hrecord] at present
          simp [present, hrecord]

theorem keys_nodup (map : KeyMap α) : map.keys.Nodup := by
  refine (Std.ExtTreeMap.ordered_keys (t := map)).imp ?_
  intro left right less
  exact Nat.ne_of_lt (Nat.compare_eq_lt.mp less)

theorem mem_iff {map : KeyMap α} {id : Nat} :
    id ∈ map ↔ ∃ value, map[id]? = some value := by
  rw [Std.ExtTreeMap.mem_iff_isSome_getElem?, Option.isSome_iff_exists]

theorem mem_of_lookup {map : KeyMap α} {id : Nat} {value : α}
    (found : map[id]? = some value) : id ∈ map :=
  mem_iff.mpr ⟨value, found⟩

/-- Distinct keys of a map are no more than its entries. -/
theorem length_le_size (map : KeyMap α) {ids : List Nat}
    (distinct : ids.Nodup) (known : ∀ id ∈ ids, id ∈ map) :
    ids.length ≤ map.size := by
  have subset : ids ⊆ map.keys := fun id member =>
    Std.ExtTreeMap.mem_keys.mpr (known id member)
  have bound := (distinct.subperm subset).length_le
  rwa [Std.ExtTreeMap.length_keys] at bound

/-- A map has no more entries than a list that contains its keys. -/
theorem size_le_length (map : KeyMap α) {ids : List Nat}
    (included : ∀ id : Nat, id ∈ map → id ∈ ids) :
    map.size ≤ ids.length := by
  have subset : map.keys ⊆ ids := fun id member =>
    included id (Std.ExtTreeMap.mem_keys.mp member)
  have bound := ((keys_nodup map).subperm subset).length_le
  rwa [Std.ExtTreeMap.length_keys] at bound

/-- A map whose keys all belong to another is no larger. -/
theorem size_le_of_keys {first : KeyMap α} {second : KeyMap β}
    (included : ∀ id : Nat, id ∈ first → id ∈ second) :
    first.size ≤ second.size := by
  have bound := size_le_length first fun id member =>
    Std.ExtTreeMap.mem_keys.mpr (included id member)
  rwa [Std.ExtTreeMap.length_keys] at bound

/-- A map whose keys all belong to another that is no larger has all of the
other's keys. -/
theorem mem_of_size_le {first : KeyMap α} {second : KeyMap β}
    (included : ∀ id : Nat, id ∈ first → id ∈ second)
    (small : second.size ≤ first.size) {id : Nat} (member : id ∈ second) :
    id ∈ first := by
  have subset : first.keys ⊆ second.keys := fun other found =>
    Std.ExtTreeMap.mem_keys.mpr
      (included other (Std.ExtTreeMap.mem_keys.mp found))
  have same := ((keys_nodup first).subperm subset).perm_of_length_le (by
    rwa [Std.ExtTreeMap.length_keys, Std.ExtTreeMap.length_keys])
  exact Std.ExtTreeMap.mem_keys.mp
    (same.mem_iff.mpr (Std.ExtTreeMap.mem_keys.mpr member))

/-- A symmetric relation holds pairwise on the entries exactly when it holds
between any two different keys. -/
theorem pairwise_toList_iff (map : KeyMap α) {relation : α → α → Prop}
    (symmetric : ∀ left right, relation left right → relation right left) :
    (map.toList.Pairwise fun left right => relation left.2 right.2) ↔
      ∀ (left right : Nat) (first second : α), map[left]? = some first →
        map[right]? = some second → left ≠ right → relation first second := by
  constructor
  · intro pairwise left right first second hfirst hsecond different
    have symm : Std.Symm fun left right : Nat × α =>
        relation left.2 right.2 := ⟨fun left right => symmetric left.2 right.2⟩
    exact pairwise.forall (mem_toList.mpr hfirst) (mem_toList.mpr hsecond)
      fun same => different (Prod.mk.inj same).1
  · intro separate
    refine (toList_pairwise map).imp_of_mem ?_
    intro left right leftMember rightMember less
    exact separate left.1 right.1 left.2 right.2 (mem_toList.mp leftMember)
      (mem_toList.mp rightMember) (Nat.ne_of_lt less)

/-! ## Totals -/

/-- The sum of a measure over the values of a map. -/
def total (measure : α → Nat) (map : KeyMap α) : Nat :=
  (map.toList.map fun entry => measure entry.2).sum

@[simp] theorem total_empty (measure : α → Nat) :
    total measure (∅ : KeyMap α) = 0 := by
  have none : (∅ : KeyMap α).toList = [] :=
    List.eq_nil_iff_forall_not_mem.mpr fun entry member => by
      have found := mem_toList.mp member
      simp at found
  rw [total, none]
  rfl

theorem toList_insert_absent {map : KeyMap α} {key : Nat}
    (absent : map[key]? = none) (value : α) :
    (map.insert key value).toList.Perm ((key, value) :: map.toList) := by
  have distinct : ∀ map : KeyMap α, map.toList.Nodup := fun map =>
    (toList_pairwise map).imp fun less same => by simp [same] at less
  refine (List.perm_ext_iff_of_nodup (distinct _) ?_).mpr ?_
  · refine List.nodup_cons.mpr ⟨fun member => ?_, distinct _⟩
    rw [mem_toList, absent] at member
    cases member
  · intro entry
    rw [show entry = (entry.1, entry.2) from rfl, mem_toList, lookup_insert,
      List.mem_cons, mem_toList, Prod.mk.injEq]
    by_cases same : key = entry.1
    · rw [if_pos same, ← same, absent]
      simp [eq_comm]
    · simp [same, Ne.symm same]

theorem total_insert_absent {map : KeyMap α} {key : Nat}
    (absent : map[key]? = none) (measure : α → Nat) (value : α) :
    total measure (map.insert key value) =
      measure value + total measure map := by
  rw [total, ((toList_insert_absent absent value).map _).sum_nat, List.map_cons,
    List.sum_cons, total]

/-- What is taken out of a map is taken from its total. -/
theorem total_erase (measure : α → Nat) (map : KeyMap α) (key : Nat) :
    total measure (map.erase key) + (map[key]?.map measure).getD 0 =
      total measure map := by
  have absent : (map.erase key)[key]? = none := by simp
  cases found : map[key]? with
  | none =>
      have same : map.erase key = map := Std.ExtTreeMap.ext_getElem? fun id => by
        rw [lookup_erase]
        split
        · rename_i here
          rw [← here, found]
        · rfl
      rw [same]
      rfl
  | some value =>
      have same : (map.erase key).insert key value = map :=
        Std.ExtTreeMap.ext_getElem? fun id => by
          rw [lookup_insert, lookup_erase]
          split
          · rename_i here
            rw [← here, found]
          · rfl
      have grown := total_insert_absent absent measure value
      rw [same] at grown
      rw [grown, Option.map_some, Option.getD_some, Nat.add_comm]

/-- What is filed in a map takes the place of what was there. -/
theorem total_insert (measure : α → Nat) (map : KeyMap α) (key : Nat)
    (value : α) :
    total measure (map.insert key value) + (map[key]?.map measure).getD 0 =
      measure value + total measure map := by
  have absent : (map.erase key)[key]? = none := by simp
  have same : (map.erase key).insert key value = map.insert key value :=
    Std.ExtTreeMap.ext_getElem? fun id => by
      rw [lookup_insert, lookup_insert, lookup_erase]
      split <;> rfl
  have grown := total_insert_absent absent measure value
  rw [same] at grown
  rw [grown, Nat.add_assoc, total_erase]

end KeyMap

end Glasswyrm
