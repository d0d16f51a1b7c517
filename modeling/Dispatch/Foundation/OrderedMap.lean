import Mathlib.Algebra.BigOperators.Group.List.Basic
import Mathlib.Data.List.Basic
import Mathlib.Data.List.Nodup
import Mathlib.Data.List.Perm.Basic

/-! # Insertion-ordered maps

Finite maps that remember the order in which their keys were first set, as
ECMAScript's `Map` does.
-/

namespace Dispatch

structure OrderedMap (Key : Type u) (Value : Type v) where
  entries : List (Key × Value)
  nodup : (entries.map Prod.fst).Nodup

namespace OrderedMap

variable {Key : Type u} {Value : Type v}

/-! ## Operations -/

def empty : OrderedMap Key Value where
  entries := []
  nodup := .nil

def keys (map : OrderedMap Key Value) : List Key :=
  map.entries.map Prod.fst

def values (map : OrderedMap Key Value) : List Value :=
  map.entries.map Prod.snd

def find? (map : OrderedMap Key Value) (test : Value → Bool) :
    Option (Key × Value) :=
  map.entries.find? fun entry => test entry.2

variable [DecidableEq Key]

def get? (map : OrderedMap Key Value) (key : Key) : Option Value :=
  map.entries.lookup key

def modify (map : OrderedMap Key Value) (key : Key)
    (change : Value → Value) : OrderedMap Key Value where
  entries := map.entries.map fun entry =>
    if entry.1 = key then (entry.1, change entry.2) else entry
  nodup := by
    have sameKeys : (map.entries.map fun entry =>
        if entry.1 = key then (entry.1, change entry.2) else entry).map
          Prod.fst = map.entries.map Prod.fst := by
      rw [List.map_map]
      apply List.map_congr_left
      intro entry _
      simp only [Function.comp_apply]
      split <;> rfl
    rw [sameKeys]
    exact map.nodup

theorem keys_modify (map : OrderedMap Key Value) (key : Key)
    (change : Value → Value) : (map.modify key change).keys = map.keys := by
  simp only [keys, modify, List.map_map]
  apply List.map_congr_left
  intro entry _
  simp only [Function.comp_apply]
  split <;> rfl

def delete (map : OrderedMap Key Value) (key : Key) :
    OrderedMap Key Value where
  entries := map.entries.filter fun entry => entry.1 ≠ key
  nodup := (List.filter_sublist.map Prod.fst).nodup map.nodup

theorem keys_delete (map : OrderedMap Key Value) (key : Key) :
    (map.delete key).keys.Sublist map.keys :=
  List.filter_sublist.map Prod.fst

def append (map : OrderedMap Key Value) (key : Key) (value : Value)
    (fresh : key ∉ map.keys) : OrderedMap Key Value where
  entries := map.entries ++ [(key, value)]
  nodup := by
    rw [List.map_append, List.nodup_append]
    refine ⟨map.nodup, by simp, ?_⟩
    intro left leftMember right rightMember equal
    simp only [List.map_cons, List.map_nil, List.mem_singleton] at rightMember
    exact fresh (rightMember ▸ equal ▸ leftMember)

def set (map : OrderedMap Key Value) (key : Key) (value : Value) :
    OrderedMap Key Value :=
  if fresh : key ∉ map.keys then map.append key value fresh
  else map.modify key fun _ => value

theorem keys_set (map : OrderedMap Key Value) (key : Key) (value : Value) :
    (map.set key value).keys.Sublist (map.keys ++ [key]) := by
  unfold set
  split
  · simp [append, keys]
  · rw [keys_modify]
    exact List.sublist_append_left _ _

def insert? (map : OrderedMap Key Value) (key : Key) (value : Value) :
    Option (OrderedMap Key Value) :=
  if fresh : key ∉ map.keys then some (map.append key value fresh) else none

/-! ## Lookup -/

theorem lookup_eq_some_iff {entries : List (Key × Value)}
    (nodup : (entries.map Prod.fst).Nodup) (key : Key) (value : Value) :
    entries.lookup key = some value ↔ (key, value) ∈ entries := by
  induction entries with
  | nil => simp
  | cons entry rest induction =>
    have parts := List.nodup_cons.mp nodup
    rcases entry with ⟨other, stored⟩
    by_cases equal : key = other
    · subst equal
      have absent : (key, value) ∉ rest := fun member =>
        parts.1 (List.mem_map.mpr ⟨_, member, rfl⟩)
      simp [absent, eq_comm]
    · have test : (key == other) = false := by simpa using equal
      rw [List.lookup_cons, test]
      simpa [equal] using induction parts.2

theorem get?_eq_some_iff (map : OrderedMap Key Value) (key : Key)
    (value : Value) :
    map.get? key = some value ↔ (key, value) ∈ map.entries :=
  lookup_eq_some_iff map.nodup key value

theorem mem_keys_iff (map : OrderedMap Key Value) (key : Key) :
    key ∈ map.keys ↔ ∃ value, map.get? key = some value := by
  simp only [keys, List.mem_map, get?_eq_some_iff]
  constructor
  · rintro ⟨⟨_, value⟩, member, rfl⟩
    exact ⟨value, member⟩
  · rintro ⟨value, member⟩
    exact ⟨_, member, rfl⟩

theorem mem_values_iff (map : OrderedMap Key Value) (value : Value) :
    value ∈ map.values ↔ ∃ key, map.get? key = some value := by
  simp [values, get?_eq_some_iff]

theorem get?_eq_none_iff (map : OrderedMap Key Value) (key : Key) :
    map.get? key = none ↔ key ∉ map.keys := by
  rw [mem_keys_iff, Option.eq_none_iff_forall_not_mem]
  simp

private theorem get?_eq_of_mem {left right : OrderedMap Key Value} {key : Key}
    (agree : ∀ value, (key, value) ∈ left.entries ↔
      (key, value) ∈ right.entries) : left.get? key = right.get? key := by
  apply Option.ext
  intro value
  rw [get?_eq_some_iff, get?_eq_some_iff]
  exact agree value

@[simp] theorem get?_empty (key : Key) :
    (empty : OrderedMap Key Value).get? key = none := rfl

@[simp] theorem get?_modify (map : OrderedMap Key Value) (key other : Key)
    (change : Value → Value) :
    (map.modify key change).get? other =
      if other = key then (map.get? other).map change else map.get? other := by
  by_cases equal : other = key
  · subst equal
    rw [if_pos rfl]
    apply Option.ext
    intro value
    rw [get?_eq_some_iff, Option.map_eq_some_iff]
    constructor
    · intro member
      rcases List.mem_map.mp member with ⟨⟨stored, old⟩, oldMember, pair⟩
      by_cases same : stored = other
      · subst same
        simp only [if_pos] at pair
        exact ⟨old, (get?_eq_some_iff ..).mpr oldMember, (Prod.mk.inj pair).2⟩
      · simp only [if_neg same] at pair
        exact absurd (Prod.mk.inj pair).1 same
    · rintro ⟨old, found, rfl⟩
      exact List.mem_map.mpr
        ⟨_, (get?_eq_some_iff ..).mp found, by simp⟩
  · rw [if_neg equal]
    apply get?_eq_of_mem
    intro value
    constructor
    · intro member
      rcases List.mem_map.mp member with ⟨⟨stored, old⟩, oldMember, pair⟩
      by_cases same : stored = key
      · simp only [if_pos same] at pair
        exact absurd ((Prod.mk.inj pair).1.symm.trans same) equal
      · simp only [if_neg same] at pair
        exact pair ▸ oldMember
    · intro member
      exact List.mem_map.mpr ⟨_, member, by simp [equal]⟩

@[simp] theorem get?_delete (map : OrderedMap Key Value) (key other : Key) :
    (map.delete key).get? other =
      if other = key then none else map.get? other := by
  by_cases equal : other = key
  · subst equal
    rw [if_pos rfl, Option.eq_none_iff_forall_not_mem]
    intro value found
    have member := (get?_eq_some_iff ..).mp found
    simp [delete] at member
  · rw [if_neg equal]
    apply get?_eq_of_mem
    intro value
    simp [delete, equal]

@[simp] theorem get?_append (map : OrderedMap Key Value) (key other : Key)
    (value : Value) (fresh : key ∉ map.keys) :
    (map.append key value fresh).get? other =
      if other = key then some value else map.get? other := by
  by_cases equal : other = key
  · subst equal
    rw [if_pos rfl, get?_eq_some_iff]
    exact List.mem_append_right _ (List.mem_singleton.mpr rfl)
  · rw [if_neg equal]
    apply get?_eq_of_mem
    intro stored
    simp [append, equal]

@[simp] theorem get?_set (map : OrderedMap Key Value) (key other : Key)
    (value : Value) :
    (map.set key value).get? other =
      if other = key then some value else map.get? other := by
  unfold set
  split
  · exact map.get?_append key other value _
  · next present =>
      rw [get?_modify]
      by_cases equal : other = key
      · subst equal
        rcases (map.mem_keys_iff other).mp (not_not.mp present) with
          ⟨old, found⟩
        simp [found]
      · simp [equal]

theorem get?_set_eq_some_iff {map : OrderedMap Key Value} {key : Key}
    (fresh : map.get? key = none) (value : Value) (other : Key)
    (found : Value) :
    (map.set key value).get? other = some found ↔
      other = key ∧ found = value ∨ map.get? other = some found := by
  rw [get?_set]
  split_ifs with same
  · subst same
    simp [fresh, eq_comm]
  · simp [same]

theorem get?_modify_eq_some_iff {map : OrderedMap Key Value} {key : Key}
    {value : Value} (stored : map.get? key = some value)
    (change : Value → Value) (other : Key) (found : Value) :
    (map.modify key change).get? other = some found ↔
      other = key ∧ found = change value ∨
        other ≠ key ∧ map.get? other = some found := by
  rw [get?_modify]
  split_ifs with same
  · subst same
    simp [stored, eq_comm]
  · simp [same]

theorem insert?_eq_some {map : OrderedMap Key Value} {key : Key}
    {value : Value} {inserted : OrderedMap Key Value}
    (success : map.insert? key value = some inserted) :
    map.get? key = none ∧ inserted = map.set key value := by
  unfold insert? at success
  split at success
  · next fresh =>
      cases success
      exact ⟨(map.get?_eq_none_iff key).mpr fresh, by simp [set, fresh]⟩
  · cases success

theorem insert?_of_fresh (map : OrderedMap Key Value) {key : Key}
    (value : Value) (fresh : map.get? key = none) :
    map.insert? key value = some (map.set key value) := by
  have absent := (map.get?_eq_none_iff key).mp fresh
  simp [insert?, set, absent]

/-! ## Searching by value -/

theorem get?_of_find? {map : OrderedMap Key Value} {test : Value → Bool}
    {key : Key} {value : Value} (found : map.find? test = some (key, value)) :
    map.get? key = some value ∧ test value = true := by
  refine ⟨(get?_eq_some_iff ..).mpr (List.mem_of_find?_eq_some found), ?_⟩
  exact List.find?_some (p := fun entry : Key × Value => test entry.2) found

theorem not_test_of_find?_eq_none {map : OrderedMap Key Value}
    {test : Value → Bool} (absent : map.find? test = none) {key : Key}
    {value : Value} (stored : map.get? key = some value) :
    test value = false := by
  have refuted := List.find?_eq_none.mp absent (key, value)
    ((get?_eq_some_iff ..).mp stored)
  simpa using refuted

/-! ## Representing values

A map in which every value is replaced by its representation is updated and
searched like the map it represents. -/

section Represented

variable {Represented : Type w} {represent : Value → Represented}

omit [DecidableEq Key] in
theorem ext_entries {left right : OrderedMap Key Value}
    (same : left.entries = right.entries) : left = right := by
  cases left
  cases right
  cases same
  rfl

def mapValues (represent : Value → Represented) (map : OrderedMap Key Value) :
    OrderedMap Key Represented where
  entries := map.entries.map fun entry => (entry.1, represent entry.2)
  nodup := by
    rw [List.map_map]
    exact map.nodup

end Represented

/-! ## Contents up to order

An update changes the contents by the one entry it is about; sums and counts
over a map are followed through updates with these. -/

theorem perm_delete {map : OrderedMap Key Value} {key : Key} {value : Value}
    (stored : map.get? key = some value) :
    map.entries.Perm ((key, value) :: (map.delete key).entries) := by
  apply (List.perm_ext_iff_of_nodup (List.Nodup.of_map _ map.nodup) ?_).mpr
  · rintro ⟨other, otherValue⟩
    have member := (map.get?_eq_some_iff key value).mp stored
    by_cases equal : other = key
    · subst equal
      have same : (other, otherValue) ∈ map.entries ↔ otherValue = value := by
        rw [← get?_eq_some_iff, stored, Option.some.injEq, eq_comm]
      simp [delete, same]
    · simp [delete, equal]
  · apply List.nodup_cons.mpr
    refine ⟨by simp [delete], ?_⟩
    exact (List.Nodup.of_map _ (map.delete key).nodup)

theorem delete_entries_of_fresh {map : OrderedMap Key Value} {key : Key}
    (fresh : map.get? key = none) :
    (map.delete key).entries = map.entries := by
  apply List.filter_eq_self.mpr
  rintro ⟨other, value⟩ member
  have present := (get?_eq_some_iff ..).mpr member
  have different : other ≠ key := by
    rintro rfl
    rw [fresh] at present
    cases present
  simpa using different

theorem perm_set (map : OrderedMap Key Value) (key : Key) (value : Value) :
    (map.set key value).entries.Perm
      ((key, value) :: (map.delete key).entries) := by
  have stored : (map.set key value).get? key = some value := by simp
  have sameRest : ((map.set key value).delete key).entries.Perm
      (map.delete key).entries := by
    apply (List.perm_ext_iff_of_nodup (List.Nodup.of_map _ (nodup _))
      (List.Nodup.of_map _ (nodup _))).mpr
    rintro ⟨other, otherValue⟩
    rw [← get?_eq_some_iff, ← get?_eq_some_iff]
    by_cases equal : other = key <;> simp [equal]
  exact (perm_delete stored).trans (sameRest.cons _)

/-! ## Sums over a map -/

section Sum

variable {Amount : Type w} [AddCommMonoid Amount]
  (weight : Value → Amount)

def sum (map : OrderedMap Key Value) : Amount :=
  (map.values.map weight).sum

omit [DecidableEq Key] in
theorem sum_eq_of_perm {map : OrderedMap Key Value}
    {entries : List (Key × Value)} (perm : map.entries.Perm entries) :
    sum weight map = (entries.map fun entry => weight entry.2).sum := by
  rw [sum, values, List.map_map]
  exact (perm.map _).sum_eq

theorem sum_delete {map : OrderedMap Key Value} {key : Key} {value : Value}
    (stored : map.get? key = some value) :
    sum weight map = weight value + sum weight (map.delete key) := by
  rw [sum_eq_of_perm weight (perm_delete stored), List.map_cons, List.sum_cons,
    ← sum_eq_of_perm weight (.refl _)]

theorem sum_delete_of_fresh {map : OrderedMap Key Value} {key : Key}
    (fresh : map.get? key = none) :
    sum weight (map.delete key) = sum weight map := by
  rw [sum_eq_of_perm weight (.refl _), delete_entries_of_fresh fresh,
    ← sum_eq_of_perm weight (.refl _)]

theorem sum_set (map : OrderedMap Key Value) (key : Key) (value : Value) :
    sum weight (map.set key value) =
      weight value + sum weight (map.delete key) := by
  rw [sum_eq_of_perm weight (perm_set map key value), List.map_cons,
    List.sum_cons, ← sum_eq_of_perm weight (.refl _)]

end Sum

end OrderedMap

end Dispatch
