import Dispatch.Foundation.OrderedMap

/-! # Iterating over a map that changes

An ECMAScript `Map` is kept as a list of slots.
-/

namespace Dispatch

structure MapData (Key Value : Type) where
  slots : List (Option (Key × Value))
  nodup : ((slots.filterMap id).map Prod.fst).Nodup

namespace MapData

variable {Key Value : Type} [DecidableEq Key]

def toMap (data : MapData Key Value) : OrderedMap Key Value where
  entries := data.slots.filterMap id
  nodup := data.nodup

theorem filterMap_filter (slots : List (Option (Key × Value))) (key : Key) :
    (slots.map (Option.filter fun entry => entry.1 ≠ key)).filterMap id =
      (slots.filterMap id).filter fun entry => entry.1 ≠ key := by
  induction slots with
  | nil => rfl
  | cons slot rest induction =>
    cases slot with
    | none => exact induction
    | some entry =>
      rw [List.map_cons]
      by_cases same : entry.1 = key
      · have emptied : Option.filter (fun entry => entry.1 ≠ key)
            (some entry) = none := by simp [same]
        rw [emptied]
        change (rest.map _).filterMap id =
          (entry :: rest.filterMap id).filter _
        rw [List.filter_cons_of_neg (by simp [same])]
        exact induction
      · have kept : Option.filter (fun entry => entry.1 ≠ key)
            (some entry) = some entry := by simp [same]
        rw [kept]
        change entry :: (rest.map _).filterMap id =
          (entry :: rest.filterMap id).filter _
        rw [List.filter_cons_of_pos (by simp [same]), induction]

/-- `map.delete(key)` -/
def delete (data : MapData Key Value) (key : Key) : MapData Key Value where
  slots := data.slots.map (Option.filter fun entry => entry.1 ≠ key)
  nodup := by
    rw [filterMap_filter]
    exact data.nodup.sublist (List.filter_sublist.map Prod.fst)

theorem toMap_delete (data : MapData Key Value) (key : Key) :
    (data.delete key).toMap = data.toMap.delete key :=
  OrderedMap.ext_entries (filterMap_filter data.slots key)

/-! ## Iteration -/

section Iteration

variable {State : Type}

def forOf (data : State → MapData Key Value)
    (body : Key × Value → State → State) : Nat → Nat → State → State
  | 0, _, state => state
  | fuel + 1, index, state =>
    match (data state).slots[index]? with
    | none => state
    | some none => forOf data body fuel (index + 1) state
    | some (some entry) =>
      forOf data body fuel (index + 1) (body entry state)

theorem filter_of_later {data : MapData Key Value} {index : Nat}
    {entry : Key × Value} {rest : List (Option (Key × Value))}
    (split : data.slots.drop index = some entry :: rest) :
    rest.map (Option.filter fun other => other.1 ≠ entry.1) = rest := by
  have distinct : (((some entry :: rest).filterMap id).map Prod.fst).Nodup := by
    have all := data.nodup
    rw [← List.take_append_drop index data.slots, List.filterMap_append,
      List.map_append, split] at all
    exact (List.nodup_append.mp all).2.1
  have absent : entry.1 ∉ (rest.filterMap id).map Prod.fst :=
    (List.nodup_cons.mp distinct).1
  refine (List.map_congr_left fun slot member => ?_).trans (List.map_id rest)
  cases slot with
  | none => rfl
  | some other =>
    have different : other.1 ≠ entry.1 := fun same =>
      absent (same ▸ List.mem_map_of_mem
        (List.mem_filterMap.mpr ⟨some other, member, rfl⟩))
    simp [different]

theorem forOf_eq_foldl {data : State → MapData Key Value}
    {body : Key × Value → State → State}
    (own : ∀ entry state, data (body entry state) = data state ∨
      data (body entry state) = (data state).delete entry.1)
    (remaining : List (Option (Key × Value))) {fuel index : Nat}
    {state : State} (split : (data state).slots.drop index = remaining)
    (enough : remaining.length ≤ fuel) :
    forOf data body fuel index state =
      (remaining.filterMap id).foldl (fun state entry => body entry state)
        state := by
  induction remaining generalizing fuel index state with
  | nil =>
    cases fuel with
    | zero => rfl
    | succ fuel =>
      have ended : (data state).slots[index]? = none :=
        List.getElem?_eq_none (List.drop_eq_nil_iff.mp split)
      rw [forOf, ended]
      rfl
  | cons slot rest induction =>
    cases fuel with
    | zero => simp at enough
    | succ fuel =>
      have here : (data state).slots[index]? = some slot := by
        rw [← List.head?_drop, split]
        rfl
      have later : (data state).slots.drop (index + 1) = rest := by
        rw [← List.drop_drop, split]
        rfl
      have fewer : rest.length ≤ fuel := Nat.le_of_succ_le_succ enough
      rw [forOf, here]
      cases slot with
      | none => exact induction later fewer
      | some entry =>
        refine induction ?_ fewer
        rcases own entry state with same | deleted
        · rw [same]
          exact later
        · rw [deleted]
          have kept := filter_of_later split
          rw [delete, ← List.map_drop, later]
          exact kept

end Iteration

end MapData

end Dispatch
