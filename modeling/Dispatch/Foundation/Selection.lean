import Mathlib.Algebra.Order.Ring.Rat
import Mathlib.Data.List.MinMax
import Mathlib.Data.List.Sort

/-! # Selection by score

The best-scored element of a list, the first one of equals.
-/

namespace Dispatch.Selection

section Sorting

variable {Item : Type u} {Score : Type v} [LinearOrder Score]

theorem head?_insertionSort {precedes : Item → Item → Prop}
    [DecidableRel precedes] {score : Item → Score}
    (byScore : ∀ left right, precedes left right ↔ score right ≤ score left)
    (items : List Item) :
    (items.insertionSort precedes).head? = items.argmax score := by
  induction items with
  | nil => rfl
  | cons item rest induction =>
    rw [List.insertionSort_cons, List.argmax_cons, ← induction]
    cases rest.insertionSort precedes with
    | nil => rfl
    | cons best others =>
      rw [List.orderedInsert_cons, List.head?_cons]
      by_cases behind : score best ≤ score item
      · rw [if_pos ((byScore item best).mpr behind)]
        simp [not_lt.mpr behind]
      · rw [if_neg (fun first => behind ((byScore item best).mp first))]
        simp [not_le.mp behind]

theorem argmax_eq_some_iff_split {score : Item → Score} {items : List Item}
    {winner : Item} :
    items.argmax score = some winner ↔
      ∃ before after, items = before ++ winner :: after ∧
        (∀ item ∈ before, score item < score winner) ∧
        ∀ item ∈ after, score item ≤ score winner := by
  induction items generalizing winner with
  | nil => simp
  | cons first rest induction =>
    rw [List.argmax_cons]
    constructor
    · intro chosen
      cases best : rest.argmax score with
      | none =>
        simp only [best, Option.some.injEq] at chosen
        rw [List.argmax_eq_none.mp best, ← chosen]
        exact ⟨[], [], rfl, by simp, by simp⟩
      | some later =>
        simp only [best] at chosen
        split at chosen
        · next worse =>
            cases chosen
            rcases induction.mp best with ⟨before, after, rfl, less, most⟩
            refine ⟨first :: before, after, rfl, ?_, most⟩
            exact List.forall_mem_cons.mpr ⟨worse, less⟩
        · next better =>
            cases chosen
            refine ⟨[], rest, rfl, by simp, ?_⟩
            intro item member
            exact (List.le_of_mem_argmax member best).trans
              (not_lt.mp better)
    · rintro ⟨before, after, split, less, most⟩
      cases before with
      | nil =>
        rw [List.nil_append, List.cons.injEq] at split
        rcases split with ⟨rfl, rfl⟩
        cases best : rest.argmax score with
        | none => rfl
        | some later =>
          have behind := most later (List.argmax_mem best)
          simp [not_lt.mpr behind]
      | cons head before =>
        rw [List.cons_append, List.cons.injEq] at split
        rcases split with ⟨rfl, rfl⟩
        rw [List.forall_mem_cons] at less
        rw [induction.mpr ⟨before, after, rfl, less.2, most⟩]
        simp [less.1]

theorem argmax_map {score : Item → Score} {items : List Item} {winner : Item}
    (change : Item → Item) (chosen : items.argmax score = some winner)
    (gains : score winner ≤ score (change winner))
    (loses : ∀ item ∈ items, item ≠ winner →
      score (change item) ≤ score item) :
    (items.map change).argmax score = some (change winner) := by
  rcases argmax_eq_some_iff_split.mp chosen with
    ⟨before, after, rfl, less, most⟩
  apply argmax_eq_some_iff_split.mpr
  refine ⟨before.map change, after.map change, by simp, ?_, ?_⟩
  · intro changed member
    rcases List.mem_map.mp member with ⟨item, earlier, rfl⟩
    have worse := less item earlier
    have other : item ≠ winner := by
      rintro rfl
      exact lt_irrefl _ worse
    exact ((loses item (by simp [earlier]) other).trans_lt worse).trans_le gains
  · intro changed member
    rcases List.mem_map.mp member with ⟨item, later, rfl⟩
    by_cases same : item = winner
    · rw [same]
    · exact ((loses item (by simp [later]) same).trans (most item later)).trans
        gains

theorem argmax_first {score : Item → Score} {items : List Item} {winner : Item}
    (chosen : items.argmax score = some winner) {item : Item}
    (member : item ∈ items) :
    score item ≤ score winner ∧
      (score item = score winner → item ≠ winner →
        [winner, item].Sublist items) := by
  rcases argmax_eq_some_iff_split.mp chosen with
    ⟨before, after, rfl, less, most⟩
  have position : item ∈ before ∨ item = winner ∨ item ∈ after := by
    simpa using member
  rcases position with earlier | same | later
  · have worse := less item earlier
    exact ⟨worse.le, fun level => absurd level worse.ne⟩
  · exact ⟨same ▸ le_refl _, fun _ other => absurd same other⟩
  · refine ⟨most item later, fun _ _ => ?_⟩
    have follows : [winner, item].Sublist (winner :: after) :=
      (List.singleton_sublist.mpr later).cons_cons winner
    exact follows.trans (List.sublist_append_right before _)

end Sorting

/-! ## Rounded scores

Scores are computed in floating point. All that selection needs to know about
the format is how it rounds. -/

structure Rounding where
  round : ℚ → ℚ
  monotone : Monotone round
  zero : round 0 = 0
  idempotent : ∀ value, round (round value) = round value
  eq_of_sub : ∀ left right, round (round left - round right) = 0 →
    round left = round right

namespace Rounding

variable (rounding : Rounding)

def exact : Rounding where
  round := id
  monotone := monotone_id
  zero := rfl
  idempotent _ := rfl
  eq_of_sub _ _ := sub_eq_zero.mp

theorem nonneg {value : ℚ} (nonneg : 0 ≤ value) : 0 ≤ rounding.round value := by
  rw [← rounding.zero]
  exact rounding.monotone nonneg

theorem sub_nonpos_iff (left right : ℚ) :
    rounding.round (rounding.round left - rounding.round right) ≤ 0 ↔
      rounding.round left ≤ rounding.round right := by
  constructor
  · intro nonpos
    by_contra greater
    have positive := rounding.nonneg (sub_nonneg.mpr (not_le.mp greater).le)
    have equal := rounding.eq_of_sub left right (nonpos.antisymm positive)
    exact greater equal.le
  · intro less
    rw [← rounding.zero]
    exact rounding.monotone (sub_nonpos.mpr less)

theorem le_round_add {value added : ℚ} (isNumber : rounding.round value = value)
    (nonneg : 0 ≤ added) : value ≤ rounding.round (value + added) := by
  calc
    value = rounding.round value := isNumber.symm
    _ ≤ rounding.round (value + added) :=
      rounding.monotone (le_add_of_nonneg_right nonneg)

end Rounding

end Dispatch.Selection
