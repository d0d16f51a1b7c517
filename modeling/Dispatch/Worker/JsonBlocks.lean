import Dispatch.Foundation.Regex
import Dispatch.Worker.TaskExecutors

/-! # Blocks of JSON

All executors look for JSON with one regular expression.
-/

namespace Dispatch.Worker

/-! ## The regular expression -/

def isOther (unit : UInt16) : Bool :=
  unit ≠ openingBrace && unit ≠ closingBrace

namespace JsonPattern

def opening : Regex UInt16 := .one (· = openingBrace)

def closing : Regex UInt16 := .one (· = closingBrace)

/-- `[^{}]*` -/
def others : Regex UInt16 := .star (.one isOther)

/-- `\{[^{}]*\}[^{}]*` -/
def group : Regex UInt16 :=
  .seq opening (.seq others (.seq closing others))

end JsonPattern

/-- `\{[^{}]*(?:\{[^{}]*\}[^{}]*)*\}` -/
def jsonPattern : Regex UInt16 :=
  .seq JsonPattern.opening
    (.seq JsonPattern.others
      (.seq (.star JsonPattern.group) JsonPattern.closing))

/-! ## The scan -/

def level (depth : Nat) (unit : UInt16) : Nat :=
  if unit = openingBrace then depth + 1
  else if unit = closingBrace then depth - 1
  else depth

def enclosed (depth : Nat) : JsString → Option JsString
  | [] => none
  | unit :: rest =>
    if level depth unit = 0 then some [unit]
    else (enclosed (level depth unit) rest).map (unit :: ·)

def deepest (depth : Nat) : JsString → Nat
  | [] => depth
  | unit :: rest => max depth (deepest (level depth unit) rest)

def scanFrom : Nat → JsString → List JsString
  | _, [] => []
  | skipped + 1, _ :: rest => scanFrom skipped rest
  | 0, unit :: rest =>
    if unit = openingBrace then
      match enclosed 1 rest with
      | some inner =>
        if deepest 1 inner ≤ 2 then
          (unit :: inner) :: scanFrom inner.length rest
        else scanFrom 0 rest
      | none => scanFrom 0 rest
    else scanFrom 0 rest

def scan (input : JsString) : List JsString :=
  scanFrom 0 input

def open? : Nat → JsString → Option Nat
  | depth, [] => some depth
  | depth, unit :: rest =>
    if unit = closingBrace ∧ depth = 0 then none
    else open? (level depth unit) rest

def Balanced (text : JsString) : Prop :=
  open? 0 text = some 0

instance (text : JsString) : Decidable (Balanced text) :=
  inferInstanceAs (Decidable (_ = _))

/-! ## Backtracking finds the blocks -/

theorem unit_cases (unit : UInt16) :
    unit = openingBrace ∨ unit = closingBrace ∨ isOther unit = true := by
  unfold isOther
  by_cases opens : unit = openingBrace
  · exact .inl opens
  · by_cases closes : unit = closingBrace
    · exact .inr (.inl closes)
    · simp [opens, closes]

theorem isOther_iff {unit : UInt16} :
    isOther unit = true ↔ unit ≠ openingBrace ∧ unit ≠ closingBrace := by
  simp [isOther]

section BlockRest

variable (nested : Bool) (rest : JsString)

theorem blockRest_opening :
    blockRest nested (openingBrace :: rest) =
      if nested then none
      else (blockRest true rest).map (openingBrace :: ·) := rfl

theorem blockRest_closing :
    blockRest nested (closingBrace :: rest) =
      if nested then (blockRest false rest).map (closingBrace :: ·)
      else some [closingBrace] := rfl

theorem blockRest_other {unit : UInt16} (other : isOther unit = true) :
    blockRest nested (unit :: rest) =
      (blockRest nested rest).map (unit :: ·) := by
  rcases isOther_iff.mp other with ⟨opens, closes⟩
  rw [blockRest, if_neg opens, if_neg closes]

end BlockRest

namespace JsonPattern

section Run

variable {Result : Type} (next : JsString → Option Result) (rest : JsString)

@[simp] theorem run_closing :
    closing.run next (closingBrace :: rest) = next rest := rfl

theorem run_opening_of_ne {unit : UInt16} (different : unit ≠ openingBrace) :
    opening.run next (unit :: rest) = none := by
  rw [opening, Regex.run_one_cons, if_neg (by simp [different])]

theorem run_closing_of_ne {unit : UInt16} (different : unit ≠ closingBrace) :
    closing.run next (unit :: rest) = none := by
  rw [closing, Regex.run_one_cons, if_neg (by simp [different])]

def AtBrace (next : JsString → Option Result) : Prop :=
  ∀ unit rest, isOther unit = true → next (unit :: rest) = none

variable {next}

theorem run_others (atBrace : AtBrace next) (input : JsString) :
    others.run next input = next (input.dropWhile isOther) :=
  Regex.run_star_one atBrace

theorem run_others_cons (atBrace : AtBrace next) {unit : UInt16}
    (other : isOther unit = true) :
    others.run next (unit :: rest) = others.run next rest := by
  rw [run_others atBrace, run_others atBrace,
    List.dropWhile_cons_of_pos other]

theorem run_others_brace (atBrace : AtBrace next) {unit : UInt16}
    (brace : isOther unit = false) :
    others.run next (unit :: rest) = next (unit :: rest) := by
  rw [run_others atBrace, List.dropWhile_cons_of_neg (by simp [brace])]

end Run

theorem atBrace_closing {Result : Type} (next : JsString → Option Result) :
    AtBrace (closing.run next) :=
  fun _ rest other => run_closing_of_ne next rest (isOther_iff.mp other).2

def rest : Regex UInt16 := .seq (.star group) closing

theorem run_rest_of_ne {unit : UInt16} (input : JsString)
    (different : unit ≠ openingBrace) :
    rest.run some (unit :: input) = closing.run some (unit :: input) := by
  rw [rest, Regex.run_seq, Regex.run_star, group, Regex.run_seq,
    run_opening_of_ne _ _ different, Option.none_or]

theorem atBrace_rest : AtBrace (rest.run (some : JsString → _)) := by
  intro unit input other
  rcases isOther_iff.mp other with ⟨opens, closes⟩
  rw [run_rest_of_ne input opens, run_closing_of_ne some input closes]

def again (start : JsString) : JsString → Option JsString := fun after =>
  if after.length < start.length then rest.run some after else none

theorem atBrace_again (start : JsString) : AtBrace (again start) := by
  intro unit input other
  rw [again, atBrace_rest unit input other, ite_self]

theorem run_others_again {start input : JsString}
    (shorter : input.length < start.length) :
    others.run (again start) input = others.run (rest.run some) input := by
  have dropped := (input.dropWhile_suffix isOther).length_le
  rw [run_others (atBrace_again start), run_others atBrace_rest, again,
    if_pos (by omega)]

theorem run_rest_opening (input : JsString) :
    rest.run some (openingBrace :: input) =
      others.run (closing.run (others.run (again (openingBrace :: input))))
        input := by
  rw [rest, Regex.run_seq, Regex.run_star,
    run_closing_of_ne some input (by decide), Option.or_none]
  rfl

theorem map_drop_cons (unit : UInt16) (input : JsString)
    (block : Option JsString) :
    (block.map (unit :: ·)).map
        (fun block => (unit :: input).drop block.length) =
      block.map fun block => input.drop block.length := by
  rw [Option.map_map]
  rfl

theorem run_others_eq (input : JsString) :
    others.run (rest.run some) input =
        (blockRest false input).map (fun block => input.drop block.length) ∧
      ∀ start : JsString, input.length < start.length →
        others.run (closing.run (others.run (again start))) input =
          (blockRest true input).map fun block => input.drop block.length := by
  induction input with
  | nil =>
    refine ⟨?_, fun start _ => ?_⟩
    · rw [run_others atBrace_rest]
      rfl
    · rw [run_others (atBrace_closing _)]
      rfl
  | cons unit input induction =>
    rcases induction with ⟨outside, inside⟩
    rcases unit_cases unit with rfl | rfl | other
    · refine ⟨?_, fun start _ => ?_⟩
      · rw [run_others_brace _ atBrace_rest rfl, run_rest_opening,
          inside _ (Nat.lt_succ_self _), blockRest_opening]
        exact (map_drop_cons ..).symm
      · rw [run_others_brace _ (atBrace_closing _) rfl,
          run_closing_of_ne _ _ (by decide)]
        rfl
    · refine ⟨?_, fun start shorter => ?_⟩
      · rw [run_others_brace _ atBrace_rest rfl,
          run_rest_of_ne input (by decide)]
        rfl
      · have earlier : input.length < start.length :=
          (Nat.lt_succ_self _).trans shorter
        rw [run_others_brace _ (atBrace_closing _) rfl, run_closing,
          run_others_again earlier, outside, blockRest_closing]
        exact (map_drop_cons ..).symm
    · refine ⟨?_, fun start shorter => ?_⟩
      · rw [run_others_cons _ atBrace_rest other, outside,
          blockRest_other _ _ other, map_drop_cons]
      · have earlier : input.length < start.length :=
          (Nat.lt_succ_self _).trans shorter
        rw [run_others_cons _ (atBrace_closing _) other, inside start earlier,
          blockRest_other _ _ other, map_drop_cons]

end JsonPattern

theorem isPrefix_blockRest {nested : Bool} {input block : JsString}
    (found : blockRest nested input = some block) : block <+: input := by
  induction input generalizing nested block with
  | nil => cases found
  | cons unit input induction =>
    have longer : ∀ nested, (blockRest nested input).map (unit :: ·) =
        some block → block <+: unit :: input := by
      intro nested mapped
      rcases Option.map_eq_some_iff.mp mapped with ⟨shorter, taken, rfl⟩
      exact List.cons_prefix_cons.mpr ⟨rfl, induction taken⟩
    rcases unit_cases unit with rfl | rfl | other
    · cases nested with
      | true => cases found
      | false => exact longer true found
    · cases nested with
      | true => exact longer false found
      | false =>
        cases found
        exact ⟨input, rfl⟩
    · rw [blockRest_other _ _ other] at found
      exact longer nested found

theorem exec_opening (input : JsString) :
    jsonPattern.exec (openingBrace :: input) =
      (blockRest false input).map (openingBrace :: ·) := by
  have taken := (JsonPattern.run_others_eq input).1
  unfold Regex.exec
  change ((JsonPattern.others.run (JsonPattern.rest.run some) input).map _) = _
  rw [taken, Option.map_map]
  cases found : blockRest false input with
  | none => rfl
  | some block =>
    rcases isPrefix_blockRest found with ⟨after, rfl⟩
    simp only [Option.map_some, Function.comp, List.drop_left,
      List.length_cons, List.length_append]
    have size : block.length + after.length + 1 - after.length =
        block.length + 1 := by
      omega
    rw [size, List.take_succ_cons, List.take_left]

theorem exec_of_ne {unit : UInt16} (input : JsString)
    (different : unit ≠ openingBrace) :
    jsonPattern.exec (unit :: input) = none := by
  rw [Regex.exec, jsonPattern, Regex.run_seq,
    JsonPattern.run_opening_of_ne _ _ different]
  rfl

theorem matchAllFrom_jsonPattern (skipped : Nat) (input : JsString) :
    jsonPattern.matchAllFrom skipped input = blocksFrom skipped input := by
  induction input generalizing skipped with
  | nil => cases skipped <;> rfl
  | cons unit input induction =>
    cases skipped with
    | succ skipped => exact induction skipped
    | zero =>
      rw [Regex.matchAllFrom, blocksFrom]
      by_cases opens : unit = openingBrace
      · subst opens
        rw [exec_opening, if_pos rfl]
        cases blockRest false input with
        | none => exact induction 0
        | some block => exact congrArg _ (induction block.length)
      · rw [exec_of_ne input opens, if_neg opens]
        exact induction 0

theorem matchAll_jsonPattern (input : JsString) :
    jsonPattern.matchAll input = blocks input :=
  matchAllFrom_jsonPattern 0 input

/-! ## The blocks are those of the scan -/

@[simp] theorem level_opening (depth : Nat) :
    level depth openingBrace = depth + 1 := rfl

@[simp] theorem level_closing (depth : Nat) :
    level depth closingBrace = depth - 1 := rfl

theorem level_other (depth : Nat) {unit : UInt16}
    (other : isOther unit = true) : level depth unit = depth := by
  rcases isOther_iff.mp other with ⟨opens, closes⟩
  rw [level, if_neg opens, if_neg closes]

theorem le_deepest (depth : Nat) (text : JsString) :
    depth ≤ deepest depth text := by
  cases text with
  | nil => exact le_rfl
  | cons unit rest => exact le_max_left ..

theorem deepest_cons_le {depth bound : Nat} (bounded : depth ≤ bound)
    (unit : UInt16) (rest : JsString) :
    deepest depth (unit :: rest) ≤ bound ↔
      deepest (level depth unit) rest ≤ bound := by
  rw [deepest, max_le_iff, and_iff_right bounded]

def shallow (depth : Nat) (input : JsString) : Option JsString :=
  (enclosed depth input).filter fun inner => deepest depth inner ≤ 2

theorem shallow_cons {depth : Nat} (bounded : depth ≤ 2) {unit : UInt16}
    (input : JsString) (remains : level depth unit ≠ 0) :
    shallow depth (unit :: input) =
      (shallow (level depth unit) input).map (unit :: ·) := by
  unfold shallow
  rw [enclosed, if_neg remains]
  cases enclosed (level depth unit) input with
  | none => rfl
  | some inner =>
    rw [Option.map_some, Option.filter_some, Option.filter_some]
    by_cases fits : deepest (level depth unit) inner ≤ 2
    · have all := (deepest_cons_le bounded unit inner).mpr fits
      simp [fits, all]
    · have none := mt (deepest_cons_le bounded unit inner).mp fits
      simp [fits, none]

theorem shallow_three (input : JsString) : shallow 3 input = none := by
  unfold shallow
  rw [Option.filter_eq_none_iff]
  intro inner _ fits
  have deep := le_deepest 3 inner
  have bounded := of_decide_eq_true fits
  omega

theorem blockRest_eq_shallow (nested : Bool) (input : JsString) :
    blockRest nested input = shallow (if nested then 2 else 1) input := by
  induction input generalizing nested with
  | nil => rfl
  | cons unit input induction =>
    rcases unit_cases unit with rfl | rfl | other
    · cases nested with
      | true =>
        rw [blockRest_opening, if_pos rfl, if_pos rfl,
          shallow_cons le_rfl input (by decide), level_opening,
          shallow_three]
        rfl
      | false =>
        rw [blockRest_opening, if_neg Bool.false_ne_true,
          if_neg Bool.false_ne_true,
          shallow_cons (by decide) input (by decide), induction]
        rfl
    · cases nested with
      | true =>
        rw [blockRest_closing, if_pos rfl, if_pos rfl,
          shallow_cons le_rfl input (by decide), induction]
        rfl
      | false => rfl
    · have bounded : (if nested then 2 else 1) ≤ 2 := by
        cases nested <;> decide
      have positive : (if nested then 2 else 1) ≠ 0 := by
        cases nested <;> decide
      have same := level_other (if nested then 2 else 1) other
      rw [blockRest_other _ _ other, induction,
        shallow_cons bounded input (by rw [same]; exact positive), same]

theorem blocksFrom_eq_scanFrom (skipped : Nat) (input : JsString) :
    blocksFrom skipped input = scanFrom skipped input := by
  induction input generalizing skipped with
  | nil => cases skipped <;> rfl
  | cons unit input induction =>
    cases skipped with
    | succ skipped => exact induction skipped
    | zero =>
      rw [blocksFrom, scanFrom, blockRest_eq_shallow, shallow,
        if_neg Bool.false_ne_true]
      simp only [induction]
      cases enclosed 1 input with
      | none => rfl
      | some inner =>
        rw [Option.filter_some]
        by_cases fits : deepest 1 inner ≤ 2
        · simp [fits]
        · simp [fits]

theorem blocks_eq_scan (input : JsString) : blocks input = scan input :=
  blocksFrom_eq_scanFrom 0 input

/-! ## What is found -/

theorem open?_enclosed {depth : Nat} (positive : 0 < depth)
    {input inner : JsString} (closes : enclosed depth input = some inner) :
    open? depth inner = some 0 := by
  induction input generalizing depth inner with
  | nil => cases closes
  | cons unit input induction =>
    have early : ∀ rest, open? depth (unit :: rest) =
        open? (level depth unit) rest :=
      fun rest => if_neg fun both => absurd both.2 (by omega)
    rw [enclosed] at closes
    split at closes
    · next last =>
        cases closes
        rw [early, last]
        rfl
    · next remains =>
        rcases Option.map_eq_some_iff.mp closes with ⟨rest, found, rfl⟩
        rw [early]
        exact induction (Nat.pos_of_ne_zero remains) found

theorem enclosed_self {depth : Nat} {input inner : JsString}
    (closes : enclosed depth input = some inner) :
    enclosed depth inner = some inner := by
  induction input generalizing depth inner with
  | nil => cases closes
  | cons unit input induction =>
    rw [enclosed] at closes
    split at closes
    · next last =>
        cases closes
        rw [enclosed, if_pos last]
    · next remains =>
        rcases Option.map_eq_some_iff.mp closes with ⟨rest, found, rfl⟩
        rw [enclosed, if_neg remains, induction found, Option.map_some]

def IsBlock (text : JsString) : Prop :=
  text.head? = some openingBrace ∧ shallow 1 text.tail = some text.tail

instance (text : JsString) : Decidable (IsBlock text) :=
  inferInstanceAs (Decidable (_ ∧ _))

theorem isBlock_of_mem_scanFrom {skipped : Nat} {input block : JsString}
    (member : block ∈ scanFrom skipped input) : IsBlock block := by
  induction input generalizing skipped with
  | nil => cases member
  | cons unit input induction =>
    cases skipped with
    | succ skipped => exact induction member
    | zero =>
      rw [scanFrom] at member
      split at member
      · next opens =>
          split at member
          · next inner found =>
              split at member
              · next fits =>
                  rcases List.mem_cons.mp member with rfl | later
                  · exact ⟨congrArg some opens,
                      Option.filter_eq_some_iff.mpr
                        ⟨enclosed_self found, decide_eq_true fits⟩⟩
                  · exact induction later
              · exact induction member
          · exact induction member
      · exact induction member

theorem IsBlock.balanced {text : JsString} (block : IsBlock text) :
    Balanced text := by
  rcases block with ⟨first, closes⟩
  rcases List.head?_eq_some_iff.mp first with ⟨inner, rfl⟩
  exact open?_enclosed Nat.one_pos (Option.filter_eq_some_iff.mp closes).1

/-- The matches of the regular expression are what the scan finds. They stand
one after the other, and the braces of each are balanced. -/
theorem matches_eq_scan (input : JsString) :
    jsonPattern.matchAll input = scan input ∧
      Regex.Apart (jsonPattern.matchAll input) input ∧
      ∀ block ∈ jsonPattern.matchAll input, Balanced block := by
  have scanned : jsonPattern.matchAll input = scan input :=
    (matchAll_jsonPattern input).trans (blocks_eq_scan input)
  refine ⟨scanned, Regex.apart_matchAll jsonPattern input, ?_⟩
  intro block member
  rw [scanned] at member
  exact (isBlock_of_mem_scanFrom member).balanced

/-- Of `{a{b{c}}}{{}`, the matches are `{b{c}}` and `{}`. -/
example :
    jsonPattern.matchAll ("\x7ba\x7bb\x7bc\x7d\x7d\x7d\x7b\x7b\x7d" : String) =
      ["\x7bb\x7bc\x7d\x7d", "\x7b\x7d"].map JsString.ofString := by
  decide +kernel

end Dispatch.Worker
