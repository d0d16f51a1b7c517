import Mathlib.Data.List.Basic

/-! # Regular expressions

Patterns without alternatives, captures and assertions, matched as the standard
of ECMAScript has it.
-/

namespace Dispatch

inductive Regex (Symbol : Type)
  | one (accepts : Symbol → Bool)
  | seq (first second : Regex Symbol)
  | star (body : Regex Symbol)

namespace Regex

variable {Symbol Result : Type}

abbrev Matcher (Symbol Result : Type) :=
  (List Symbol → Option Result) → List Symbol → Option Result

def rounds (body : Matcher Symbol Result) (next : List Symbol → Option Result) :
    Nat → List Symbol → Option Result
  | 0, _ => none
  | fuel + 1, input =>
    let again rest :=
      if rest.length < input.length then rounds body next fuel rest else none
    (body again input).or (next input)

def run : Regex Symbol → Matcher Symbol Result
  | one accepts, next, input =>
    match input with
    | [] => none
    | symbol :: rest => if accepts symbol then next rest else none
  | seq first second, next, input => first.run (second.run next) input
  | star body, next, input => rounds body.run next (input.length + 1) input

/-! ## Equations -/

section Equations

variable {next : List Symbol → Option Result} {input : List Symbol}

@[simp] theorem run_one_nil (accepts : Symbol → Bool) :
    (one accepts).run next [] = none := rfl

@[simp] theorem run_one_cons (accepts : Symbol → Bool) (symbol : Symbol)
    (rest : List Symbol) :
    (one accepts).run next (symbol :: rest) =
      if accepts symbol then next rest else none := rfl

@[simp] theorem run_seq (first second : Regex Symbol) :
    (seq first second).run next input = first.run (second.run next) input :=
  rfl

theorem rounds_eq_of_lt (body : Matcher Symbol Result) {fuel other : Nat}
    (enough : input.length < fuel) (otherEnough : input.length < other) :
    rounds body next fuel input = rounds body next other input := by
  induction fuel generalizing input other with
  | zero => omega
  | succ fuel induction =>
    cases other with
    | zero => omega
    | succ other =>
      have same : ∀ rest : List Symbol,
          (if rest.length < input.length then rounds body next fuel rest
            else none) =
          if rest.length < input.length then rounds body next other rest
            else none := by
        intro rest
        split
        · exact induction (by omega) (by omega)
        · rfl
      simp only [rounds, same]

theorem run_star (body : Regex Symbol) :
    (star body).run next input =
      (body.run (fun rest =>
        if rest.length < input.length then (star body).run next rest
        else none) input).or (next input) := by
  have same : ∀ rest : List Symbol,
      (if rest.length < input.length then
        rounds body.run next input.length rest else none) =
      if rest.length < input.length then (star body).run next rest
        else none := by
    intro rest
    split
    · next shorter => exact rounds_eq_of_lt body.run shorter (by omega)
    · rfl
  simp only [run, rounds] at same ⊢
  simp only [same]

theorem run_star_one {accepts : Symbol → Bool}
    (fails : ∀ symbol rest, accepts symbol = true →
      next (symbol :: rest) = none) :
    (star (one accepts)).run next input =
      next (input.dropWhile accepts) := by
  induction input with
  | nil => rw [run_star, run_one_nil, Option.none_or, List.dropWhile_nil]
  | cons symbol rest induction =>
    have shorter : rest.length < (symbol :: rest).length :=
      Nat.lt_succ_self _
    rw [run_star, run_one_cons]
    cases accepted : accepts symbol with
    | true =>
      rw [if_pos rfl, if_pos shorter, induction,
        fails symbol rest accepted, Option.or_none,
        List.dropWhile_cons_of_pos accepted]
    | false =>
      rw [if_neg Bool.false_ne_true, Option.none_or,
        List.dropWhile_cons_of_neg (by simp [accepted])]

end Equations

/-! ## Global matching -/

def exec (pattern : Regex Symbol) (input : List Symbol) :
    Option (List Symbol) :=
  (pattern.run some input).map fun rest =>
    input.take (input.length - rest.length)

def matchAllFrom (pattern : Regex Symbol) :
    Nat → List Symbol → List (List Symbol)
  | _, [] => (pattern.exec []).toList
  | skipped + 1, _ :: rest => matchAllFrom pattern skipped rest
  | 0, symbol :: rest =>
    match pattern.exec (symbol :: rest) with
    | some matched =>
      matched :: matchAllFrom pattern (matched.length - 1) rest
    | none => matchAllFrom pattern 0 rest

def matchAll (pattern : Regex Symbol) (input : List Symbol) :
    List (List Symbol) :=
  matchAllFrom pattern 0 input

inductive Apart : List (List Symbol) → List Symbol → Prop
  | nil (input : List Symbol) : Apart [] input
  | skip (symbol : Symbol) {parts : List (List Symbol)} {input : List Symbol}
      (rest : Apart parts input) : Apart parts (symbol :: input)
  | take (part : List Symbol) {parts : List (List Symbol)}
      {input : List Symbol} (rest : Apart parts input) :
      Apart (part :: parts) (part ++ input)

theorem Apart.isInfix {parts : List (List Symbol)} {input part : List Symbol}
    (apart : Apart parts input) (member : part ∈ parts) : part <:+: input := by
  induction apart with
  | nil => cases member
  | skip symbol _ induction =>
    exact (induction member).trans (List.suffix_cons symbol _).isInfix
  | @take first _ input _ induction =>
    rcases List.mem_cons.mp member with rfl | later
    · exact (List.prefix_append part input).isInfix
    · exact (induction later).trans (List.suffix_append first input).isInfix

theorem isPrefix_exec {pattern : Regex Symbol} {input matched : List Symbol}
    (found : pattern.exec input = some matched) : matched <+: input := by
  rcases Option.map_eq_some_iff.mp found with ⟨rest, _, rfl⟩
  exact List.take_prefix ..

theorem apart_matchAllFrom (pattern : Regex Symbol) (skipped : Nat)
    (input : List Symbol) :
    Apart (pattern.matchAllFrom skipped input) (input.drop skipped) := by
  induction input generalizing skipped with
  | nil =>
    rw [matchAllFrom, List.drop_nil]
    cases found : pattern.exec [] with
    | none => exact .nil []
    | some matched =>
      have empty := List.prefix_nil.mp (isPrefix_exec found)
      rw [empty]
      exact .take [] (.nil [])
  | cons symbol rest induction =>
    cases skipped with
    | succ skipped => exact induction skipped
    | zero =>
      rw [matchAllFrom, List.drop_zero]
      cases found : pattern.exec (symbol :: rest) with
      | none => exact .skip symbol (induction 0)
      | some matched =>
        have later := induction (matched.length - 1)
        cases matched with
        | nil => exact .take [] (.skip symbol later)
        | cons first others =>
          rcases List.cons_prefix_cons.mp (isPrefix_exec found) with
            ⟨rfl, ⟨after, rfl⟩⟩
          simp only [List.length_cons, Nat.add_sub_cancel,
            List.drop_left] at later
          exact .take (first :: others) later

theorem apart_matchAll (pattern : Regex Symbol) (input : List Symbol) :
    Apart (pattern.matchAll input) input :=
  apart_matchAllFrom pattern 0 input

end Regex

end Dispatch
