import Mathlib.Logic.Basic

/-! # Procedures that may throw

A procedure works on a state and ends with a value or an exception.
-/

namespace Dispatch

theorem bind_eq_ok_iff {Error Value Result : Type}
    {first : Except Error Value} {next : Value → Except Error Result}
    {result : Result} : first >>= next = .ok result ↔
      ∃ value, first = .ok value ∧ next value = .ok result := by
  cases first with
  | error error => exact iff_of_false nofun fun ⟨_, failed, _⟩ => nomatch failed
  | ok value =>
    constructor
    · exact fun done => ⟨value, rfl, done⟩
    · rintro ⟨_, ⟨⟩, done⟩
      exact done

def Procedure (State Error Value : Type) : Type :=
  State → Except Error Value × State

namespace Procedure

variable {State Error Value Next : Type}

def run (handler : Procedure State Error Value) (state : State) :
    Except Error Value × State :=
  handler state

instance : Monad (Procedure State Error) where
  pure value state := (.ok value, state)
  bind handler next state :=
    match handler state with
    | (.ok value, middle) => next value middle
    | (.error error, middle) => (.error error, middle)

def throwing (error : Error) : Procedure State Error Value := fun state =>
  (.error error, state)

def read : Procedure State Error State := fun state => (.ok state, state)

def update (change : State → State) : Procedure State Error Unit := fun state =>
  (.ok (), change state)

def ofExcept (result : Except Error Value) : Procedure State Error Value :=
  fun state => (result, state)

def transaction (rollback : State → State → State)
    (body : Procedure State Error Value) : Procedure State Error Value :=
  fun state =>
  match body state with
  | (.ok value, next) => (.ok value, next)
  | (.error error, next) => (.error error, rollback state next)

/-! ## Running -/

section Run

variable (state : State)

@[simp] theorem run_update (change : State → State) :
    (update change : Procedure State Error Unit).run state =
      (.ok (), change state) := rfl

theorem run_bind (handler : Procedure State Error Value)
    (next : Value → Procedure State Error Next) :
    (handler >>= next).run state =
      match handler.run state with
      | (.ok value, middle) => (next value).run middle
      | (.error error, middle) => (.error error, middle) := rfl

theorem run_transaction (rollback : State → State → State)
    (body : Procedure State Error Value) :
    (transaction rollback body).run state =
      match body.run state with
      | (.ok value, next) => (.ok value, next)
      | (.error error, next) => (.error error, rollback state next) := rfl

@[simp] theorem run_read_bind (next : State → Procedure State Error Next) :
    (read >>= next).run state = (next state).run state := rfl

@[simp] theorem run_update_bind (change : State → State)
    (next : Unit → Procedure State Error Next) :
    (update change >>= next).run state = (next ()).run (change state) := rfl

variable {state}

theorem run_bind_of_ok {handler : Procedure State Error Value}
    {next : Value → Procedure State Error Next} {value : Value} {middle : State}
    (returns : handler.run state = (.ok value, middle)) :
    (handler >>= next).run state = (next value).run middle := by
  rw [run_bind, returns]

theorem run_bind_of_error {handler : Procedure State Error Value}
    {next : Value → Procedure State Error Next} {error : Error} {middle : State}
    (throws : handler.run state = (.error error, middle)) :
    (handler >>= next).run state = (.error error, middle) := by
  rw [run_bind, throws]

end Run

/-! ## Pre- and postconditions -/

def Ends (after : Value → State → Prop) (failed : State → Prop) :
    Except Error Value × State → Prop
  | (.ok value, state) => after value state
  | (.error _, state) => failed state

def Meets (before : State → Prop) (handler : Procedure State Error Value)
    (after : Value → State → Prop) (failed : State → Prop) : Prop :=
  ∀ state, before state → Ends after failed (handler.run state)

def Keeps (Invariant : State → Prop) (handler : Procedure State Error Value) :
    Prop :=
  Meets Invariant handler (fun _ => Invariant) Invariant

namespace Meets

variable {before : State → Prop} {handler : Procedure State Error Value}
  {after : Value → State → Prop} {failed : State → Prop}

theorem bind {next : Value → Procedure State Error Next}
    {middle : Value → State → Prop} {final : Next → State → Prop}
    (first : Meets before handler middle failed)
    (rest : ∀ value, Meets (middle value) (next value) final failed) :
    Meets before (handler >>= next) final failed := by
  intro state holds
  have ends := first state holds
  rw [run_bind]
  generalize handler.run state = outcome at ends ⊢
  rcases outcome with ⟨result, reached⟩
  cases result with
  | ok value => exact rest value reached ends
  | error error => exact ends

theorem ret {value : Value}
    (entails : ∀ state, before state → after value state) :
    Meets before (Pure.pure value : Procedure State Error Value) after failed :=
  entails

theorem throwing {error : Error}
    (entails : ∀ state, before state → failed state) :
    Meets before (Procedure.throwing error) after failed :=
  entails

theorem update {change : State → State} {after : Unit → State → Prop}
    (entails : ∀ state, before state → after () (change state)) :
    Meets before (Procedure.update change : Procedure State Error Unit) after
      failed :=
  entails

theorem ofExcept {result : Except Error Value}
    (returns : ∀ value state, result = .ok value → before state →
      after value state)
    (throws : ∀ state, before state → failed state) :
    Meets before (Procedure.ofExcept result) after failed := by
  intro state holds
  cases result with
  | ok value => exact returns value state rfl holds
  | error error => exact throws state holds

theorem transaction {rollback : State → State → State}
    (body : ∀ start, before start →
      Ends after (fun next => failed (rollback start next))
        (handler.run start)) :
    Meets before (Procedure.transaction rollback handler) after failed := by
  intro state holds
  have ends := body state holds
  rw [run_transaction]
  generalize handler.run state = outcome at ends ⊢
  rcases outcome with ⟨result, next⟩
  cases result with
  | ok value => exact ends
  | error error => exact ends

theorem split {condition : Prop} [Decidable condition]
    {other : Procedure State Error Value}
    (positive : condition → Meets before handler after failed)
    (negative : ¬ condition → Meets before other after failed) :
    Meets before (if condition then handler else other) after failed := by
  split
  · next holds => exact positive holds
  · next fails => exact negative fails

end Meets

namespace Keeps

variable {Invariant : State → Prop} {handler : Procedure State Error Value}

theorem bind {next : Value → Procedure State Error Next}
    (first : Keeps Invariant handler)
    (rest : ∀ value, Keeps Invariant (next value)) :
    Keeps Invariant (handler >>= next) :=
  Meets.bind first rest

theorem ret (value : Value) :
    Keeps Invariant (Pure.pure value : Procedure State Error Value) :=
  Meets.ret fun _ holds => holds

theorem throwing (error : Error) :
    Keeps Invariant (Procedure.throwing error : Procedure State Error Value) :=
  Meets.throwing fun _ holds => holds

theorem read_bind {next : State → Procedure State Error Next}
    (rest : ∀ state, Invariant state → Keeps Invariant (next state)) :
    Keeps Invariant (Procedure.read >>= next) :=
  fun state holds => rest state holds state holds

theorem update {change : State → State}
    (preserved : ∀ state, Invariant state → Invariant (change state)) :
    Keeps Invariant (Procedure.update change : Procedure State Error Unit) :=
  Meets.update preserved

theorem ofExcept (result : Except Error Value) :
    Keeps Invariant (Procedure.ofExcept result : Procedure State Error Value) :=
  Meets.ofExcept (fun _ _ _ holds => holds) fun _ holds => holds

theorem split {condition : Prop} [Decidable condition]
    {other : Procedure State Error Value} (positive : Keeps Invariant handler)
    (negative : Keeps Invariant other) :
    Keeps Invariant (if condition then handler else other) :=
  Meets.split (fun _ => positive) fun _ => negative

theorem run (keeps : Keeps Invariant handler) {state : State}
    (holds : Invariant state) : Invariant (handler.run state).2 := by
  have ends := keeps state holds
  generalize handler.run state = outcome at ends ⊢
  rcases outcome with ⟨result, next⟩
  cases result with
  | ok value => exact ends
  | error error => exact ends

end Keeps

end Procedure

end Dispatch
