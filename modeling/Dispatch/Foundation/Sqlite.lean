import Dispatch.Foundation.JsonValue

/-! # Statement parameters

How `better-sqlite3` binds the arguments of `run`, `get` and `all` to the
positional parameters of a statement.
-/

namespace Dispatch.Sqlite

class SqlNumber (Number : Type) where
  column : Number → String
  column_ne_empty : ∀ number, column number ≠ ""

instance : SqlNumber Empty where
  column number := nomatch number
  column_ne_empty number := nomatch number

inductive Value
  | null
  | text (value : String)
  deriving DecidableEq, Repr

def Value.text? : Value → Option String
  | null => none
  | text value => some value

inductive BindError
  | notBindable
  | namedTwice
  | wrongCount
  deriving DecidableEq, Repr

variable [SqlNumber Number]

def bindValue : Option (Json Number) → Except BindError Value
  | none | some .null => .ok .null
  | some (.string value) => .ok (.text value.toText)
  | some (.number value) => .ok (.text (SqlNumber.column value))
  | some (.bool _) | some (.array _) | some (.object _) => .error .notBindable

def bindItems : JsonItems Number → Except BindError (List Value)
  | .nil => .ok []
  | .cons head tail => do
    let first ← bindValue (some head)
    let others ← bindItems tail
    return first :: others

def bindArgument : Option (Json Number) → Except BindError (List Value)
  | some (.array items) => bindItems items
  | some (.object _) => .ok []
  | argument => do
    let value ← bindValue argument
    return [value]

def isObject : Option (Json Number) → Bool
  | some (.object _) => true
  | _ => false

def bindParameters (count : Nat)
    (arguments : List (Option (Json Number))) :
    Except BindError (List Value) := do
  let values ← arguments.mapM bindArgument
  if 1 < arguments.countP isObject then
    throw .namedTwice
  else if values.flatten.length ≠ count then
    throw .wrongCount
  else
    return values.flatten

def bindOne (argument : Option (Json Number)) : Except BindError Value :=
  match bindArgument argument with
  | .ok [value] => .ok value
  | .ok _ => .error .wrongCount
  | .error error => .error error

theorem bindItems_ok_singleton {items : JsonItems Number} {value : Value}
    (bound : bindItems items = .ok [value]) :
    ∃ head, items = .cons head .nil ∧ bindValue (some head) = .ok value := by
  cases items with
  | nil => cases bound
  | cons head tail =>
    simp only [bindItems, Bind.bind, Except.bind] at bound
    cases first : bindValue (some head) with
    | error error => rw [first] at bound; cases bound
    | ok headValue =>
      rw [first] at bound
      dsimp only at bound
      cases others : bindItems tail with
      | error error => rw [others] at bound; cases bound
      | ok values =>
        rw [others] at bound
        cases bound
        cases tail with
        | nil => exact ⟨head, rfl, first⟩
        | cons next rest =>
          simp only [bindItems, Bind.bind, Except.bind] at others
          split at others
          · cases others
          · split at others <;> cases others

theorem bindOne_ok {argument : Json Number} {value : Value}
    (bound : bindOne (some argument) = .ok value) :
    bindValue (some argument) = .ok value ∨
      ∃ item, argument = .array (.cons item .nil) ∧
        bindValue (some item) = .ok value := by
  cases argument with
  | null | number | string => exact .inl bound
  | bool => cases bound
  | object => cases bound
  | array items =>
    right
    simp only [bindOne, bindArgument] at bound
    split at bound
    · next single =>
        cases bound
        rcases bindItems_ok_singleton single with ⟨item, rfl, itemBound⟩
        exact ⟨item, rfl, itemBound⟩
    · cases bound
    · cases bound

def strings (texts : List JsString) : List (Option (Json Number)) :=
  texts.map fun text => some (.string text)

def columns (texts : List JsString) : List Value :=
  texts.map fun text => .text text.toText

theorem mapM_bindArgument_strings (texts : List JsString) :
    (strings texts : List (Option (Json Number))).mapM bindArgument =
      .ok ((columns texts).map fun value => [value]) := by
  induction texts with
  | nil => rfl
  | cons text texts induction =>
    rw [strings, List.map_cons, List.mapM_cons, ← strings, induction]
    rfl

omit [SqlNumber Number] in
theorem countP_isObject_strings (texts : List JsString) :
    (strings texts : List (Option (Json Number))).countP isObject = 0 := by
  rw [List.countP_eq_zero]
  intro argument member
  rcases List.mem_map.mp member with ⟨text, _, rfl⟩
  exact Bool.false_ne_true

theorem bindParameters_strings (left right : List JsString)
    (argument : Option (Json Number)) :
    bindParameters (left.length + (right.length + 1))
        (strings left ++ argument :: strings right) =
      (bindOne argument).map fun value =>
        columns left ++ value :: columns right := by
  have objects : ¬ 1 < (strings left ++ argument :: strings right).countP
      isObject := by
    rw [List.countP_append, List.countP_cons, countP_isObject_strings,
      countP_isObject_strings]
    split <;> omega
  have flattened : ∀ texts : List JsString,
      ((columns texts).map fun value => [value]).flatten = columns texts :=
    fun texts => List.flatMap_singleton' _
  rw [bindParameters, bindOne, List.mapM_append, List.mapM_cons,
    mapM_bindArgument_strings, mapM_bindArgument_strings]
  cases bindArgument argument with
  | error error => rfl
  | ok values =>
    change (if _ then _ else if _ then _ else _) = _
    rw [if_neg objects, List.flatten_append, List.flatten_cons, flattened,
      flattened]
    have counted : (columns left ++ (values ++ columns right)).length ≠
        left.length + (right.length + 1) ↔ values.length ≠ 1 := by
      simp only [columns, List.length_append, List.length_map]
      omega
    cases values with
    | nil => rw [if_pos (counted.mpr Nat.zero_ne_one)]; rfl
    | cons value rest =>
      cases rest with
      | nil => rw [if_neg (counted.not.mpr fun other => other rfl)]; rfl
      | cons next others =>
        rw [if_pos (counted.mpr (by simp))]
        rfl

end Dispatch.Sqlite
