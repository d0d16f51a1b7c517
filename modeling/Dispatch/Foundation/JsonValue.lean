import Dispatch.Foundation.Json

/-! # Untyped values

What ECMAScript does with a value that came out of `JSON.parse` when the
program takes it for something it may not be.
-/

namespace Dispatch

class JsNumber (Number : Type) extends JsonNumber Number where
  /-- Neither zero nor `NaN`. -/
  truthy : Number → Bool
  /-- `String(number)` -/
  display : Number → JsString
  /-- `left === right` -/
  equal : Number → Number → Bool

instance : JsNumber Empty where
  truthy number := nomatch number
  display number := nomatch number
  equal number := nomatch number

/-- `items.slice(0, count)` -/
def JsonItems.take : Nat → JsonItems Number → JsonItems Number
  | 0, _ | _, .nil => .nil
  | count + 1, .cons head tail => .cons head (tail.take count)

namespace Json

def get? (value : Json Number) (key : JsString) : Option (Json Number) :=
  match value with
  | .object members => members.get? key
  | _ => none

variable [JsNumber Number]

def truthy : Json Number → Bool
  | .null => false
  | .bool value => value
  | .number value => JsNumber.truthy value
  | .string value => !value.isEmpty
  | .array _ | .object _ => true

@[simp] theorem truthy_ofString (text : String) :
    (Json.string (JsString.ofString text) : Json Number).truthy =
      decide (text ≠ "") := by
  simp [truthy, JsString.isEmpty_ofString]

/-! An object is written as `[object Object]`, unless it has a member called
`toString`: the member is found before the method of the prototype, and
calling it fails. The items of an array are written between commas. -/

mutual
def display? : Json Number → Option JsString
  | .null => some "null"
  | .bool true => some "true"
  | .bool false => some "false"
  | .number value => some (JsNumber.display value)
  | .string value => some value
  | .array items => displayItems? items
  | .object members =>
    match members.get? "toString" with
    | some _ => none
    | none => some "[object Object]"

def displayItems? : JsonItems Number → Option JsString
  | .nil => some []
  | .cons head tail => do
    let first ← match head with
      | .null => some []
      | _ => display? head
    let others ← displayMoreItems? tail
    return first ++ others

def displayMoreItems? : JsonItems Number → Option JsString
  | .nil => some []
  | .cons head tail => do
    let first ← match head with
      | .null => some []
      | _ => display? head
    let others ← displayMoreItems? tail
    return JsString.ofString "," ++ first ++ others
end

def displayProperty? : Option (Json Number) → Option JsString
  | none => some "undefined"
  | some value => value.display?

def strictEqual : Option (Json Number) → Option (Json Number) → Bool
  | none, none | some .null, some .null => true
  | some (.bool left), some (.bool right) => left == right
  | some (.number left), some (.number right) => JsNumber.equal left right
  | some (.string left), some (.string right) => left == right
  | _, _ => false

end Json

end Dispatch
