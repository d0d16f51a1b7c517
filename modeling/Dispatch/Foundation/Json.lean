import Dispatch.Foundation.JsString
import Mathlib.Algebra.Group.Nat.Defs
import Mathlib.Data.List.Sort

/-! # ECMAScript JSON

`JSON.stringify` and `JSON.parse` on the values that JSON text denotes, and the
round trip from a value through its text.
-/

namespace Dispatch

def isNumberChar (char : Char) : Bool :=
  char.isDigit || char == '-' || char == '+' || char == '.' ||
    char == 'e' || char == 'E'

class JsonNumber (Number : Type) where
  text : Number → List Char
  read? : List Char → Option Number

instance : JsonNumber Empty where
  text number := nomatch number
  read? _ := none

structure JsonNumber.Faithful {Number : Type} [JsonNumber Number]
    (number : Number) : Prop where
  read?_text : read? (text number) = some number
  text_ne_nil : text number ≠ []
  text_numberChar : ∀ char ∈ text number, isNumberChar char = true

/-! ## Property order -/

namespace Properties

def isDigit (unit : UInt16) : Bool :=
  '0'.toNat ≤ unit.toNat && unit.toNat ≤ '9'.toNat

def arrayIndex? (key : JsString) : Option Nat :=
  let value := key.foldl (fun total unit =>
    10 * total + (unit.toNat - '0'.toNat)) 0
  if key ≠ [] ∧ key.all isDigit ∧
      (key.head?.map UInt16.toNat = some '0'.toNat → key.length = 1) ∧
      value < 2 ^ 32 - 1 then
    some value
  else
    none

def rank (key : JsString) : Nat :=
  (arrayIndex? key).getD (2 ^ 32 - 1)

def assign (members : List (JsString × α)) (key : JsString) (value : α) :
    List (JsString × α) :=
  if members.any fun member => member.1 == key then
    members.map fun member => if member.1 == key then (key, value) else member
  else
    members ++ [(key, value)]

def create (members : List (JsString × α)) : List (JsString × α) :=
  (members.foldl (fun object member => assign object member.1 member.2)
    []).insertionSort fun left right => rank left.1 ≤ rank right.1

def OrderedKeys (keys : List JsString) : Prop :=
  keys.Nodup ∧ keys.Pairwise fun left right => rank left ≤ rank right

instance (keys : List JsString) : Decidable (OrderedKeys keys) :=
  inferInstanceAs (Decidable (_ ∧ _))

def Ordered (members : List (JsString × α)) : Prop :=
  OrderedKeys (members.map Prod.fst)

theorem Ordered.of_keys_sublist {members : List (JsString × α)}
    {part : List (JsString × β)} (ordered : Ordered members)
    (sublist : (part.map Prod.fst).Sublist (members.map Prod.fst)) :
    Ordered part :=
  ⟨ordered.1.sublist sublist, ordered.2.sublist sublist⟩

private theorem foldl_assign (members assigned : List (JsString × α))
    (nodup : ((assigned ++ members).map Prod.fst).Nodup) :
    members.foldl (fun object member => assign object member.1 member.2)
      assigned = assigned ++ members := by
  induction members generalizing assigned with
  | nil => simp
  | cons member rest induction =>
    have fresh : (assigned.any fun other => other.1 == member.1) = false := by
      rw [List.any_eq_false]
      intro other otherMember same
      rw [List.map_append, List.nodup_append] at nodup
      exact nodup.2.2 other.1 (List.mem_map_of_mem otherMember) member.1
        (by simp) (by simpa using same)
    rw [List.foldl_cons, assign, if_neg (by simp [fresh]), induction]
    · simp
    · simpa using nodup

private theorem assign_keys (members : List (JsString × α)) (key : JsString)
    (value : α) :
    (assign members key value).map Prod.fst =
      if key ∈ members.map Prod.fst then members.map Prod.fst
      else members.map Prod.fst ++ [key] := by
  have stored : (members.any fun member => member.1 == key) = true ↔
      key ∈ members.map Prod.fst := by
    simp [List.any_eq_true]
  unfold assign
  split_ifs with present absent absent
  · rw [List.map_map]
    apply List.map_congr_left
    intro member _
    by_cases same : member.1 = key <;> simp [same]
  · exact absurd (stored.mp present) absent
  · exact absurd (stored.mpr absent) present
  · rw [List.map_append, List.map_singleton]

private theorem foldl_assign_nodup (members assigned : List (JsString × α))
    (nodup : (assigned.map Prod.fst).Nodup) :
    ((members.foldl (fun object member => assign object member.1 member.2)
      assigned).map Prod.fst).Nodup := by
  induction members generalizing assigned with
  | nil => exact nodup
  | cons member rest induction =>
    apply induction
    rw [assign_keys]
    split_ifs with present
    · exact nodup
    · exact List.nodup_append.mpr ⟨nodup, List.nodup_singleton _,
        fun other stored key same => by
          rw [List.mem_singleton.mp same]
          rintro rfl
          exact present stored⟩

private theorem mem_assign {members : List (JsString × α)} {key : JsString}
    {value : α} {member : JsString × α}
    (assigned : member ∈ assign members key value) :
    member = (key, value) ∨ member ∈ members := by
  unfold assign at assigned
  split_ifs at assigned with present
  · rcases List.mem_map.mp assigned with ⟨other, stored, same⟩
    split_ifs at same
    · exact .inl same.symm
    · exact .inr (same ▸ stored)
  · rw [List.mem_append, List.mem_singleton] at assigned
    exact assigned.symm

theorem mem_of_mem_create {members : List (JsString × α)}
    {member : JsString × α} (created : member ∈ create members) :
    member ∈ members := by
  have assigned := (List.perm_insertionSort _ _).mem_iff.mp created
  suffices ∀ object : List (JsString × α),
      member ∈ members.foldl (fun object member =>
        assign object member.1 member.2) object →
      member ∈ object ∨ member ∈ members from
    (this [] assigned).resolve_left List.not_mem_nil
  clear created assigned
  induction members with
  | nil => exact fun object stored => .inl stored
  | cons first rest induction =>
    intro object stored
    rcases induction _ stored with earlier | later
    · rcases mem_assign earlier with rfl | kept
      · exact .inr List.mem_cons_self
      · exact .inl kept
    · exact .inr (List.mem_cons_of_mem _ later)

theorem ordered_create (members : List (JsString × α)) :
    Ordered (create members) := by
  constructor
  · exact ((List.perm_insertionSort _ _).map Prod.fst).nodup_iff.mpr
      (foldl_assign_nodup members [] List.nodup_nil)
  · rw [List.pairwise_map]
    apply List.pairwise_insertionSort

theorem create_of_ordered {members : List (JsString × α)}
    (ordered : Ordered members) : create members = members := by
  rw [create, foldl_assign members [] (by simpa using ordered.1),
    List.nil_append]
  exact (List.pairwise_map.mp ordered.2).insertionSort_eq

end Properties

/-! ## Values -/

mutual
inductive Json (Number : Type) where
  | null
  | bool (value : Bool)
  | number (value : Number)
  | string (value : JsString)
  | array (items : JsonItems Number)
  | object (members : JsonMembers Number)

inductive JsonItems (Number : Type) where
  | nil
  | cons (head : Json Number) (tail : JsonItems Number)

inductive JsonMembers (Number : Type) where
  | nil
  | cons (key : JsString) (value : Json Number) (tail : JsonMembers Number)
end

namespace JsonItems

def ofList : List (Json Number) → JsonItems Number
  | [] => .nil
  | head :: tail => .cons head (ofList tail)

def toList : JsonItems Number → List (Json Number)
  | .nil => []
  | .cons head tail => head :: tail.toList

@[simp] theorem toList_ofList (items : List (Json Number)) :
    (ofList items).toList = items := by
  induction items with
  | nil => rfl
  | cons head tail induction => exact congrArg (head :: ·) induction

end JsonItems

namespace JsonMembers

def ofList : List (JsString × Json Number) → JsonMembers Number
  | [] => .nil
  | (key, value) :: rest => .cons key value (ofList rest)

def toList : JsonMembers Number → List (JsString × Json Number)
  | .nil => []
  | .cons key value tail => (key, value) :: tail.toList

def get? (members : JsonMembers Number) (key : JsString) :
    Option (Json Number) :=
  members.toList.lookup key

def create (members : JsonMembers Number) : JsonMembers Number :=
  ofList (Properties.create members.toList)

@[simp] theorem toList_ofList (members : List (JsString × Json Number)) :
    (ofList members).toList = members := by
  induction members with
  | nil => rfl
  | cons member rest induction => exact congrArg (member :: ·) induction

@[simp] theorem ofList_toList : ∀ members : JsonMembers Number,
    ofList members.toList = members
  | .nil => rfl
  | .cons key value tail =>
    congrArg (JsonMembers.cons key value) (ofList_toList tail)

theorem create_of_ordered {members : JsonMembers Number}
    (ordered : Properties.Ordered members.toList) :
    create members = members := by
  rw [create, Properties.create_of_ordered ordered, ofList_toList]

end JsonMembers

/-! ## Text -/

namespace Json

def hexDigit (value : Nat) : Char :=
  if value < 10 then Char.ofNat ('0'.toNat + value)
  else Char.ofNat ('a'.toNat + (value - 10))

def hexValue? (char : Char) : Option Nat :=
  if '0' ≤ char ∧ char ≤ '9' then some (char.toNat - '0'.toNat)
  else if 'a' ≤ char ∧ char ≤ 'f' then some (char.toNat - 'a'.toNat + 10)
  else if 'A' ≤ char ∧ char ≤ 'F' then some (char.toNat - 'A'.toNat + 10)
  else none

def quoteChar (char : Char) : List Char :=
  if char = '"' then ['\\', '"']
  else if char = '\\' then ['\\', '\\']
  else if char = '\x08' then ['\\', 'b']
  else if char = '\t' then ['\\', 't']
  else if char = '\n' then ['\\', 'n']
  else if char = '\x0c' then ['\\', 'f']
  else if char = '\r' then ['\\', 'r']
  else if char.toNat < 0x20 then
    ['\\', 'u', '0', '0', hexDigit (char.toNat / 16),
      hexDigit (char.toNat % 16)]
  else [char]

def hexDigits (code : Nat) : List Char :=
  [hexDigit (code / 4096), hexDigit (code / 256 % 16),
    hexDigit (code / 16 % 16), hexDigit (code % 16)]

def quotePoint : CodePoint → List Char
  | .char value => quoteChar value
  | .lone unit => '\\' :: 'u' :: hexDigits unit.toNat

def quote (text : JsString) : List Char :=
  '"' :: (text.points.flatMap quotePoint ++ ['"'])

variable {Number : Type} [JsonNumber Number]

mutual
def print : Json Number → List Char
  | .null => ['n', 'u', 'l', 'l']
  | .bool true => ['t', 'r', 'u', 'e']
  | .bool false => ['f', 'a', 'l', 's', 'e']
  | .number value => JsonNumber.text value
  | .string value => quote value
  | .array items => '[' :: printItems items
  | .object members => '{' :: printMembers members

def printItems : JsonItems Number → List Char
  | .nil => [']']
  | .cons head tail => print head ++ printMoreItems tail

def printMoreItems : JsonItems Number → List Char
  | .nil => [']']
  | .cons head tail => ',' :: (print head ++ printMoreItems tail)

def printMembers : JsonMembers Number → List Char
  | .nil => ['}']
  | .cons key value tail =>
    quote key ++ ':' :: (print value ++ printMoreMembers tail)

def printMoreMembers : JsonMembers Number → List Char
  | .nil => ['}']
  | .cons key value tail =>
    ',' :: (quote key ++ ':' :: (print value ++ printMoreMembers tail))
end

def stringify (value : Json Number) : String :=
  String.ofList value.print

/-! ## Parsing -/

def isSpace (char : Char) : Bool :=
  char == ' ' || char == '\t' || char == '\n' || char == '\r'

def skipSpace (text : List Char) : List Char :=
  text.dropWhile isSpace

def unescape? (char : Char) : Option Char :=
  [('"', '"'), ('\\', '\\'), ('/', '/'), ('b', '\x08'), ('t', '\t'),
    ('n', '\n'), ('f', '\x0c'), ('r', '\r')].lookup char

def hexCode? (first second third fourth : Char) : Option Nat := do
  let first ← hexValue? first
  let second ← hexValue? second
  let third ← hexValue? third
  let fourth ← hexValue? fourth
  return ((first * 16 + second) * 16 + third) * 16 + fourth

def readString : List Char → Option (JsString × List Char)
  | [] => none
  | char :: rest =>
    if char = '"' then
      some ([], rest)
    else if char = '\\' then
      match rest with
      | 'u' :: first :: second :: third :: fourth :: rest =>
        match hexCode? first second third fourth with
        | none => none
        | some code =>
          (readString rest).map fun read =>
            (.ofNat code :: read.1, read.2)
      | escape :: rest =>
        match unescape? escape with
        | none => none
        | some char =>
          (readString rest).map fun read =>
            (JsString.encode char ++ read.1, read.2)
      | [] => none
    else if char.toNat < 0x20 then
      none
    else
      (readString rest).map fun read =>
        (JsString.encode char ++ read.1, read.2)

def readNumber (text : List Char) : Option (Json Number × List Char) :=
  (JsonNumber.read? (text.takeWhile isNumberChar)).map fun value =>
    (.number value, text.dropWhile isNumberChar)

mutual
def readValue : Nat → List Char → Option (Json Number × List Char)
  | 0, _ => none
  | fuel + 1, text =>
    match skipSpace text with
    | 'n' :: 'u' :: 'l' :: 'l' :: rest => some (.null, rest)
    | 't' :: 'r' :: 'u' :: 'e' :: rest => some (.bool true, rest)
    | 'f' :: 'a' :: 'l' :: 's' :: 'e' :: rest => some (.bool false, rest)
    | '"' :: rest =>
      (readString rest).map fun read => (.string read.1, read.2)
    | '[' :: rest =>
      (readItems fuel rest).map fun read => (.array read.1, read.2)
    | '{' :: rest =>
      (readMembers fuel rest).map fun read =>
        (.object read.1.create, read.2)
    | other => readNumber other

def readItems : Nat → List Char → Option (JsonItems Number × List Char)
  | 0, _ => none
  | fuel + 1, text =>
    match skipSpace text with
    | ']' :: rest => some (.nil, rest)
    | other => do
      let (head, rest) ← readValue fuel other
      let (tail, rest) ← readMoreItems fuel rest
      return (.cons head tail, rest)

def readMoreItems : Nat → List Char → Option (JsonItems Number × List Char)
  | 0, _ => none
  | fuel + 1, text =>
    match skipSpace text with
    | ']' :: rest => some (.nil, rest)
    | ',' :: rest => do
      let (head, rest) ← readValue fuel rest
      let (tail, rest) ← readMoreItems fuel rest
      return (.cons head tail, rest)
    | _ => none

def readMember : Nat → List Char →
    Option ((JsString × Json Number) × List Char)
  | 0, _ => none
  | fuel + 1, text =>
    match skipSpace text with
    | '"' :: rest => do
      let (key, rest) ← readString rest
      match skipSpace rest with
      | ':' :: rest =>
        let (value, rest) ← readValue fuel rest
        return ((key, value), rest)
      | _ => none
    | _ => none

def readMembers : Nat → List Char →
    Option (JsonMembers Number × List Char)
  | 0, _ => none
  | fuel + 1, text =>
    match skipSpace text with
    | '}' :: rest => some (.nil, rest)
    | other => do
      let ((key, value), rest) ← readMember fuel other
      let (tail, rest) ← readMoreMembers fuel rest
      return (.cons key value tail, rest)

def readMoreMembers : Nat → List Char →
    Option (JsonMembers Number × List Char)
  | 0, _ => none
  | fuel + 1, text =>
    match skipSpace text with
    | '}' :: rest => some (.nil, rest)
    | ',' :: rest => do
      let ((key, value), rest) ← readMember fuel rest
      let (tail, rest) ← readMoreMembers fuel rest
      return (.cons key value tail, rest)
    | _ => none
end

def parse (text : String) : Option (Json Number) :=
  match readValue (text.toList.length + 1) text.toList with
  | some (value, rest) => if (skipSpace rest).isEmpty then some value else none
  | none => none

/-! ## Round trip -/

theorem hexValue?_hexDigit : ∀ value : Fin 16,
    hexValue? (hexDigit value.val) = some value.val := by
  decide

private theorem hexCode?_hexDigit {first second third fourth : Nat}
    (firstBound : first < 16) (secondBound : second < 16)
    (thirdBound : third < 16) (fourthBound : fourth < 16) :
    hexCode? (hexDigit first) (hexDigit second) (hexDigit third)
        (hexDigit fourth) =
      some (((first * 16 + second) * 16 + third) * 16 + fourth) := by
  rw [hexCode?, hexValue?_hexDigit ⟨first, firstBound⟩,
    hexValue?_hexDigit ⟨second, secondBound⟩,
    hexValue?_hexDigit ⟨third, thirdBound⟩,
    hexValue?_hexDigit ⟨fourth, fourthBound⟩]
  rfl

private theorem readString_escape (code : Nat) (bound : code < 0x10000)
    (rest : List Char) :
    readString ('\\' :: 'u' :: (hexDigits code ++ rest)) =
      (readString rest).map fun read => (.ofNat code :: read.1, read.2) := by
  have digits : hexCode? (hexDigit (code / 4096)) (hexDigit (code / 256 % 16))
      (hexDigit (code / 16 % 16)) (hexDigit (code % 16)) = some _ :=
    hexCode?_hexDigit (by omega) (by omega) (by omega) (by omega)
  have value : ((code / 4096 * 16 + code / 256 % 16) * 16 + code / 16 % 16) *
      16 + code % 16 = code := by omega
  rw [value] at digits
  simp [readString, hexDigits, digits]

private theorem encode_control {char : Char} (control : char.toNat < 0x20) :
    JsString.encode char = [.ofNat char.toNat] := by
  rw [JsString.encode, if_pos (by omega)]

theorem readString_quoteChar (char : Char) (rest : List Char) :
    readString (quoteChar char ++ rest) =
      (readString rest).map fun read =>
        (JsString.encode char ++ read.1, read.2) := by
  unfold quoteChar
  by_cases quoted : char = '"'
  · subst quoted
    rfl
  by_cases backslash : char = '\\'
  · subst backslash
    rfl
  rw [if_neg quoted, if_neg backslash]
  -- the other one-letter escapes
  iterate 5
    split
    · subst char
      rfl
  split
  case isTrue control =>
    have digits : ['0', '0', hexDigit (char.toNat / 16),
        hexDigit (char.toNat % 16)] = hexDigits char.toNat := by
      rw [hexDigits, show char.toNat / 4096 = 0 by omega,
        show char.toNat / 256 % 16 = 0 by omega,
        show char.toNat / 16 % 16 = char.toNat / 16 by omega]
      rfl
    rw [encode_control control, List.cons_append, List.cons_append, digits,
      readString_escape _ (by omega)]
    rfl
  case isFalse control =>
    rw [List.singleton_append, readString.eq_def]
    simp [quoted, backslash, control]

theorem readString_quotePoint (point : CodePoint) (rest : List Char) :
    readString (quotePoint point ++ rest) =
      (readString rest).map fun read => (point.units ++ read.1, read.2) := by
  cases point with
  | char value => exact readString_quoteChar value rest
  | lone unit =>
    rw [quotePoint, List.cons_append, List.cons_append,
      readString_escape _ unit.toNat_lt, UInt16.ofNat_toNat]
    rfl

private theorem readString_points (points : List CodePoint)
    (rest : List Char) :
    readString (points.flatMap quotePoint ++ '"' :: rest) =
      some (points.flatMap CodePoint.units, rest) := by
  induction points with
  | nil =>
    rw [List.flatMap_nil, List.nil_append, readString.eq_def]
    simp
  | cons point points induction =>
    rw [List.flatMap_cons, List.append_assoc, readString_quotePoint,
      induction, Option.map_some, List.flatMap_cons]

theorem readString_quote (text : JsString) (rest : List Char) :
    readString (text.points.flatMap quotePoint ++ '"' :: rest) =
      some (text, rest) := by
  rw [readString_points, JsString.flatMap_units_points]

/-- `rest` does not continue a number. -/
def EndsNumber (rest : List Char) : Prop :=
  ∀ char, rest.head? = some char → isNumberChar char = false

private theorem skipSpace_cons {char : Char} (rest : List Char)
    (visible : isSpace char = false) :
    skipSpace (char :: rest) = char :: rest := by
  simp [skipSpace, visible]

private theorem isSpace_of_isNumberChar {char : Char}
    (numeric : isNumberChar char = true) : isSpace char = false := by
  rw [Bool.eq_false_iff]
  intro space
  simp only [isSpace, Bool.or_eq_true, beq_iff_eq] at space
  rcases space with ((rfl | rfl) | rfl) | rfl <;>
    exact absurd numeric (by decide)

theorem readValue_number (fuel : Nat) (value : Number) (rest : List Char)
    (faithful : JsonNumber.Faithful value) (ends : EndsNumber rest) :
    readValue (fuel + 1) (JsonNumber.text value ++ rest) =
      some (.number value, rest) := by
  have numeric := faithful.text_numberChar
  have whole : (JsonNumber.text value ++ rest).takeWhile isNumberChar =
        JsonNumber.text value ∧
      (JsonNumber.text value ++ rest).dropWhile isNumberChar = rest := by
    rw [List.takeWhile_append_of_pos numeric, List.dropWhile_append_of_pos numeric]
    cases rest with
    | nil => simp
    | cons char rest => simp [ends char rfl]
  have read : (readNumber (JsonNumber.text value ++ rest) :
      Option (Json Number × List Char)) = some (.number value, rest) := by
    rw [readNumber, whole.1, whole.2, faithful.read?_text, Option.map_some]
  cases written : JsonNumber.text value with
  | nil => exact absurd written faithful.text_ne_nil
  | cons head tail =>
    rw [written] at read numeric
    have headNumeric := numeric head List.mem_cons_self
    rw [readValue, List.cons_append,
      skipSpace_cons _ (isSpace_of_isNumberChar headNumeric)]
    -- no other kind of value starts with a number character
    split
    all_goals first
      | exact read
      | next equal =>
        rw [(List.cons.inj equal).1] at headNumeric
        exact absurd headNumeric (by decide)

/-! A value is normal if its text denotes it: its numbers are faithful, and
its objects list distinct keys in property order. -/

mutual
def Normal : Json Number → Prop
  | .number value => JsonNumber.Faithful value
  | .array items => NormalItems items
  | .object members => Properties.Ordered members.toList ∧ NormalMembers members
  | _ => True

def NormalItems : JsonItems Number → Prop
  | .nil => True
  | .cons head tail => head.Normal ∧ NormalItems tail

def NormalMembers : JsonMembers Number → Prop
  | .nil => True
  | .cons _ value tail => value.Normal ∧ NormalMembers tail
end

private theorem print_head (value : Json Number) (normal : value.Normal) :
    ∃ head tail, value.print = head :: tail ∧ isSpace head = false ∧
      head ≠ ']' := by
  cases value with
  | null => exact ⟨_, _, rfl, by decide, by decide⟩
  | bool value => cases value <;> exact ⟨_, _, rfl, by decide, by decide⟩
  | number value =>
    cases written : JsonNumber.text value with
    | nil => exact absurd written normal.text_ne_nil
    | cons head tail =>
      have numeric := normal.text_numberChar head (by simp [written])
      refine ⟨head, tail, by rw [print, written],
        isSpace_of_isNumberChar numeric, ?_⟩
      rintro rfl
      exact absurd numeric (by decide)
  | string value => exact ⟨_, _, rfl, by decide, by decide⟩
  | array items => exact ⟨_, _, by rw [print], by decide, by decide⟩
  | object members => exact ⟨_, _, by rw [print], by decide, by decide⟩

theorem stringify_ne_empty {value : Json Number} (normal : value.Normal) :
    value.stringify ≠ "" := by
  rcases print_head value normal with ⟨head, tail, written, _⟩
  simp [stringify, written]

private theorem endsNumber_printMoreItems (items : JsonItems Number)
    (rest : List Char) : EndsNumber (printMoreItems items ++ rest) := by
  intro char first
  cases items <;> simp [printMoreItems] at first <;> subst first <;> decide

private theorem endsNumber_printMoreMembers (members : JsonMembers Number)
    (rest : List Char) : EndsNumber (printMoreMembers members ++ rest) := by
  intro char first
  cases members <;> simp [printMoreMembers] at first <;> subst first <;> decide

private theorem printMoreItems_length (items : JsonItems Number) :
    0 < (printMoreItems items).length := by
  cases items <;> simp [printMoreItems]

/-! What the first character of a text decides. -/

section FirstCharacter

variable {fuel : Nat} {rest middle final : List Char} {key : JsString}
  {value : Json Number} {items : JsonItems Number}
  {members : JsonMembers Number}

private theorem readValue_quote {text : JsString}
    (read : readString rest = some (text, final)) :
    readValue (fuel + 1) ('"' :: rest) =
      some ((.string text : Json Number), final) := by
  change (readString rest).map _ = _
  rw [read]
  rfl

private theorem readValue_bracket
    (read : readItems fuel rest = some (items, final)) :
    readValue (fuel + 1) ('[' :: rest) = some (.array items, final) := by
  change (readItems fuel rest).map _ = _
  rw [read]
  rfl

private theorem readValue_brace
    (read : readMembers fuel rest = some (members, final)) :
    readValue (fuel + 1) ('{' :: rest) =
      some (.object members.create, final) := by
  change (readMembers fuel rest).map _ = _
  rw [read]
  rfl

private theorem readMoreItems_comma
    (readHead : readValue fuel rest = some (value, middle))
    (readTail : readMoreItems fuel middle = some (items, final)) :
    readMoreItems (fuel + 1) (',' :: rest) =
      some (.cons value items, final) := by
  change (readValue fuel rest).bind _ = _
  rw [readHead]
  change (readMoreItems fuel middle).bind _ = _
  rw [readTail]
  rfl

private theorem readMember_quote
    (readKey : readString rest = some (key, ':' :: middle))
    (readRest : readValue fuel middle = some (value, final)) :
    readMember (fuel + 1) ('"' :: rest) = some ((key, value), final) := by
  change (readString rest).bind _ = _
  rw [readKey]
  change (readValue fuel middle).bind _ = _
  rw [readRest]
  rfl

private theorem readMembers_quote
    (readFirst : readMember fuel ('"' :: rest) = some ((key, value), middle))
    (readTail : readMoreMembers fuel middle = some (members, final)) :
    readMembers (fuel + 1) ('"' :: rest) =
      some (.cons key value members, final) := by
  change (readMember fuel ('"' :: rest)).bind _ = _
  rw [readFirst]
  change (readMoreMembers fuel middle).bind _ = _
  rw [readTail]
  rfl

private theorem readMoreMembers_comma
    (readFirst : readMember fuel rest = some ((key, value), middle))
    (readTail : readMoreMembers fuel middle = some (members, final)) :
    readMoreMembers (fuel + 1) (',' :: rest) =
      some (.cons key value members, final) := by
  change (readMember fuel rest).bind _ = _
  rw [readFirst]
  change (readMoreMembers fuel middle).bind _ = _
  rw [readTail]
  rfl

end FirstCharacter

private theorem quote_append (text : JsString) (rest : List Char) :
    quote text ++ rest =
      '"' :: (text.points.flatMap quotePoint ++ '"' :: rest) := by
  simp [quote]

mutual
theorem readValue_print : ∀ (value : Json Number) (fuel : Nat)
    (rest : List Char), value.Normal → value.print.length ≤ fuel →
    EndsNumber rest →
    readValue (fuel + 1) (value.print ++ rest) = some (value, rest)
  | .null, fuel, rest, _, _, _ => rfl
  | .bool true, fuel, rest, _, _, _ => rfl
  | .bool false, fuel, rest, _, _, _ => rfl
  | .number value, fuel, rest, normal, _, ends =>
    readValue_number fuel value rest normal ends
  | .string value, fuel, rest, _, _, _ => by
    rw [print, quote_append]
    exact readValue_quote (readString_quote value rest)
  | .array items, fuel, rest, normal, enough, _ => by
    simp only [print, List.length_cons] at enough
    have read := readItems_print items fuel rest normal (by omega)
    rw [print, List.cons_append]
    exact readValue_bracket read
  | .object members, fuel, rest, normal, enough, _ => by
    simp only [print, List.length_cons] at enough
    have read := readMembers_print members fuel rest normal.2 (by omega)
    have result := readValue_brace read
    rw [JsonMembers.create_of_ordered normal.1] at result
    rw [print, List.cons_append]
    exact result
termination_by _ fuel => fuel + 1

theorem readItems_print : ∀ (items : JsonItems Number) (fuel : Nat)
    (rest : List Char), NormalItems items →
    (printItems items).length < fuel →
    readItems fuel (printItems items ++ rest) = some (items, rest)
  | _, 0, _, _, enough => by omega
  | .nil, fuel + 1, rest, _, _ => rfl
  | .cons head tail, 1, rest, normal, enough => by
    rcases print_head head normal.1 with ⟨first, others, written, -, -⟩
    simp [printItems, written] at enough
  | .cons head tail, fuel + 2, rest, normal, enough => by
    simp only [printItems, List.length_append] at enough
    have readHead := readValue_print head fuel
      (printMoreItems tail ++ rest) normal.1
      (by have := printMoreItems_length tail; omega)
      (endsNumber_printMoreItems tail rest)
    have readTail := readMoreItems_print tail (fuel + 1) rest normal.2
      (by omega)
    rcases print_head head normal.1 with
      ⟨first, others, written, visible, opens⟩
    rw [written] at readHead
    rw [printItems, written, readItems, List.append_assoc,
      List.cons_append, skipSpace_cons _ visible]
    rw [List.cons_append] at readHead
    split
    · next equal => exact absurd (List.cons.inj equal).1 opens
    · simp [readHead, readTail]
termination_by _ fuel => fuel

theorem readMoreItems_print : ∀ (items : JsonItems Number) (fuel : Nat)
    (rest : List Char), NormalItems items →
    (printMoreItems items).length ≤ fuel →
    readMoreItems fuel (printMoreItems items ++ rest) = some (items, rest)
  | items, 0, _, _, enough => by
    have := printMoreItems_length items
    omega
  | .nil, fuel + 1, rest, _, _ => rfl
  | .cons head tail, 1, rest, _, enough => by
    have := printMoreItems_length tail
    simp only [printMoreItems, List.length_cons, List.length_append]
      at enough
    omega
  | .cons head tail, fuel + 2, rest, normal, enough => by
    simp only [printMoreItems, List.length_cons, List.length_append]
      at enough
    have readHead := readValue_print head fuel
      (printMoreItems tail ++ rest) normal.1
      (by have := printMoreItems_length tail; omega)
      (endsNumber_printMoreItems tail rest)
    have readTail := readMoreItems_print tail (fuel + 1) rest normal.2
      (by omega)
    rw [printMoreItems, List.cons_append, List.append_assoc]
    exact readMoreItems_comma readHead readTail
termination_by _ fuel => fuel

theorem readMember_print : ∀ (key : JsString) (value : Json Number)
    (fuel : Nat) (rest : List Char), value.Normal →
    (quote key).length + value.print.length < fuel → EndsNumber rest →
    readMember fuel (quote key ++ ':' :: (value.print ++ rest)) =
      some ((key, value), rest)
  | _, _, 0, _, _, enough, _ => by omega
  | _, _, 1, _, _, enough, _ => by simp [quote] at enough
  | key, value, fuel + 2, rest, normal, enough, ends => by
    have quoted : 2 ≤ (quote key).length := by simp [quote]
    have read := readValue_print value fuel rest normal (by omega) ends
    rw [quote_append]
    exact readMember_quote (readString_quote key _) read
termination_by _ _ fuel => fuel

theorem readMembers_print : ∀ (members : JsonMembers Number) (fuel : Nat)
    (rest : List Char), NormalMembers members →
    (printMembers members).length < fuel →
    readMembers fuel (printMembers members ++ rest) = some (members, rest)
  | _, 0, _, _, enough => by omega
  | .nil, fuel + 1, rest, _, _ => rfl
  | .cons key value tail, fuel + 1, rest, normal, enough => by
    simp only [printMembers, List.length_append, List.length_cons]
      at enough
    have readFirst := readMember_print key value fuel
      (printMoreMembers tail ++ rest) normal.1 (by omega)
      (endsNumber_printMoreMembers tail rest)
    have readTail := readMoreMembers_print tail fuel rest normal.2
      (by omega)
    rw [quote_append] at readFirst
    rw [printMembers, List.append_assoc, List.cons_append,
      List.append_assoc, quote_append]
    exact readMembers_quote readFirst readTail
termination_by _ fuel => fuel

theorem readMoreMembers_print : ∀ (members : JsonMembers Number)
    (fuel : Nat) (rest : List Char), NormalMembers members →
    (printMoreMembers members).length ≤ fuel →
    readMoreMembers fuel (printMoreMembers members ++ rest) =
      some (members, rest)
  | members, 0, _, _, enough => by
    cases members <;> simp [printMoreMembers] at enough
  | .nil, fuel + 1, rest, _, _ => rfl
  | .cons key value tail, fuel + 1, rest, normal, enough => by
    simp only [printMoreMembers, List.length_append, List.length_cons]
      at enough
    have readFirst := readMember_print key value fuel
      (printMoreMembers tail ++ rest) normal.1 (by omega)
      (endsNumber_printMoreMembers tail rest)
    have readTail := readMoreMembers_print tail fuel rest normal.2
      (by omega)
    rw [printMoreMembers, List.cons_append, List.append_assoc,
      List.cons_append, List.append_assoc]
    exact readMoreMembers_comma readFirst readTail
termination_by _ fuel => fuel
end

theorem parse_stringify (value : Json Number) (normal : value.Normal) :
    parse value.stringify = some value := by
  have read := readValue_print value value.print.length [] normal le_rfl
    (by intro char first; simp at first)
  rw [List.append_nil] at read
  simp [parse, stringify, read, skipSpace]

end Json

end Dispatch
