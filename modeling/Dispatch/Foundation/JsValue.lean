import Dispatch.Foundation.Json

/-! # Values a program builds

`JSON.stringify` on the values of the language, which are more than JSON has.
-/

namespace Dispatch

mutual
inductive JsValue (Number : Type) where
  /-- `undefined`, a function or a symbol -/
  | undefined
  | null
  | bool (value : Bool)
  | number (value : Number)
  | string (value : JsString)
  | array (items : JsItems Number)
  | object (members : JsMembers Number)
  | custom (toJSON plain : JsValue Number)

inductive JsItems (Number : Type) where
  | nil
  | cons (head : JsValue Number) (tail : JsItems Number)

inductive JsMembers (Number : Type) where
  | nil
  | cons (key : JsString) (value : JsValue Number) (tail : JsMembers Number)
end

def JsMembers.ofList : List (JsString × JsValue Number) → JsMembers Number
  | [] => .nil
  | (key, value) :: rest => .cons key value (ofList rest)

class NumberToString (Number : Type) [JsonNumber Number] where
  finite? : Number → Option Number
  faithful : finite? number = some value → JsonNumber.Faithful value

instance : NumberToString Empty where
  finite? number := nomatch number
  faithful {number} := nomatch number

namespace JsValue

def writtenMembers (members : List (JsString × Option (Json Number))) :
    List (JsString × Json Number) :=
  (Properties.create members).filterMap fun member =>
    member.2.map fun value => (member.1, value)

theorem mem_writtenMembers {members : List (JsString × Option (Json Number))}
    {key : JsString} {value : Json Number}
    (written : (key, value) ∈ writtenMembers members) :
    (key, some value) ∈ members := by
  rcases List.mem_filterMap.mp written with ⟨⟨name, given⟩, created, same⟩
  cases given with
  | none => cases same
  | some given =>
    cases same
    exact Properties.mem_of_mem_create created

theorem ordered_writtenMembers
    (members : List (JsString × Option (Json Number))) :
    Properties.Ordered (writtenMembers members) := by
  apply (Properties.ordered_create members).of_keys_sublist
  unfold writtenMembers
  generalize Properties.create members = created
  induction created with
  | nil => exact List.Sublist.slnil
  | cons member rest induction =>
    rcases member with ⟨key, value⟩
    cases value with
    | none => exact induction.cons key
    | some value => exact induction.cons_cons key

theorem writtenMembers_of_ordered {members : List (JsString × Json Number)}
    (ordered : Properties.Ordered members) :
    writtenMembers (members.map fun member => (member.1, some member.2)) =
      members := by
  rw [writtenMembers, Properties.create_of_ordered, List.filterMap_map]
  · exact List.filterMap_some
  · unfold Properties.Ordered
    rw [List.map_map]
    exact ordered

variable [JsonNumber Number]

private theorem normalMembers_ofList {members : List (JsString × Json Number)}
    (normal : ∀ member ∈ members, member.2.Normal) :
    Json.NormalMembers (JsonMembers.ofList members) := by
  induction members with
  | nil => exact True.intro
  | cons member rest induction =>
    exact ⟨normal member List.mem_cons_self, induction fun other stored =>
      normal other (List.mem_cons_of_mem _ stored)⟩

variable [NumberToString Number]

mutual
def serialize (calls : Bool) : JsValue Number → Option (Json Number)
  | .undefined => none
  | .null => some .null
  | .bool value => some (.bool value)
  | .number value =>
    match NumberToString.finite? value with
    | some value => some (.number value)
    | none => some .null
  | .string value => some (.string value)
  | .array items => some (.array (serializeItems items))
  | .object members =>
    some (.object (.ofList (writtenMembers (serializeMembers members))))
  | .custom toJSON plain =>
    if calls then serialize false toJSON else serialize false plain

def serializeItems : JsItems Number → JsonItems Number
  | .nil => .nil
  | .cons head tail =>
    .cons ((serialize true head).getD .null) (serializeItems tail)

def serializeMembers :
    JsMembers Number → List (JsString × Option (Json Number))
  | .nil => []
  | .cons key value tail => (key, serialize true value) :: serializeMembers tail
end

def toJson? (value : JsValue Number) : Option (Json Number) :=
  serialize true value

/-- `JSON.stringify(value)` -/
def stringify (value : JsValue Number) : Option String :=
  value.toJson?.map Json.stringify

private theorem serializeMembers_ofList
    (members : List (JsString × JsValue Number)) :
    serializeMembers (.ofList members) =
      members.map fun member => (member.1, member.2.toJson?) := by
  induction members with
  | nil => rfl
  | cons member rest induction =>
    rw [JsMembers.ofList, serializeMembers, induction, List.map_cons, toJson?]

theorem toJson?_object {members : List (JsString × JsValue Number)}
    {values : List (JsString × Json Number)}
    (ordered : Properties.Ordered values)
    (written : (members.map fun member => (member.1, member.2.toJson?)) =
      values.map fun member => (member.1, some member.2)) :
    (JsValue.object (.ofList members)).toJson? =
      some (.object (.ofList values)) := by
  rw [toJson?, serialize, serializeMembers_ofList, written,
    writtenMembers_of_ordered ordered]

/-! What is written is normal, by induction on the value. -/

mutual
theorem serialize_normal : ∀ (value : JsValue Number) (calls : Bool)
    {json : Json Number}, serialize calls value = some json → json.Normal
  | .undefined, calls, json, written => by simp [serialize] at written
  | .null, calls, json, written => by
    cases written
    exact True.intro
  | .bool value, calls, json, written => by
    cases written
    exact True.intro
  | .number value, calls, json, written => by
    rw [serialize] at written
    cases finite : NumberToString.finite? value with
    | none =>
      rw [finite] at written
      cases written
      exact True.intro
    | some value =>
      rw [finite] at written
      cases written
      exact NumberToString.faithful finite
  | .string value, calls, json, written => by
    cases written
    exact True.intro
  | .array items, calls, json, written => by
    cases written
    exact serializeItems_normal items
  | .object members, calls, json, written => by
    cases written
    refine ⟨?_, normalMembers_ofList fun member stored =>
      serializeMembers_normal members (mem_writtenMembers stored)⟩
    rw [JsonMembers.toList_ofList]
    exact ordered_writtenMembers _
  | .custom toJSON plain, calls, json, written => by
    rw [serialize] at written
    split_ifs at written
    · exact serialize_normal toJSON false written
    · exact serialize_normal plain false written

theorem serializeItems_normal : ∀ items : JsItems Number,
    Json.NormalItems (serializeItems items)
  | .nil => True.intro
  | .cons head tail => by
    refine ⟨?_, serializeItems_normal tail⟩
    cases written : serialize true head with
    | none => exact True.intro
    | some json => exact serialize_normal head true written

theorem serializeMembers_normal : ∀ (members : JsMembers Number)
    {key : JsString} {json : Json Number},
    (key, some json) ∈ serializeMembers members → json.Normal
  | .cons first value tail, key, json, stored => by
    rcases List.mem_cons.mp stored with same | later
    · exact serialize_normal value true (Prod.mk.inj same).2.symm
    · exact serializeMembers_normal tail later
end

theorem parse_of_stringify {value : JsValue Number} {text : String}
    (written : value.stringify = some text) :
    ∃ json : Json Number, value.toJson? = some json ∧ json.Normal ∧
      text = json.stringify ∧ Json.parse text = some json := by
  rcases Option.map_eq_some_iff.mp written with ⟨json, serialized, rfl⟩
  have normal := serialize_normal value true serialized
  exact ⟨json, serialized, normal, rfl, Json.parse_stringify json normal⟩

/-! ## JSON values as values of the language -/

omit [JsonNumber Number] [NumberToString Number]

mutual
def ofJson : Json Number → JsValue Number
  | .null => .null
  | .bool value => .bool value
  | .number value => .number value
  | .string value => .string value
  | .array items => .array (ofItems items)
  | .object members => .object (ofMembers members)

def ofItems : JsonItems Number → JsItems Number
  | .nil => .nil
  | .cons head tail => .cons (ofJson head) (ofItems tail)

def ofMembers : JsonMembers Number → JsMembers Number
  | .nil => .nil
  | .cons key value tail => .cons key (ofJson value) (ofMembers tail)
end

def ofProperty : Option (Json Number) → JsValue Number
  | some value => ofJson value
  | none => .undefined

end JsValue

end Dispatch
