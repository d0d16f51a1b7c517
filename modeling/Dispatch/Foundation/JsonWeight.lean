import Dispatch.Foundation.Json
import Mathlib.Algebra.GroupWithZero.Nat
import Mathlib.Algebra.Order.BigOperators.Group.List
import Mathlib.Algebra.Order.Group.Nat

/-! # The weight of JSON text

Braces and what escapes are written with have a weight.
-/

namespace Dispatch.Json

def heavy (char : Char) : Bool :=
  char == '{' || char == '}' || char == '\\' || char == 'u'

def weigh (text : List Char) : Nat :=
  text.countP heavy

@[simp] theorem weigh_nil : weigh [] = 0 := rfl

@[simp] theorem weigh_cons (char : Char) (rest : List Char) :
    weigh (char :: rest) = (if heavy char then 1 else 0) + weigh rest := by
  rw [weigh, List.countP_cons, Nat.add_comm]
  rfl

@[simp] theorem weigh_append (first second : List Char) :
    weigh (first ++ second) = weigh first + weigh second :=
  List.countP_append

theorem weigh_skipSpace_le (text : List Char) :
    weigh (skipSpace text) ≤ weigh text :=
  (List.dropWhile_sublist isSpace).countP_le

/-! ## Strings -/

theorem heavy_hexDigit : ∀ value : Fin 16,
    heavy (hexDigit value.val) = false := by
  decide

theorem weigh_hexDigits {code : Nat} (bound : code < 0x10000) :
    weigh (hexDigits code) = 0 := by
  have first := heavy_hexDigit ⟨code / 4096, by omega⟩
  have second := heavy_hexDigit ⟨code / 256 % 16, by omega⟩
  have third := heavy_hexDigit ⟨code / 16 % 16, by omega⟩
  have fourth := heavy_hexDigit ⟨code % 16, by omega⟩
  simp only at first second third fourth
  simp [hexDigits, first, second, third, fourth]

theorem weigh_quoteChar_le (char : Char) : weigh (quoteChar char) ≤ 2 := by
  unfold quoteChar
  -- the one-letter escapes
  iterate 7
    split
    · decide
  split
  case isTrue control =>
    have high := heavy_hexDigit ⟨char.toNat / 16, by omega⟩
    have low := heavy_hexDigit ⟨char.toNat % 16, by omega⟩
    simp only [weigh_cons, weigh_nil, high, low]
    decide
  case isFalse =>
    rw [weigh_cons]
    split <;> decide

def weighString (text : JsString) : Nat :=
  weigh (text.points.flatMap quotePoint)

theorem weigh_quote (text : JsString) :
    weigh (quote text) = weighString text := by
  rw [quote, weigh_cons, weigh_append]
  exact Nat.zero_add _

theorem weighString_encode_append (char : Char) (rest : JsString) :
    weighString (JsString.encode char ++ rest) =
      weigh (quoteChar char) + weighString rest := by
  rw [weighString, JsString.points_encode_append, List.flatMap_cons,
    weigh_append]
  rfl

theorem weigh_singlePoint_le (unit : UInt16) :
    weigh (quotePoint (JsString.singlePoint unit)) ≤ 2 := by
  unfold JsString.singlePoint
  split
  · simp [quotePoint, weigh_hexDigits unit.toNat_lt, heavy]
  · exact weigh_quoteChar_le _

theorem weighString_cons {unit : UInt16} {rest : JsString}
    (single : ∀ next ∈ rest.head?, (JsString.isHighSurrogate unit &&
      JsString.isLowSurrogate next) = false) :
    weighString (unit :: rest) =
      weigh (quotePoint (JsString.singlePoint unit)) + weighString rest := by
  cases rest with
  | nil =>
    rw [weighString, JsString.points, List.flatMap_singleton]
    rfl
  | cons next rest =>
    have apart := single next rfl
    rw [weighString, JsString.points, if_neg (by simp [apart]),
      List.flatMap_cons, weigh_append]
    rfl

theorem weighString_cons_le (unit : UInt16) (rest : JsString) :
    weighString (unit :: rest) ≤ 2 + weighString rest := by
  by_cases single : ∀ next ∈ rest.head?, (JsString.isHighSurrogate unit &&
      JsString.isLowSurrogate next) = false
  · rw [weighString_cons single]
    exact Nat.add_le_add_right (weigh_singlePoint_le unit) _
  · push Not at single
    rcases single with ⟨next, first, pair⟩
    rcases List.head?_eq_some_iff.mp first with ⟨later, rfl⟩
    rw [ne_eq, Bool.not_eq_false, Bool.and_eq_true] at pair
    have low : JsString.isHighSurrogate next = false := by
      have isLow := pair.2
      simp only [JsString.isLowSurrogate, JsString.isHighSurrogate,
        Bool.and_eq_true, decide_eq_true_eq, Bool.and_eq_false_iff,
        decide_eq_false_iff_not] at isLow ⊢
      omega
    have joined : unit :: next :: later =
        JsString.encode (JsString.pairChar unit next) ++ later := by
      rw [JsString.encode_pairChar pair.1 pair.2]
      rfl
    have char := weigh_quoteChar_le (JsString.pairChar unit next)
    have after : weighString (next :: later) = _ :=
      weighString_cons (by simp [low])
    rw [joined, weighString_encode_append, after]
    omega

theorem weigh_quoteChar_unescape {escape char : Char}
    (read : unescape? escape = some char) :
    weigh (quoteChar char) ≤ 1 + weigh [escape] := by
  rcases List.lookup_eq_some_iff.mp read with ⟨before, after, table, _⟩
  have listed : (escape, char) ∈ before ++ (escape, char) :: after :=
    List.mem_append_right before List.mem_cons_self
  rw [← table] at listed
  revert listed
  have all : ∀ entry ∈ [('"', '"'), ('\\', '\\'), ('/', '/'), ('b', '\x08'),
      ('t', '\t'), ('n', '\n'), ('f', '\x0c'), ('r', '\r')],
      weigh (quoteChar entry.2) ≤ 1 + weigh [entry.1] := by
    decide
  exact all (escape, char)

theorem weigh_quoteChar_raw {char : Char} (plain : char ≠ '"')
    (unescaped : char ≠ '\\') (visible : ¬ char.toNat < 0x20) :
    weigh (quoteChar char) = weigh [char] := by
  rw [quoteChar, if_neg plain, if_neg unescaped]
  -- the other one-letter escapes stand for control characters
  iterate 5
    split
    · next control =>
        subst control
        exact absurd (by decide) visible
  rfl

section ReadString

variable {first second third fourth escape char : Char} {after : List Char}

theorem readString_hex {code : Nat}
    (valid : hexCode? first second third fourth = some code) :
    readString ('\\' :: 'u' :: first :: second :: third :: fourth :: after) =
      (readString after).map fun read =>
        (.ofNat code :: read.1, read.2) := by
  simp [readString, valid]

theorem readString_unescape (valid : unescape? escape = some char) :
    readString ('\\' :: escape :: after) =
      (readString after).map fun read =>
        (JsString.encode char ++ read.1, read.2) := by
  rw [readString.eq_def]
  simp only [Char.reduceEq, ↓reduceIte]
  split
  · next same =>
      cases same
      cases valid
  · next same =>
      cases same
      rw [valid]
  · next none => cases none

theorem readString_raw (plain : char ≠ '"') (unescaped : char ≠ '\\')
    (visible : ¬ char.toNat < 0x20) :
    readString (char :: after) =
      (readString after).map fun read =>
        (JsString.encode char ++ read.1, read.2) := by
  rw [readString.eq_def]
  simp [plain, unescaped, visible]

end ReadString

theorem weigh_readString {text rest : List Char} {read : JsString}
    (reads : readString text = some (read, rest)) :
    weighString read + weigh rest ≤ weigh text := by
  induction text using readString.induct generalizing read rest with
  | case1 => simp [readString] at reads
  | case2 after =>
    rw [readString.eq_def] at reads
    cases reads
    simp [weighString, JsString.points]
  | case3 first second third fourth after invalid =>
    simp [readString, invalid] at reads
  | case4 first second third fourth after code valid _ induction =>
    rw [readString_hex valid] at reads
    rcases Option.map_eq_some_iff.mp reads with ⟨later, found, same⟩
    cases same
    have unit := weighString_cons_le (.ofNat code) later.1
    have tail := induction found
    have escaped : weigh ['\\', 'u'] = 2 := by decide
    simp only [weigh_cons, weigh_nil] at escaped ⊢
    omega
  | case5 escape after _ invalid =>
    rw [readString.eq_def] at reads
    simp only [Char.reduceEq, ↓reduceIte] at reads
    split at reads
    · cases reads
    · next valid =>
        rw [invalid] at valid
        cases valid
  | case6 escape after _ char valid _ induction =>
    rw [readString_unescape valid] at reads
    rcases Option.map_eq_some_iff.mp reads with ⟨later, found, same⟩
    cases same
    have unit := weigh_quoteChar_unescape valid
    have tail := induction found
    have escaped : weigh ['\\'] = 1 := by decide
    rw [weighString_encode_append]
    simp only [weigh_cons, weigh_nil] at unit escaped ⊢
    omega
  | case7 => simp [readString] at reads
  | case8 char after plain unescaped control =>
    rw [readString.eq_def] at reads
    simp [plain, unescaped, control] at reads
  | case9 char after plain unescaped visible induction =>
    rw [readString_raw plain unescaped visible] at reads
    rcases Option.map_eq_some_iff.mp reads with ⟨later, found, same⟩
    cases same
    have tail := induction found
    rw [weighString_encode_append,
      weigh_quoteChar_raw plain unescaped visible]
    simp only [weigh_cons, weigh_nil]
    omega

/-! ## Values -/

variable {Number : Type}

mutual
def weight : Json Number → Nat
  | .null | .bool true => 1
  | .bool false | .number _ => 0
  | .string value => weighString value
  | .array items => weightItems items
  | .object members => weightMembers members + 2

def weightItems : JsonItems Number → Nat
  | .nil => 0
  | .cons head tail => head.weight + weightItems tail

def weightMembers : JsonMembers Number → Nat
  | .nil => 0
  | .cons key value tail =>
    weighString key + value.weight + weightMembers tail
end

def weightMember (member : JsString × Json Number) : Nat :=
  weighString member.1 + member.2.weight

theorem weightMembers_eq_sum (members : JsonMembers Number) :
    weightMembers members = (members.toList.map weightMember).sum := by
  cases members with
  | nil => rfl
  | cons key value tail =>
    rw [weightMembers, weightMembers_eq_sum tail]
    rfl
termination_by structural members

theorem weightMembers_create_le (members : JsonMembers Number) :
    weightMembers members.create ≤ weightMembers members := by
  have distinct := (Properties.ordered_create members.toList).1.of_map
  have part := List.subperm_of_subset distinct
    fun _ created => Properties.mem_of_mem_create created
  rw [weightMembers_eq_sum, weightMembers_eq_sum, JsonMembers.create,
    JsonMembers.toList_ofList]
  rcases part with ⟨kept, same, sublist⟩
  rw [← (same.map _).sum_eq]
  exact (sublist.map _).sum_le_sum fun _ _ => Nat.zero_le _

variable [JsonNumber Number]

mutual
theorem weigh_print : ∀ value : Json Number, value.Normal →
    weigh value.print = value.weight
  | .null, _ | .bool true, _ | .bool false, _ => rfl
  | .number value, normal => by
    rw [print, weight, weigh, List.countP_eq_zero]
    intro char member isHeavy
    have numeric := normal.text_numberChar char member
    simp only [heavy, Bool.or_eq_true, beq_iff_eq] at isHeavy
    rcases isHeavy with ((rfl | rfl) | rfl) | rfl <;>
      exact absurd numeric (by decide)
  | .string value, _ => by rw [print, weigh_quote, weight]
  | .array items, normal => by
    rw [print, weigh_cons, weigh_printItems items normal, weight]
    exact Nat.zero_add _
  | .object members, normal => by
    rw [print, weigh_cons, weigh_printMembers members normal.2, weight,
      Nat.add_comm]
    rfl

theorem weigh_printItems : ∀ items : JsonItems Number, NormalItems items →
    weigh (printItems items) = weightItems items
  | .nil, _ => rfl
  | .cons head tail, normal => by
    rw [printItems, weigh_append, weigh_print head normal.1,
      weigh_printMoreItems tail normal.2, weightItems]

theorem weigh_printMoreItems : ∀ items : JsonItems Number,
    NormalItems items → weigh (printMoreItems items) = weightItems items
  | .nil, _ => rfl
  | .cons head tail, normal => by
    rw [printMoreItems, weigh_cons, weigh_append, weigh_print head normal.1,
      weigh_printMoreItems tail normal.2, weightItems]
    exact Nat.zero_add _

theorem weigh_printMembers : ∀ members : JsonMembers Number,
    NormalMembers members →
    weigh (printMembers members) = weightMembers members + 1
  | .nil, _ => rfl
  | .cons key value tail, normal => by
    have colon : heavy ':' = false := rfl
    simp only [printMembers, weigh_append, weigh_cons, weigh_quote,
      weigh_print value normal.1, weigh_printMoreMembers tail normal.2,
      weightMembers, colon, Bool.false_eq_true, if_false]
    omega

theorem weigh_printMoreMembers : ∀ members : JsonMembers Number,
    NormalMembers members →
    weigh (printMoreMembers members) = weightMembers members + 1
  | .nil, _ => rfl
  | .cons key value tail, normal => by
    have colon : heavy ':' = false := rfl
    have comma : heavy ',' = false := rfl
    simp only [printMoreMembers, weigh_append, weigh_cons, weigh_quote,
      weigh_print value normal.1, weigh_printMoreMembers tail normal.2,
      weightMembers, colon, comma, Bool.false_eq_true, if_false]
    omega
end

/-! ## Reading -/

def Reads {Result : Type} (weight : Result → Nat)
    (read : List Char → Option (Result × List Char)) : Prop :=
  ∀ text result rest, read text = some (result, rest) →
    weight result + weigh rest ≤ weigh text

theorem Reads.inTurn {First Second Result : Type} {weightFirst : First → Nat}
    {weightSecond : Second → Nat}
    {readFirst : List Char → Option (First × List Char)}
    {readSecond : List Char → Option (Second × List Char)}
    (first : Reads weightFirst readFirst)
    (second : Reads weightSecond readSecond) (join : First → Second → Result)
    {text rest : List Char} {result : Result}
    (reads : ((readFirst text).bind fun head =>
      (readSecond head.2).bind fun tail =>
        some (join head.1 tail.1, tail.2)) = some (result, rest)) :
    ∃ head tail, result = join head tail ∧
      weightFirst head + weightSecond tail + weigh rest ≤ weigh text := by
  rcases Option.bind_eq_some_iff.mp reads with ⟨head, found, reads⟩
  rcases Option.bind_eq_some_iff.mp reads with ⟨tail, next, same⟩
  cases same
  have headWeight := first _ _ _ found
  have tailWeight := second _ _ _ next
  exact ⟨head.1, tail.1, rfl, by omega⟩

def weightBody (members : JsonMembers Number) : Nat :=
  weightMembers members + 1

section Reads

variable {fuel : Nat}

theorem Reads.value
    (items : Reads (weightItems : JsonItems Number → Nat) (readItems fuel))
    (members : Reads (weightBody : JsonMembers Number → Nat)
      (readMembers fuel)) :
    Reads (weight : Json Number → Nat) (readValue (fuel + 1)) := by
  intro text value rest reads
  refine le_trans ?_ (weigh_skipSpace_le text)
  rw [readValue] at reads
  split at reads
  case h_1 after visible =>
    cases reads
    rw [visible]
    simp [weight, heavy]
  case h_2 after visible =>
    cases reads
    rw [visible]
    simp [weight, heavy]
  case h_3 after visible =>
    cases reads
    rw [visible]
    simp [weight, heavy]
  case h_4 after visible =>
    rcases Option.map_eq_some_iff.mp reads with ⟨read, found, same⟩
    cases same
    have string := weigh_readString found
    rw [visible, weigh_cons, weight]
    exact string.trans (Nat.le_add_left ..)
  case h_5 after visible =>
    rcases Option.map_eq_some_iff.mp reads with ⟨read, found, same⟩
    cases same
    have inner := items _ _ _ found
    rw [visible, weigh_cons, weight]
    exact inner.trans (Nat.le_add_left ..)
  case h_6 after visible =>
    rcases Option.map_eq_some_iff.mp reads with ⟨read, found, same⟩
    cases same
    have inner : weightMembers read.1 + 1 + weigh read.2 ≤ weigh after :=
      members _ _ _ found
    have created := weightMembers_create_le read.1
    have brace : heavy '{' = true := rfl
    rw [visible, weigh_cons, weight, brace, if_pos rfl]
    omega
  case h_7 =>
    rcases Option.map_eq_some_iff.mp reads with ⟨read, found, same⟩
    cases same
    rw [weight, Nat.zero_add]
    exact (List.dropWhile_sublist isNumberChar).countP_le

theorem Reads.items
    (value : Reads (weight : Json Number → Nat) (readValue fuel))
    (more : Reads (weightItems : JsonItems Number → Nat)
      (readMoreItems fuel)) :
    Reads (weightItems : JsonItems Number → Nat) (readItems (fuel + 1)) := by
  intro text items rest reads
  refine le_trans ?_ (weigh_skipSpace_le text)
  rw [readItems] at reads
  split at reads
  case h_1 after visible =>
    cases reads
    rw [visible, weigh_cons, weightItems]
    exact Nat.le_refl _
  case h_2 =>
    rcases value.inTurn more JsonItems.cons reads with ⟨head, tail, rfl, sum⟩
    rw [weightItems]
    omega

theorem Reads.moreItems
    (value : Reads (weight : Json Number → Nat) (readValue fuel))
    (more : Reads (weightItems : JsonItems Number → Nat)
      (readMoreItems fuel)) :
    Reads (weightItems : JsonItems Number → Nat)
      (readMoreItems (fuel + 1)) := by
  intro text items rest reads
  refine le_trans ?_ (weigh_skipSpace_le text)
  rw [readMoreItems] at reads
  split at reads
  case h_1 after visible =>
    cases reads
    rw [visible, weigh_cons, weightItems]
    exact Nat.le_refl _
  case h_2 after visible =>
    rcases value.inTurn more JsonItems.cons reads with ⟨head, tail, rfl, sum⟩
    rw [visible, weigh_cons, weightItems]
    omega
  case h_3 => cases reads

theorem Reads.member
    (value : Reads (weight : Json Number → Nat) (readValue fuel)) :
    Reads (weightMember : JsString × Json Number → Nat)
      (readMember (fuel + 1)) := by
  intro text member rest reads
  refine le_trans ?_ (weigh_skipSpace_le text)
  rw [readMember] at reads
  split at reads
  case h_1 after visible =>
    rcases Option.bind_eq_some_iff.mp reads with ⟨⟨key, middle⟩, first, reads⟩
    dsimp only at reads
    have keyWeight := weigh_readString first
    have between := weigh_skipSpace_le middle
    split at reads
    case h_1 later colon =>
      rcases Option.bind_eq_some_iff.mp reads with ⟨⟨read, _⟩, second, same⟩
      cases same
      have valueWeight := value _ _ _ second
      rw [colon, weigh_cons] at between
      rw [visible, weigh_cons, weightMember]
      dsimp only
      omega
    case h_2 => cases reads
  case h_2 => cases reads

theorem Reads.members
    (member : Reads (weightMember : JsString × Json Number → Nat)
      (readMember fuel))
    (more : Reads (weightBody : JsonMembers Number → Nat)
      (readMoreMembers fuel)) :
    Reads (weightBody : JsonMembers Number → Nat)
      (readMembers (fuel + 1)) := by
  intro text members rest reads
  refine le_trans ?_ (weigh_skipSpace_le text)
  rw [readMembers] at reads
  split at reads
  case h_1 after visible =>
    cases reads
    rw [visible, weigh_cons]
    exact Nat.le_refl _
  case h_2 =>
    rcases member.inTurn more (fun head => JsonMembers.cons head.1 head.2)
      reads with ⟨head, tail, rfl, sum⟩
    rw [weightMember, weightBody] at sum
    rw [weightBody, weightMembers]
    omega

theorem Reads.moreMembers
    (member : Reads (weightMember : JsString × Json Number → Nat)
      (readMember fuel))
    (more : Reads (weightBody : JsonMembers Number → Nat)
      (readMoreMembers fuel)) :
    Reads (weightBody : JsonMembers Number → Nat)
      (readMoreMembers (fuel + 1)) := by
  intro text members rest reads
  refine le_trans ?_ (weigh_skipSpace_le text)
  rw [readMoreMembers] at reads
  split at reads
  case h_1 after visible =>
    cases reads
    rw [visible, weigh_cons]
    exact Nat.le_refl _
  case h_2 after visible =>
    rcases member.inTurn more (fun head => JsonMembers.cons head.1 head.2)
      reads with ⟨head, tail, rfl, sum⟩
    rw [weightMember, weightBody] at sum
    rw [visible, weigh_cons, weightBody, weightMembers]
    omega
  case h_3 => cases reads

structure ReadsAll (Number : Type) [JsonNumber Number] (fuel : Nat) :
    Prop where
  value : Reads (weight : Json Number → Nat) (readValue fuel)
  items : Reads (weightItems : JsonItems Number → Nat) (readItems fuel)
  moreItems : Reads (weightItems : JsonItems Number → Nat)
    (readMoreItems fuel)
  member : Reads (weightMember : JsString × Json Number → Nat)
    (readMember fuel)
  members : Reads (weightBody : JsonMembers Number → Nat) (readMembers fuel)
  moreMembers : Reads (weightBody : JsonMembers Number → Nat)
    (readMoreMembers fuel)

theorem readsAll (fuel : Nat) : ReadsAll Number fuel := by
  induction fuel with
  | zero => exact ⟨nofun, nofun, nofun, nofun, nofun, nofun⟩
  | succ fuel shorter =>
    exact ⟨.value shorter.items shorter.members,
      .items shorter.value shorter.moreItems,
      .moreItems shorter.value shorter.moreItems,
      .member shorter.value,
      .members shorter.member shorter.moreMembers,
      .moreMembers shorter.member shorter.moreMembers⟩

end Reads

theorem weigh_print_le {text : String} {value : Json Number}
    (normal : value.Normal) (denotes : parse text = some value) :
    weigh value.print ≤ weigh text.toList := by
  unfold parse at denotes
  split at denotes
  · next read rest reads =>
      split at denotes
      · cases denotes
        have all := (readsAll _).value _ _ _ reads
        rw [weigh_print value normal]
        omega
      · cases denotes
  · cases denotes

end Dispatch.Json
