import Dispatch.Foundation.JsonWeight
import Dispatch.Worker.JsonBlocks

/-! # Extraction of JSON

An object is written into a text and extracted from it.
-/

namespace Dispatch.Worker

/-! ## Blocks in a text -/

def Braceless (text : JsString) : Prop :=
  ∀ unit ∈ text, isOther unit = true

instance (text : JsString) : Decidable (Braceless text) :=
  List.decidableBAll _ text

section Blocks

variable {depth : Nat} {input inner : JsString}

theorem enclosed_append (closes : enclosed depth input = some inner)
    (after : JsString) : enclosed depth (input ++ after) = some inner := by
  induction input generalizing depth inner with
  | nil => cases closes
  | cons unit input induction =>
    rw [enclosed] at closes
    rw [List.cons_append, enclosed]
    split at closes
    · next last => rw [if_pos last, closes]
    · next remains =>
        rcases Option.map_eq_some_iff.mp closes with ⟨rest, found, rfl⟩
        rw [if_neg remains, induction found, Option.map_some]

theorem enclosed_closing (positive : 0 < depth)
    (closes : enclosed depth input = some inner) :
    ∃ init, inner = init ++ [closingBrace] := by
  induction input generalizing depth inner with
  | nil => cases closes
  | cons unit input induction =>
    rw [enclosed] at closes
    split at closes
    · next last =>
        cases closes
        refine ⟨[], ?_⟩
        rcases unit_cases unit with rfl | rfl | other
        · cases last
        · rfl
        · rw [level_other depth other] at last
          omega
    · next remains =>
        rcases Option.map_eq_some_iff.mp closes with ⟨rest, found, rfl⟩
        rcases induction (Nat.pos_of_ne_zero remains) found with
          ⟨init, rfl⟩
        exact ⟨unit :: init, rfl⟩

theorem shallow_append {after : JsString}
    (closes : shallow depth input = some inner) :
    shallow depth (input ++ after) = some inner := by
  rcases Option.filter_eq_some_iff.mp closes with ⟨found, fits⟩
  exact Option.filter_eq_some_iff.mpr ⟨enclosed_append found after, fits⟩

theorem scanFrom_eq_drop (skipped : Nat) (input : JsString) :
    scanFrom skipped input = scanFrom 0 (input.drop skipped) := by
  induction input generalizing skipped with
  | nil => cases skipped <;> rfl
  | cons unit input induction =>
    cases skipped with
    | zero => rfl
    | succ skipped => exact induction skipped

theorem scan_opening (input : JsString) :
    scan (openingBrace :: input) =
      match shallow 1 input with
      | some inner =>
        (openingBrace :: inner) :: scan (input.drop inner.length)
      | none => scan input := by
  rw [scan, scanFrom, if_pos rfl, shallow]
  cases enclosed 1 input with
  | none => rfl
  | some inner =>
    rw [Option.filter_some]
    by_cases fits : deepest 1 inner ≤ 2
    · simp [fits, scan, scanFrom_eq_drop inner.length]
    · simp [fits, scan]

theorem scan_of_ne {unit : UInt16} (different : unit ≠ openingBrace) :
    scan (unit :: input) = scan input := by
  rw [scan, scanFrom, if_neg different]
  rfl

theorem scan_braceless_append {before : JsString}
    (others : Braceless before) (input : JsString) :
    scan (before ++ input) = scan input := by
  induction before with
  | nil => rfl
  | cons unit before induction =>
    have other := isOther_iff.mp (others unit List.mem_cons_self)
    rw [List.cons_append, scan_of_ne other.1]
    exact induction fun unit member =>
      others unit (List.mem_cons_of_mem _ member)

theorem scan_braceless {text : JsString} (others : Braceless text) :
    scan text = [] := by
  have scanned := scan_braceless_append others []
  rw [List.append_nil] at scanned
  exact scanned

theorem scan_isBlock {text before after : JsString} (block : IsBlock text)
    (left : Braceless before) (right : Braceless after) :
    scan (before ++ text ++ after) = [text] := by
  rcases block with ⟨first, closes⟩
  rcases List.head?_eq_some_iff.mp first with ⟨inner, rfl⟩
  rw [List.tail_cons] at closes
  rw [List.append_assoc, scan_braceless_append left, List.cons_append,
    scan_opening, shallow_append closes]
  dsimp only
  rw [List.drop_left, scan_braceless right]

theorem isInfix_of_notMem {unit : UInt16} {rest before text : JsString}
    (absent : unit ∉ before) (part : unit :: rest <:+: before ++ text) :
    unit :: rest <:+: text := by
  induction before with
  | nil => exact part
  | cons other before induction =>
    rw [List.mem_cons, not_or] at absent
    rcases List.infix_cons_iff.mp part with first | later
    · exact absurd (List.cons_prefix_cons.mp first).1 absent.1
    · exact induction absent.2 later

theorem isInfix_of_braceless {text before after block : JsString}
    (isBlock : IsBlock block) (left : Braceless before)
    (right : Braceless after) (part : block <:+: before ++ text ++ after) :
    block <:+: text := by
  rcases isBlock with ⟨first, closes⟩
  rcases List.head?_eq_some_iff.mp first with ⟨inner, rfl⟩
  rcases enclosed_closing Nat.one_pos
    (Option.filter_eq_some_iff.mp closes).1 with ⟨init, last⟩
  rw [List.tail_cons] at last
  have opening : openingBrace ∉ before := fun member =>
    nomatch left openingBrace member
  have closing : closingBrace ∉ after.reverse := fun member =>
    nomatch right closingBrace (List.mem_reverse.mp member)
  rw [List.append_assoc] at part
  have begun := isInfix_of_notMem opening part
  -- The same from the end.
  have reversed : (openingBrace :: inner).reverse =
      closingBrace :: (openingBrace :: init).reverse := by
    rw [last, ← List.cons_append, List.reverse_append]
    rfl
  rw [← List.reverse_infix, List.reverse_append, reversed] at begun
  have ended := isInfix_of_notMem closing begun
  rw [← reversed, List.reverse_infix] at ended
  exact ended

end Blocks

/-! ## No other block denotes the object -/

section Objects

variable {Number : Type} [JsonNumber Number]

theorem exists_text {chars : List Char} {block : JsString}
    (isBlock : IsBlock block)
    (part : block <:+: chars.flatMap JsString.encode) :
    ∃ before text after, chars = before ++ text ++ after ∧
      text.flatMap JsString.encode = block := by
  rcases isBlock with ⟨first, closes⟩
  rcases List.head?_eq_some_iff.mp first with ⟨inner, rfl⟩
  rcases enclosed_closing Nat.one_pos
    (Option.filter_eq_some_iff.mp closes).1 with ⟨init, last⟩
  rw [List.tail_cons] at last
  rcases part with ⟨start, rest, whole⟩
  rw [List.append_assoc] at whole
  rcases JsString.encode_cut whole.symm with
    ⟨before, later, rfl, -, same⟩ | ⟨_, _, low, _, -, same, -, isLow⟩
  · rcases JsString.encode_cut same with
      ⟨text, after, rfl, encoded, -⟩ | ⟨begun, high, _, _, same, -, isHigh, -⟩
    · exact ⟨before, text, after, (List.append_assoc ..).symm, encoded⟩
    · rw [last, ← List.cons_append] at same
      cases (List.append_inj' same rfl).2
      cases isHigh
  · cases (List.cons.inj same).1
    cases isLow

theorem printMoreMembers_closing : ∀ members : JsonMembers Number,
    ∃ body, Json.printMoreMembers members = body ++ ['}']
  | .nil => ⟨[], rfl⟩
  | .cons key value tail => by
    rcases printMoreMembers_closing tail with ⟨body, last⟩
    refine ⟨',' :: (Json.quote key ++ ':' :: (value.print ++ body)), ?_⟩
    rw [Json.printMoreMembers, last]
    simp only [List.append_assoc, List.cons_append]

theorem print_object_closing (members : JsonMembers Number) :
    ∃ body, (Json.object members).print = body ++ ['}'] := by
  cases members with
  | nil => exact ⟨['{'], rfl⟩
  | cons key value tail =>
    rcases printMoreMembers_closing tail with ⟨body, last⟩
    refine ⟨'{' :: (Json.quote key ++ ':' :: (value.print ++ body)), ?_⟩
    rw [Json.print, Json.printMembers, last]
    simp only [List.append_assoc, List.cons_append]

theorem eq_of_denotes {members : JsonMembers Number}
    (normal : (Json.object members).Normal) {before text after : List Char}
    (whole : (Json.object members).print = before ++ text ++ after)
    (denotes : Json.parse (.ofList text) = some (Json.object members)) :
    before = [] ∧ after = [] := by
  have least := Json.weigh_print_le normal denotes
  rw [String.toList_ofList, whole, Json.weigh_append,
    Json.weigh_append] at least
  refine ⟨?_, ?_⟩
  · cases before with
    | nil => rfl
    | cons char before =>
      have first : '{' = char := by
        rw [Json.print] at whole
        exact (List.cons.inj whole).1
      have brace : Json.heavy '{' = true := rfl
      rw [Json.weigh_cons, ← first, if_pos brace] at least
      omega
  · rcases List.eq_nil_or_concat' after with rfl | ⟨init, char, rfl⟩
    · rfl
    · rcases print_object_closing members with ⟨body, closing⟩
      have last : '}' = char := by
        rw [closing, ← List.append_assoc] at whole
        exact List.singleton_inj.mp (List.append_inj' whole rfl).2
      have brace : Json.weigh ['}'] = 1 := rfl
      rw [Json.weigh_append init, ← last, brace] at least
      omega

def Language.ParsesJson (language : Language Number) : Prop :=
  ∀ text : String, language.parse text = Json.parse text

theorem eq_text_of_parse {language : Language Number}
    (parses : language.ParsesJson) {members : JsonMembers Number}
    (normal : (Json.object members).Normal) {block : JsString}
    (isBlock : IsBlock block)
    (part : block <:+: (Json.object members).stringify)
    (denotes : language.parse block = some (Json.object members)) :
    block = (Json.object members).stringify := by
  rw [Json.stringify, JsString.ofString, String.toList_ofList] at part ⊢
  rcases exists_text isBlock part with ⟨before, text, after, whole, rfl⟩
  have parsed : Json.parse (.ofList text) = some (Json.object members) := by
    rw [← parses, JsString.ofString, String.toList_ofList]
    exact denotes
  rcases eq_of_denotes normal whole parsed with ⟨rfl, rfl⟩
  rw [whole, List.nil_append, List.append_nil]

end Objects

/-! ## Depth -/

section Depth

variable {Number : Type}

mutual
def objectDepth : Json Number → Nat
  | .array items => itemsDepth items
  | .object members => membersDepth members + 1
  | _ => 0

def itemsDepth : JsonItems Number → Nat
  | .nil => 0
  | .cons head tail => max (objectDepth head) (itemsDepth tail)

def membersDepth : JsonMembers Number → Nat
  | .nil => 0
  | .cons _ value tail => max (objectDepth value) (membersDepth tail)
end

mutual
def BracelessStrings : Json Number → Prop
  | .string value => Braceless value
  | .array items => BracelessItems items
  | .object members => BracelessMembers members
  | _ => True

def BracelessItems : JsonItems Number → Prop
  | .nil => True
  | .cons head tail => BracelessStrings head ∧ BracelessItems tail

def BracelessMembers : JsonMembers Number → Prop
  | .nil => True
  | .cons key value tail =>
    Braceless key ∧ BracelessStrings value ∧ BracelessMembers tail
end

structure Passes (text : JsString) (height : Nat) : Prop where
  enclosed : ∀ depth rest, 0 < depth →
    enclosed depth (text ++ rest) = (enclosed depth rest).map (text ++ ·)
  deepest : ∀ depth rest,
    deepest depth (text ++ rest) = max (depth + height) (deepest depth rest)

namespace Passes

theorem braceless {text : JsString} (others : Braceless text) :
    Passes text 0 := by
  induction text with
  | nil =>
    refine ⟨fun depth rest _ => ?_, fun depth rest => ?_⟩
    · exact (Option.map_id' ..).symm
    · exact (max_eq_right (le_deepest depth rest)).symm
  | cons unit text induction =>
    have other := others unit List.mem_cons_self
    have passes := induction fun unit member =>
      others unit (List.mem_cons_of_mem _ member)
    refine ⟨fun depth rest positive => ?_, fun depth rest => ?_⟩
    · rw [List.cons_append, Worker.enclosed, level_other depth other,
        if_neg (by omega), passes.enclosed depth rest positive,
        Option.map_map]
      rfl
    · rw [List.cons_append, Worker.deepest, level_other depth other,
        passes.deepest]
      omega

theorem append {first second : JsString} {left right : Nat}
    (begins : Passes first left) (ends : Passes second right) :
    Passes (first ++ second) (max left right) := by
  refine ⟨fun depth rest positive => ?_, fun depth rest => ?_⟩
  · rw [List.append_assoc, begins.enclosed depth _ positive,
      ends.enclosed depth rest positive, Option.map_map]
    simp only [Function.comp_def, List.append_assoc]
  · rw [List.append_assoc, begins.deepest, ends.deepest]
    omega

theorem braces {text : JsString} {height : Nat} (passes : Passes text height) :
    Passes (openingBrace :: (text ++ [closingBrace])) (height + 1) := by
  refine ⟨fun depth rest positive => ?_, fun depth rest => ?_⟩
  · rw [List.cons_append, List.append_assoc, Worker.enclosed, level_opening,
      if_neg (Nat.succ_ne_zero _),
      passes.enclosed (depth + 1) _ (Nat.succ_pos depth), List.singleton_append,
      Worker.enclosed, level_closing, Nat.add_sub_cancel, if_neg (by omega),
      Option.map_map, Option.map_map]
    simp only [Function.comp_def, List.cons_append, List.append_assoc,
      List.nil_append]
  · rw [List.cons_append, List.append_assoc, Worker.deepest, level_opening,
      passes.deepest, List.singleton_append, Worker.deepest, level_closing,
      Nat.add_sub_cancel]
    omega

end Passes

def Plain (text : List Char) : Prop :=
  ∀ char ∈ text, char ≠ '{' ∧ char ≠ '}'

instance (text : List Char) : Decidable (Plain text) :=
  List.decidableBAll _ text

theorem plain_singleton (char : Char) :
    Plain [char] ↔ char ≠ '{' ∧ char ≠ '}' := by
  rw [Plain, List.forall_mem_singleton]

theorem braceless_encode_iff (char : Char) :
    Braceless (JsString.encode char) ↔ Plain [char] := by
  rw [plain_singleton]
  rcases JsString.encode_cases char with
    ⟨basic, single⟩ | ⟨high, low, pair, isHigh, isLow, same⟩
  · have value : (UInt16.ofNat char.toNat).toNat = char.toNat :=
      UInt16.toNat_ofNat_of_lt basic
    have opening : openingBrace.toNat = '{'.toNat := rfl
    have closing : closingBrace.toNat = '}'.toNat := rfl
    rw [Braceless, single, List.forall_mem_singleton, isOther_iff, ne_eq, ne_eq,
      ← UInt16.toNat_inj, ← UInt16.toNat_inj, value, opening, closing,
      Char.toNat_inj, Char.toNat_inj]
  · refine iff_of_true ?_ ⟨?_, ?_⟩
    · rw [pair]
      intro unit member
      rw [isOther_iff]
      rcases List.mem_cons.mp member with rfl | last
      · constructor <;> rintro rfl <;> cases isHigh
      · rw [List.mem_singleton.mp last]
        constructor <;> rintro rfl <;> cases isLow
    · rintro rfl
      cases pair
    · rintro rfl
      cases pair

theorem plain_hexDigit : ∀ value : Fin 16,
    Plain [Json.hexDigit value.val] := by
  decide

theorem plain_hexDigits {code : Nat} (bound : code < 0x10000) :
    Plain (Json.hexDigits code) := by
  have first := plain_hexDigit ⟨code / 4096, by omega⟩
  have second := plain_hexDigit ⟨code / 256 % 16, by omega⟩
  have third := plain_hexDigit ⟨code / 16 % 16, by omega⟩
  have fourth := plain_hexDigit ⟨code % 16, by omega⟩
  rw [plain_singleton] at first second third fourth
  intro char member
  simp only [Json.hexDigits, List.mem_cons, List.not_mem_nil,
    or_false] at member
  rcases member with rfl | rfl | rfl | rfl
  · exact first
  · exact second
  · exact third
  · exact fourth

theorem Plain.append {first second : List Char} (left : Plain first)
    (right : Plain second) : Plain (first ++ second) :=
  fun char member => (List.mem_append.mp member).elim (left char) (right char)

theorem plain_quoteChar {char : Char} (plain : Plain [char]) :
    Plain (Json.quoteChar char) := by
  unfold Json.quoteChar
  -- the one-letter escapes
  iterate 7
    split
    · decide
  split
  case isTrue control =>
    have high := plain_hexDigit ⟨char.toNat / 16, by omega⟩
    have low := plain_hexDigit ⟨char.toNat % 16, by omega⟩
    exact (by decide : Plain ['\\', 'u', '0', '0']).append (high.append low)
  case isFalse => exact plain

theorem plain_quote {text : JsString} (others : Braceless text) :
    Plain (Json.quote text) := by
  have points : Plain (text.points.flatMap Json.quotePoint) := by
    intro char member
    rcases List.mem_flatMap.mp member with ⟨point, listed, quoted⟩
    cases point with
    | char value =>
      have part : Braceless (JsString.encode value) := by
        intro unit encoded
        apply others
        rw [← JsString.flatMap_units_points text]
        exact List.mem_flatMap.mpr ⟨_, listed, encoded⟩
      exact plain_quoteChar ((braceless_encode_iff value).mp part) char quoted
    | lone unit =>
      have escape := (by decide : Plain ['\\', 'u']).append
        (plain_hexDigits unit.toNat_lt)
      exact escape char quoted
  intro char member
  rw [Json.quote, List.mem_cons, List.mem_append, List.mem_singleton] at member
  rcases member with rfl | inner | rfl
  · decide
  · exact points char inner
  · decide

def PassesText (text : List Char) (height : Nat) : Prop :=
  Passes (text.flatMap JsString.encode) height

theorem PassesText.plain {text : List Char} (plain : Plain text) :
    PassesText text 0 := by
  refine Passes.braceless ?_
  intro unit member
  rcases List.mem_flatMap.mp member with ⟨char, listed, encoded⟩
  have single := (plain_singleton char).mpr (plain char listed)
  exact (braceless_encode_iff char).mpr single unit encoded

theorem PassesText.append {first second : List Char} {left right : Nat}
    (begins : PassesText first left) (ends : PassesText second right) :
    PassesText (first ++ second) (max left right) := by
  have passes := Passes.append begins ends
  rw [← List.flatMap_append] at passes
  exact passes

theorem PassesText.after {first second : List Char} {height : Nat}
    (plain : Plain first) (ends : PassesText second height) :
    PassesText (first ++ second) height := by
  have passes := (PassesText.plain plain).append ends
  rw [Nat.zero_max] at passes
  exact passes

theorem PassesText.braces {text : List Char} {height : Nat}
    (passes : PassesText text height) :
    PassesText ('{' :: (text ++ ['}'])) (height + 1) := by
  unfold PassesText
  rw [List.flatMap_cons, List.flatMap_append]
  exact Passes.braces passes

variable [JsonNumber Number]

theorem plain_number {value : Number} (faithful : JsonNumber.Faithful value) :
    Plain (JsonNumber.text value) := by
  intro char member
  have numeric := faithful.text_numberChar char member
  constructor <;> rintro rfl <;> exact absurd numeric (by decide)

mutual
theorem passes_print : ∀ value : Json Number, value.Normal →
    BracelessStrings value → PassesText value.print (objectDepth value)
  | .null, _, _ => .plain (by decide : Plain ['n', 'u', 'l', 'l'])
  | .bool true, _, _ => .plain (by decide : Plain ['t', 'r', 'u', 'e'])
  | .bool false, _, _ => .plain (by decide : Plain ['f', 'a', 'l', 's', 'e'])
  | .number value, normal, _ => .plain (plain_number normal)
  | .string value, _, others => .plain (plain_quote others)
  | .array items, normal, others => by
    rw [Json.print, objectDepth]
    exact .after (by decide : Plain ['['])
      (passes_printItems items normal others)
  | .object members, normal, others => by
    rcases passes_printMembers members normal.2 others with
      ⟨body, closing, passes⟩
    rw [Json.print, closing, objectDepth]
    exact passes.braces

theorem passes_printItems : ∀ items : JsonItems Number,
    Json.NormalItems items → BracelessItems items →
    PassesText (Json.printItems items) (itemsDepth items)
  | .nil, _, _ => .plain (by decide : Plain [']'])
  | .cons head tail, normal, others => by
    rw [Json.printItems, itemsDepth]
    exact (passes_print head normal.1 others.1).append
      (passes_printMoreItems tail normal.2 others.2)

theorem passes_printMoreItems : ∀ items : JsonItems Number,
    Json.NormalItems items → BracelessItems items →
    PassesText (Json.printMoreItems items) (itemsDepth items)
  | .nil, _, _ => .plain (by decide : Plain [']'])
  | .cons head tail, normal, others => by
    rw [Json.printMoreItems, itemsDepth]
    exact .after (by decide : Plain [','])
      ((passes_print head normal.1 others.1).append
        (passes_printMoreItems tail normal.2 others.2))

theorem passes_printMembers : ∀ members : JsonMembers Number,
    Json.NormalMembers members → BracelessMembers members →
    ∃ body, Json.printMembers members = body ++ ['}'] ∧
      PassesText body (membersDepth members)
  | .nil, _, _ => ⟨[], rfl, .plain (by decide)⟩
  | .cons key value tail, normal, others => by
    rcases passes_printMoreMembers tail normal.2 others.2.2 with
      ⟨body, closing, passes⟩
    have member := (passes_print value normal.1 others.2.1).append passes
    refine ⟨Json.quote key ++ ([':'] ++ (value.print ++ body)), ?_, ?_⟩
    · rw [Json.printMembers, closing]
      simp only [List.append_assoc, List.cons_append, List.nil_append]
    · exact .after (plain_quote others.1)
        (.after (by decide : Plain [':']) member)

theorem passes_printMoreMembers : ∀ members : JsonMembers Number,
    Json.NormalMembers members → BracelessMembers members →
    ∃ body, Json.printMoreMembers members = body ++ ['}'] ∧
      PassesText body (membersDepth members)
  | .nil, _, _ => ⟨[], rfl, .plain (by decide)⟩
  | .cons key value tail, normal, others => by
    rcases passes_printMoreMembers tail normal.2 others.2.2 with
      ⟨body, closing, passes⟩
    have member := (passes_print value normal.1 others.2.1).append passes
    refine ⟨[','] ++ (Json.quote key ++ ([':'] ++ (value.print ++ body))),
      ?_, ?_⟩
    · rw [Json.printMoreMembers, closing]
      simp only [List.append_assoc, List.cons_append, List.nil_append]
    · exact .after (by decide : Plain [',']) (.after (plain_quote others.1)
        (.after (by decide : Plain [':']) member))
end

theorem isBlock_iff_depth {members : JsonMembers Number}
    (normal : (Json.object members).Normal)
    (others : BracelessStrings (Json.object members)) :
    IsBlock (Json.object members).stringify ↔
      objectDepth (Json.object members) ≤ 2 := by
  rcases passes_printMembers members normal.2 others with
    ⟨body, closing, passes⟩
  have inner : body.flatMap JsString.encode ++ [closingBrace] =
      (body ++ ['}']).flatMap JsString.encode := by
    rw [List.flatMap_append]
    rfl
  have text : ((Json.object members).stringify : JsString) =
      openingBrace :: (body.flatMap JsString.encode ++ [closingBrace]) := by
    rw [inner, Json.stringify, JsString.ofString, String.toList_ofList,
      Json.print, closing]
    rfl
  have closes := passes.enclosed 1 [closingBrace] Nat.one_pos
  have height := passes.deepest 1 [closingBrace]
  rw [text, IsBlock, shallow, objectDepth]
  simp only [List.head?_cons, List.tail_cons, true_and]
  rw [closes, Option.filter_eq_some_iff]
  have last : deepest 1 [closingBrace] = 1 := rfl
  rw [height, last, decide_eq_true_eq]
  exact ⟨fun fits => by omega, fun fits => ⟨rfl, by omega⟩⟩

end Depth

/-! ## What is extracted -/

theorem executeTask_extract_json {Number : Type} (language : Language Number)
    (kind : Kind) (input : JsString) :
    executeTask language kind ("extract_json" : String) input =
      extractJson language input := by
  cases kind <;> rfl

section Extraction

variable {Number : Type} [JsonNumber Number] {language : Language Number}
    {members : JsonMembers Number} {before after : JsString}

theorem extracted_iff (parses : language.ParsesJson)
    (normal : (Json.object members).Normal) (left : Braceless before)
    (right : Braceless after) :
    (blocks (before ++ (Json.object members).stringify ++ after)).filterMap
        language.parse = [Json.object members] ↔
      IsBlock (Json.object members).stringify := by
  rw [blocks_eq_scan]
  constructor
  · intro extracted
    have member : Json.object members ∈ [Json.object members] :=
      List.mem_singleton_self _
    rw [← extracted] at member
    rcases List.mem_filterMap.mp member with ⟨block, listed, denotes⟩
    have isBlock := isBlock_of_mem_scanFrom listed
    rw [← blocks_eq_scan, ← matchAll_jsonPattern] at listed
    have part := (Regex.apart_matchAll jsonPattern _).isInfix listed
    have whole := eq_text_of_parse parses normal isBlock
      (isInfix_of_braceless isBlock left right part) denotes
    rw [← whole]
    exact isBlock
  · intro isBlock
    rw [scan_isBlock isBlock left right, List.filterMap_cons, parses,
      Json.parse_stringify _ normal]
    rfl

/-- Exactly the object is extracted from a text with the object in it if and
only if its braces, counted in strings too, are nested at most twice and the
first one is closed by the last one. -/
theorem extract_object_iff (parses : language.ParsesJson) (kind : Kind)
    (normal : (Json.object members).Normal) (left : Braceless before)
    (right : Braceless after) :
    (executeTask language kind ("extract_json" : String)
          (before ++ (Json.object members).stringify ++ after) =
        object [("extracted", .array (.ofList [.object members])),
          ("count", .number (language.number 1))] ↔
      IsBlock (Json.object members).stringify) ∧
    (BracelessStrings (Json.object members) →
      (IsBlock (Json.object members).stringify ↔
        objectDepth (Json.object members) ≤ 2)) := by
  refine ⟨?_, isBlock_iff_depth normal⟩
  rw [executeTask_extract_json, extractJson, object_eq_iff, Json.array.injEq,
    ← extracted_iff parses normal left right]
  constructor
  · rintro ⟨same, -⟩
    have lists := congrArg JsonItems.toList same
    rw [JsonItems.toList_ofList, JsonItems.toList_ofList] at lists
    exact lists
  · intro same
    rw [same]
    exact ⟨rfl, rfl⟩

end Extraction

namespace Sample

theorem parsesJson : @Language.ParsesJson ℚ digits language := by
  intro text
  have parsed : language.parse text =
      (JsString.ofString text).text?.bind (@Json.parse ℚ digits) := rfl
  rw [parsed, JsString.text?_ofString, Option.bind_some]

def single (key : String) (value : Json ℚ) : JsonMembers ℚ :=
  .ofList [(key, value)]

theorem normal_single (key : String) {value : Json ℚ}
    (normal : @Json.Normal ℚ digits value) :
    @Json.Normal ℚ digits (.object (single key value)) :=
  ⟨⟨List.nodup_singleton _, List.pairwise_singleton ..⟩, normal, trivial⟩

theorem normal_empty : @Json.Normal ℚ digits (.object .nil) :=
  ⟨⟨List.nodup_nil, List.Pairwise.nil⟩, trivial⟩

end Sample

theorem sample_extract_object :
    executeTask Sample.language .desktop ("extract_json" : String)
        (("see " : String) ++ ("\x7b\"a\":\x7b\x7d\x7d" : String) ++
          ("." : String)) =
      object [("extracted", .array (.ofList [.object
          (Sample.single "a" (.object .nil))])), ("count", .number 1)] := by
  have normal := Sample.normal_single "a" Sample.normal_empty
  have text : @Json.stringify ℚ Sample.digits
      (.object (Sample.single "a" (.object .nil))) =
        "\x7b\"a\":\x7b\x7d\x7d" := by
    decide +kernel
  have left : Braceless ("see " : String) := by decide
  have right : Braceless ("." : String) := by decide
  have extracts := (@extract_object_iff ℚ Sample.digits _ _ _ _
    Sample.parsesJson .desktop normal left right).1
  rw [text] at extracts
  exact extracts.mpr (by decide +kernel)

theorem sample_not_extracted :
    @Json.stringify ℚ Sample.digits (.object (Sample.single "a"
        (.object (Sample.single "b" (.object .nil))))) =
      "\x7b\"a\":\x7b\"b\":\x7b\x7d\x7d\x7d" ∧
    executeTask Sample.language .desktop ("extract_json" : String)
        ("\x7b\"a\":\x7b\"b\":\x7b\x7d\x7d\x7d" : String) =
      object [("extracted", .array (.ofList [.object
          (Sample.single "b" (.object .nil))])), ("count", .number 1)] ∧
    @Json.stringify ℚ Sample.digits (.object (Sample.single "a"
        (.string ("\x7d" : String)))) = "\x7b\"a\":\"\x7d\"\x7d" ∧
    executeTask Sample.language .desktop ("extract_json" : String)
        ("\x7b\"a\":\"\x7d\"\x7d" : String) =
      object [("extracted", .array .nil), ("count", .number 0)] := by
  refine ⟨by decide +kernel, ?_, by decide +kernel, ?_⟩
  · have found : blocks ("\x7b\"a\":\x7b\"b\":\x7b\x7d\x7d\x7d" : String) =
        [(@Json.stringify ℚ Sample.digits
          (.object (Sample.single "b" (.object .nil))) : JsString)] := by
      decide +kernel
    have parsed := @Json.parse_stringify ℚ Sample.digits _
      (Sample.normal_single "b" Sample.normal_empty)
    rw [executeTask_extract_json, extractJson, found, List.filterMap_cons,
      Sample.parsesJson, parsed]
    rfl
  · have found : blocks ("\x7b\"a\":\"\x7d\"\x7d" : String) =
        [(("\x7b\"a\":\"\x7d" : String) : JsString)] := by
      decide +kernel
    have broken : @Json.parse ℚ Sample.digits "\x7b\"a\":\"\x7d" = none := by
      rw [← Option.isNone_iff_eq_none]
      decide +kernel
    rw [executeTask_extract_json, extractJson, found, List.filterMap_cons,
      Sample.parsesJson, broken]
    rfl

end Dispatch.Worker
