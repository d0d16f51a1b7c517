import Mathlib.Data.Char
import Mathlib.Data.List.Basic

/-! # ECMAScript strings

A string of the language is a sequence of UTF-16 code units, in which a
surrogate may stand without its partner.
-/

namespace Dispatch

abbrev JsString := List UInt16

inductive CodePoint
  | char (value : Char)
  | lone (unit : UInt16)
  deriving DecidableEq, Repr

namespace JsString

def isHighSurrogate (unit : UInt16) : Bool :=
  0xd800 ≤ unit.toNat && unit.toNat < 0xdc00

def isLowSurrogate (unit : UInt16) : Bool :=
  0xdc00 ≤ unit.toNat && unit.toNat < 0xe000

def pairChar (high low : UInt16) : Char :=
  Char.ofNat (0x10000 + (high.toNat - 0xd800) * 0x400 + (low.toNat - 0xdc00))

def singlePoint (unit : UInt16) : CodePoint :=
  if isHighSurrogate unit || isLowSurrogate unit then .lone unit
  else .char (Char.ofNat unit.toNat)

def points : JsString → List CodePoint
  | [] => []
  | [unit] => [singlePoint unit]
  | unit :: next :: rest =>
    if isHighSurrogate unit && isLowSurrogate next then
      .char (pairChar unit next) :: points rest
    else
      singlePoint unit :: points (next :: rest)

def encode (char : Char) : JsString :=
  if char.toNat < 0x10000 then
    [.ofNat char.toNat]
  else
    [.ofNat (0xd800 + (char.toNat - 0x10000) / 0x400),
      .ofNat (0xdc00 + (char.toNat - 0x10000) % 0x400)]

def ofString (text : String) : JsString :=
  text.toList.flatMap encode

instance : Coe String JsString := ⟨ofString⟩

end JsString

namespace CodePoint

def units : CodePoint → JsString
  | char value => JsString.encode value
  | lone unit => [unit]

def scalar : CodePoint → Char
  | char value => value
  | lone _ => Char.ofNat 0xfffd

def char? : CodePoint → Option Char
  | char value => some value
  | lone _ => none

end CodePoint

namespace JsString

def toText (string : JsString) : String :=
  .ofList (string.points.map CodePoint.scalar)

def text? (string : JsString) : Option String :=
  (string.points.mapM CodePoint.char?).map String.ofList

/-- `string.includes(pattern)` -/
def includes : JsString → JsString → Bool
  | [], pattern => pattern.isEmpty
  | unit :: rest, pattern =>
    pattern.isPrefixOf (unit :: rest) || includes rest pattern

/-! ## Code points and code units -/

private theorem toNat_ofNat {value : Nat} (bound : value < 0x110000)
    (scalar : value < 0xd800 ∨ 0xdfff < value) :
    (Char.ofNat value).toNat = value := by
  have valid : value.isValidChar := by
    rcases scalar with low | high
    · exact .inl low
    · exact .inr ⟨high, bound⟩
  rw [Char.ofNat, dif_pos valid]
  rfl

private theorem units_singlePoint (unit : UInt16) :
    (singlePoint unit).units = [unit] := by
  have bound := unit.toNat_lt
  unfold singlePoint
  split_ifs with surrogate
  · rfl
  · simp only [isHighSurrogate, isLowSurrogate, Bool.or_eq_true,
      Bool.and_eq_true, decide_eq_true_eq] at surrogate
    have value : (Char.ofNat unit.toNat).toNat = unit.toNat :=
      toNat_ofNat (by omega) (by omega)
    rw [CodePoint.units, encode, value, if_pos (by omega), UInt16.ofNat_toNat]

theorem encode_pairChar {high low : UInt16}
    (isHigh : isHighSurrogate high = true) (isLow : isLowSurrogate low = true) :
    encode (pairChar high low) = [high, low] := by
  simp only [isHighSurrogate, isLowSurrogate, Bool.and_eq_true,
    decide_eq_true_eq] at isHigh isLow
  have value : (pairChar high low).toNat =
      0x10000 + (high.toNat - 0xd800) * 0x400 + (low.toNat - 0xdc00) :=
    toNat_ofNat (by omega) (by omega)
  have highPart : 0xd800 + ((pairChar high low).toNat - 0x10000) / 0x400 =
      high.toNat := by omega
  have lowPart : 0xdc00 + ((pairChar high low).toNat - 0x10000) % 0x400 =
      low.toNat := by omega
  rw [encode, if_neg (by omega), highPart, lowPart, UInt16.ofNat_toNat,
    UInt16.ofNat_toNat]

theorem flatMap_units_points (string : JsString) :
    string.points.flatMap CodePoint.units = string := by
  induction string using points.induct with
  | case1 => rfl
  | case2 unit => simp [points, units_singlePoint]
  | case3 high low rest pair induction =>
    rw [Bool.and_eq_true] at pair
    rw [points, if_pos (by simpa using pair), List.flatMap_cons, induction,
      CodePoint.units, encode_pairChar pair.1 pair.2]
    rfl
  | case4 unit next rest single induction =>
    rw [points, if_neg single, List.flatMap_cons, induction,
      units_singlePoint]
    rfl

/-! ## Texts -/

private theorem toNat_lt_or (char : Char) :
    char.toNat < 0xd800 ∨ 0xdfff < char.toNat ∧ char.toNat < 0x110000 :=
  char.valid

private theorem points_cons (unit : UInt16) (rest : JsString)
    (single : isHighSurrogate unit = false) :
    points (unit :: rest) = singlePoint unit :: points rest := by
  cases rest with
  | nil => rfl
  | cons next rest => simp [points, single]

theorem encode_cases (char : Char) :
    (char.toNat < 0x10000 ∧ encode char = [.ofNat char.toNat]) ∨
      ∃ high low, encode char = [high, low] ∧ isHighSurrogate high = true ∧
        isLowSurrogate low = true ∧ pairChar high low = char := by
  have valid := toNat_lt_or char
  unfold encode
  split_ifs with basic
  · exact .inl ⟨basic, rfl⟩
  · set offset := char.toNat - 0x10000 with offsetEq
    have high : (UInt16.ofNat (0xd800 + offset / 0x400)).toNat =
        0xd800 + offset / 0x400 :=
      UInt16.toNat_ofNat_of_lt (by rw [UInt16.size]; omega)
    have low : (UInt16.ofNat (0xdc00 + offset % 0x400)).toNat =
        0xdc00 + offset % 0x400 :=
      UInt16.toNat_ofNat_of_lt (by rw [UInt16.size]; omega)
    have value : 0x10000 + (0xd800 + offset / 0x400 - 0xd800) * 0x400 +
        (0xdc00 + offset % 0x400 - 0xdc00) = char.toNat := by omega
    refine .inr ⟨_, _, rfl, ?_, ?_, ?_⟩
    · simp only [isHighSurrogate, high, Bool.and_eq_true, decide_eq_true_eq]
      omega
    · simp only [isLowSurrogate, low, Bool.and_eq_true, decide_eq_true_eq]
      omega
    · rw [pairChar, high, low, value, Char.ofNat_toNat]

private theorem singlePoint_ofNat {char : Char} (basic : char.toNat < 0x10000) :
    isHighSurrogate (.ofNat char.toNat) = false ∧
      singlePoint (.ofNat char.toNat) = .char char := by
  have valid := toNat_lt_or char
  have unit : (UInt16.ofNat char.toNat).toNat = char.toNat :=
    UInt16.toNat_ofNat_of_lt basic
  have notHigh : isHighSurrogate (.ofNat char.toNat) = false := by
    simp only [isHighSurrogate, unit, Bool.and_eq_false_iff,
      decide_eq_false_iff_not]
    omega
  have notLow : isLowSurrogate (.ofNat char.toNat) = false := by
    simp only [isLowSurrogate, unit, Bool.and_eq_false_iff,
      decide_eq_false_iff_not]
    omega
  refine ⟨notHigh, ?_⟩
  rw [singlePoint, notHigh, notLow, unit, Char.ofNat_toNat]
  rfl

theorem points_encode_append (char : Char) (rest : JsString) :
    points (encode char ++ rest) = .char char :: points rest := by
  rcases encode_cases char with
    ⟨basic, encoded⟩ | ⟨high, low, encoded, isHigh, isLow, same⟩
  · rcases singlePoint_ofNat basic with ⟨notHigh, point⟩
    rw [encoded, List.singleton_append, points_cons _ _ notHigh, point]
  · rw [encoded, List.cons_append, List.singleton_append, points, isHigh, isLow,
      Bool.and_self, if_pos rfl, same]

theorem points_ofString (text : String) :
    (ofString text).points = text.toList.map CodePoint.char := by
  unfold ofString
  induction text.toList with
  | nil => rfl
  | cons char rest induction =>
    rw [List.flatMap_cons, points_encode_append, induction, List.map_cons]

@[simp] theorem toText_ofString (text : String) :
    (ofString text).toText = text := by
  rw [toText, points_ofString, List.map_map]
  have scalars : text.toList.map (CodePoint.scalar ∘ CodePoint.char) =
      text.toList := List.map_id _
  rw [scalars, String.ofList_toList]

@[simp] theorem text?_ofString (text : String) :
    (ofString text).text? = some text := by
  have chars : (text.toList.map CodePoint.char).mapM CodePoint.char? =
      some text.toList := by
    induction text.toList with
    | nil => rfl
    | cons char rest induction => simp [CodePoint.char?, induction]
  rw [text?, points_ofString, chars, Option.map_some, String.ofList_toList]

theorem ofString_of_text? {string : JsString} {text : String}
    (read : string.text? = some text) : ofString text = string := by
  have units : ∀ (points : List CodePoint) (chars : List Char),
      points.mapM CodePoint.char? = some chars →
      chars.flatMap encode = points.flatMap CodePoint.units := by
    intro points
    induction points with
    | nil =>
      intro chars read
      cases read
      rfl
    | cons point rest induction =>
      intro chars read
      cases point with
      | lone unit => simp [CodePoint.char?] at read
      | char value =>
        simp only [List.mapM_cons, CodePoint.char?, Option.pure_def,
          Option.bind_eq_bind, Option.bind_some,
          Option.bind_eq_some_iff] at read
        rcases read with ⟨others, readOthers, same⟩
        cases same
        rw [List.flatMap_cons, List.flatMap_cons,
          induction others readOthers]
        rfl
  rcases Option.map_eq_some_iff.mp read with ⟨chars, readChars, rfl⟩
  rw [ofString, String.toList_ofList, units _ _ readChars,
    flatMap_units_points]

theorem eq_nil_of_toText_eq_empty {string : JsString}
    (empty : string.toText = "") : string = [] := by
  have noPoints : string.points = [] := by
    rw [toText, String.ofList_eq_empty_iff] at empty
    exact List.map_eq_nil_iff.mp empty
  rw [← flatMap_units_points string, noPoints, List.flatMap_nil]

theorem ofString_injective : Function.Injective ofString :=
  Function.LeftInverse.injective toText_ofString

theorem ofString_append (first second : String) :
    ofString (first ++ second) = ofString first ++ ofString second := by
  rw [ofString, String.toList_append, List.flatMap_append]
  rfl

theorem head?_ofString_append {text : String} {char : Char} {chars : List Char}
    (spelled : text = String.ofList (char :: chars)) (rest : JsString) :
    (ofString text ++ rest).head? = (encode char).head? := by
  rw [ofString, spelled, String.toList_ofList, List.flatMap_cons,
    List.append_assoc]
  rcases encode_cases char with ⟨_, encoded⟩ | ⟨high, low, encoded, _⟩
  · rw [encoded]
    rfl
  · rw [encoded]
    rfl

theorem head?_ofString_concat {first : String} {char : Char}
    {chars : List Char} (spelled : first = String.ofList (char :: chars))
    (second : String) :
    (ofString (first ++ second)).head? = (encode char).head? := by
  rw [ofString_append, head?_ofString_append spelled]

theorem isEmpty_ofString (text : String) :
    (ofString text).isEmpty = decide (text = "") := by
  by_cases empty : text = ""
  · subst empty
    rfl
  · have units : ofString text ≠ [] := fun none =>
      empty (ofString_injective none)
    simp [empty, units]

/-! ## Parts of texts -/

theorem encode_cut {chars : List Char} {left right : JsString}
    (whole : chars.flatMap encode = left ++ right) :
    (∃ first second, chars = first ++ second ∧
      first.flatMap encode = left ∧ second.flatMap encode = right) ∨
    ∃ begun high low rest, left = begun ++ [high] ∧ right = low :: rest ∧
      isHighSurrogate high = true ∧ isLowSurrogate low = true := by
  induction chars generalizing left with
  | nil =>
    rcases List.append_eq_nil_iff.mp whole.symm with ⟨rfl, rfl⟩
    exact .inl ⟨[], [], rfl, rfl, rfl⟩
  | cons char chars induction =>
    cases left with
    | nil => exact .inl ⟨[], char :: chars, rfl, rfl, whole⟩
    | cons unit left =>
      rw [List.flatMap_cons] at whole
      rcases encode_cases char with
        ⟨_, encoded⟩ | ⟨high, low, encoded, isHigh, isLow, _⟩
      · rw [encoded] at whole
        rcases List.cons.inj whole with ⟨rfl, rest⟩
        rcases induction rest with
          ⟨first, second, rfl, rfl, same⟩ |
          ⟨begun, high, low, later, rfl, same, surrogates⟩
        · refine .inl ⟨char :: first, second, rfl, ?_, same⟩
          rw [List.flatMap_cons, encoded]
          rfl
        · exact .inr ⟨_ :: begun, high, low, later, rfl, same, surrogates⟩
      · rw [encoded] at whole
        rcases List.cons.inj whole with ⟨rfl, rest⟩
        cases left with
        | nil =>
          exact .inr ⟨[], high, low, _, rfl, rest.symm, isHigh, isLow⟩
        | cons next left =>
          rcases List.cons.inj rest with ⟨rfl, after⟩
          rcases induction after with
            ⟨first, second, rfl, rfl, same⟩ |
            ⟨begun, otherHigh, otherLow, later, rfl, same, surrogates⟩
          · refine .inl ⟨char :: first, second, rfl, ?_, same⟩
            rw [List.flatMap_cons, encoded]
            rfl
          · exact .inr ⟨high :: low :: begun, otherHigh, otherLow, later,
              rfl, same, surrogates⟩

end JsString

end Dispatch
