import Dispatch.Foundation.JsString
import Mathlib.Data.List.DropRight

/-! # Words of ECMAScript strings

`trim`, and `split` at white space.
-/

namespace Dispatch.JsString

def isWhiteSpace (unit : UInt16) : Bool :=
  [0x9, 0xa, 0xb, 0xc, 0xd, 0x20, 0xa0, 0x1680, 0x2028, 0x2029, 0x202f, 0x205f,
    0x3000, 0xfeff].contains unit.toNat ||
      (0x2000 ≤ unit.toNat && unit.toNat ≤ 0x200a)

def trim (string : JsString) : JsString :=
  (string.dropWhile isWhiteSpace).rdropWhile isWhiteSpace

def splitFrom (word : JsString) (between : Bool) : JsString → List JsString
  | [] => [word]
  | unit :: rest =>
    if isWhiteSpace unit then
      if between then splitFrom word true rest
      else word :: splitFrom [] true rest
    else
      splitFrom (word ++ [unit]) false rest

/-- `string.split(/\s+/)` -/
def split (string : JsString) : List JsString :=
  splitFrom [] false string

theorem ne_nil_of_mem_splitFrom {string word : JsString} {between : Bool}
    (begun : between = false → word ≠ []) (whole : string = [] → word ≠ [])
    (ends : ∀ filled : string ≠ [],
      isWhiteSpace (string.getLast filled) = false)
    {piece : JsString} (member : piece ∈ splitFrom word between string) :
    piece ≠ [] := by
  induction string generalizing word between with
  | nil =>
    rw [splitFrom, List.mem_singleton] at member
    rw [member]
    exact whole rfl
  | cons unit rest induction =>
    have tail : ∀ filled : rest ≠ [],
        isWhiteSpace (rest.getLast filled) = false := by
      intro filled
      have last := ends (List.cons_ne_nil unit rest)
      rw [List.getLast_cons filled] at last
      exact last
    rw [splitFrom] at member
    split at member
    case isTrue space =>
      have more : rest ≠ [] := by
        rintro rfl
        have last := ends (List.cons_ne_nil unit [])
        rw [List.getLast_singleton, space] at last
        cases last
      have goesOn : ∀ next, piece ∈ splitFrom next true rest →
          piece ≠ [] := by
        intro next later
        apply induction _ (fun empty => absurd empty more) tail later
        intro started
        cases started
      split at member
      case isTrue => exact goesOn word member
      case isFalse started =>
        rcases List.mem_cons.mp member with rfl | later
        · exact begun (Bool.not_eq_true _ ▸ started)
        · exact goesOn [] later
    case isFalse letter =>
      have filled : word ++ [unit] ≠ [] := by simp
      exact induction (fun _ => filled) (fun _ => filled) tail member

theorem trim_ends {string : JsString} (filled : string.trim ≠ []) :
    isWhiteSpace (string.trim.getLast filled) = false := by
  have last := List.rdropWhile_last_not isWhiteSpace _ filled
  rw [Bool.not_eq_true] at last
  exact last

theorem trim_begins {string rest : JsString} {unit : UInt16}
    (trimmed : string.trim = unit :: rest) : isWhiteSpace unit = false := by
  have start : unit :: rest <+: string.dropWhile isWhiteSpace := by
    rw [← trimmed]
    exact List.rdropWhile_prefix isWhiteSpace _
  rcases start with ⟨more, whole⟩
  have filled : string.dropWhile isWhiteSpace ≠ [] := by
    rw [← whole]
    exact List.cons_ne_nil _ _
  have first := List.head_dropWhile_not isWhiteSpace filled
  simp only [← whole] at first
  exact first

theorem ne_nil_of_mem_split_trim {string : JsString}
    (filled : string.trim ≠ []) {word : JsString}
    (member : word ∈ string.trim.split) : word ≠ [] := by
  have ends := trim_ends filled
  cases trimmed : string.trim with
  | nil => exact absurd trimmed filled
  | cons unit rest =>
    have letter := trim_begins trimmed
    simp only [trimmed] at ends member
    rw [split, splitFrom, letter, if_neg nofun] at member
    refine ne_nil_of_mem_splitFrom (fun _ => List.cons_ne_nil unit [])
      (fun _ => List.cons_ne_nil unit []) ?_ member
    intro more
    rw [List.getLast_cons more] at ends
    exact ends

end Dispatch.JsString
