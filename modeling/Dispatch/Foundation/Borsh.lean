import Mathlib.Algebra.Order.Ring.Nat
import Mathlib.Data.String.Basic

/-! # Borsh

The format in which the data of an account is written.
-/

namespace Dispatch.Borsh

/-! ## Numbers -/

def littleEndian : Nat → Nat → List UInt8
  | 0, _ => []
  | width + 1, value => UInt8.ofNat value :: littleEndian width (value / 256)

def number : List UInt8 → Nat
  | [] => 0
  | byte :: rest => byte.toNat + 256 * number rest

@[simp] theorem length_littleEndian (width value : Nat) :
    (littleEndian width value).length = width := by
  induction width generalizing value with
  | zero => rfl
  | succ width induction => exact congrArg (· + 1) (induction (value / 256))

theorem number_littleEndian {width value : Nat} (bound : value < 256 ^ width) :
    number (littleEndian width value) = value := by
  induction width generalizing value with
  | zero =>
    rw [pow_zero] at bound
    exact (Nat.lt_one_iff.mp bound).symm
  | succ width induction =>
    have quotient : value / 256 < 256 ^ width :=
      Nat.div_lt_of_lt_mul (by rwa [pow_succ'] at bound)
    rw [littleEndian, number, induction quotient, UInt8.toNat_ofNat']
    omega

/-! ## Texts -/

def utf8 (text : String) : List UInt8 :=
  text.toUTF8.data.toList

@[simp] theorem length_utf8 (text : String) :
    (utf8 text).length = text.utf8ByteSize :=
  rfl

theorem length_le_utf8ByteSize (text : String) :
    text.length ≤ text.utf8ByteSize := by
  have chars : ∀ chars : List Char, chars.length ≤ String.utf8Len chars := by
    intro chars
    induction chars with
    | nil => exact le_rfl
    | cons char chars induction =>
      have positive := char.utf8Size_pos
      rw [List.length_cons, String.utf8Len_cons]
      omega
  have whole := chars text.toList
  rw [← String.utf8ByteSize_ofList, String.ofList_toList,
    String.length_toList] at whole
  exact whole

theorem utf8_injective : Function.Injective utf8 := by
  intro first second same
  have arrays : first.toByteArray = second.toByteArray :=
    ByteArray.ext (Array.toList_inj.mp same)
  exact String.toByteArray_inj.mp arrays

def ofUtf8? (bytes : List UInt8) : Option String :=
  String.fromUTF8? ⟨bytes.toArray⟩

theorem ofUtf8?_utf8 (text : String) : ofUtf8? (utf8 text) = some text :=
  dif_pos text.isValidUTF8

def string (text : String) : List UInt8 :=
  littleEndian 4 text.utf8ByteSize ++ utf8 text

@[simp] theorem length_string (text : String) :
    (string text).length = 4 + text.utf8ByteSize := by
  rw [string, List.length_append, length_littleEndian, length_utf8]

/-! ## Readers -/

abbrev Reader := StateT (List UInt8) Option

def bytes (count : Nat) : Reader (List UInt8) := fun data =>
  if count ≤ data.length then some (data.take count, data.drop count) else none

def readNumber (width : Nat) : Reader Nat := do
  let read ← bytes width
  return number read

def readString : Reader String := do
  let size ← readNumber 4
  let read ← bytes size
  match ofUtf8? read with
  | some text => return text
  | none => failure

def Reads (reader : Reader α) (written : List UInt8) (value : α) : Prop :=
  ∀ rest, reader (written ++ rest) = some (value, rest)

namespace Reads

theorem pure (value : α) : Reads (Pure.pure value) [] value :=
  fun _ => rfl

theorem bind {first : Reader α} {next : α → Reader β} {begun ended : List UInt8}
    {value : α} {result : β} (left : Reads first begun value)
    (right : Reads (next value) ended result) :
    Reads (first >>= next) (begun ++ ended) result := by
  intro rest
  have read := left (ended ++ rest)
  rw [← List.append_assoc] at read
  change (first (begun ++ ended ++ rest)).bind _ = _
  rw [read]
  exact right rest

theorem map {first : Reader α} {written : List UInt8} {value : α}
    (left : Reads first written value) (change : α → β) :
    Reads (first >>= fun read => Pure.pure (change read)) written
      (change value) := by
  have both : Reads (first >>= fun read => Pure.pure (change read))
      (written ++ []) (change value) :=
    left.bind (Reads.pure (change value))
  rw [List.append_nil] at both
  exact both

end Reads

theorem reads_bytes (written : List UInt8) :
    Reads (bytes written.length) written written := by
  intro rest
  rw [bytes, if_pos (by simp), List.take_left, List.drop_left]

theorem reads_number {width value : Nat} (bound : value < 256 ^ width) :
    Reads (readNumber width) (littleEndian width value) value := by
  have read := reads_bytes (littleEndian width value)
  rw [length_littleEndian] at read
  have whole := read.map number
  rw [number_littleEndian bound] at whole
  exact whole

theorem reads_string {text : String} (bound : text.utf8ByteSize < 256 ^ 4) :
    Reads readString (string text) text := by
  have inner : Reads (do
      let read ← bytes text.utf8ByteSize
      match ofUtf8? read with
      | some text => return text
      | none => failure) (utf8 text) text := by
    intro rest
    have read := reads_bytes (utf8 text) rest
    rw [length_utf8] at read
    change (bytes _ _).bind _ = _
    rw [read, Option.bind_some]
    dsimp only
    rw [ofUtf8?_utf8]
    rfl
  exact (reads_number bound).bind inner

end Dispatch.Borsh
