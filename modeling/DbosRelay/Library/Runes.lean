import Mathlib.Data.List.Basic

/-!
# Runes of a byte string

A byte string read as UTF-8 the way Go reads it: from left to right, a character
at a time, where a byte which does not begin the encoding of one stands for the
replacement character.  Reading an encoding gives back what was encoded.
-/

namespace DbosRelay.Library.Runes

/-- `utf8.RuneError`. -/
def runeError : Char := '\ufffd'

/-- The bytes of a sequence of characters. -/
def encode (runes : List Char) : List UInt8 :=
  runes.flatMap String.utf8EncodeChar

/-- The character whose encoding the bytes begin with. -/
def first? (bytes : List UInt8) : Option Char :=
  bytes.toByteArray.utf8DecodeChar? 0

/-- The characters after the bytes which are still part of the last one. -/
def decodeAfter : Nat → List UInt8 → List Char
  | _, [] => []
  | skipped + 1, _ :: bytes => decodeAfter skipped bytes
  | 0, byte :: bytes =>
      match first? (byte :: bytes) with
      | some rune => rune :: decodeAfter (rune.utf8Size - 1) bytes
      | none => runeError :: decodeAfter 0 bytes

/-- The characters of a byte string. -/
def decode (bytes : List UInt8) : List Char := decodeAfter 0 bytes

@[simp]
theorem encode_nil : encode [] = [] := rfl

@[simp]
theorem encode_cons (rune : Char) (runes : List Char) :
    encode (rune :: runes) = String.utf8EncodeChar rune ++ encode runes :=
  List.flatMap_cons

@[simp]
theorem encode_append (first second : List Char) :
    encode (first ++ second) = encode first ++ encode second :=
  List.flatMap_append

theorem first?_encodeChar (rune : Char) (bytes : List UInt8) :
    first? (String.utf8EncodeChar rune ++ bytes) = some rune := by
  rw [first?, List.toByteArray_append]
  exact ByteArray.utf8DecodeChar?_utf8EncodeChar_append

theorem decodeAfter_append {skipped bytes : List UInt8} :
    decodeAfter skipped.length (skipped ++ bytes) = decode bytes := by
  induction skipped with
  | nil => rfl
  | cons byte skipped induction => exact induction

/-- The first character of an encoding, and the rest. -/
theorem decode_encodeChar (rune : Char) (bytes : List UInt8) :
    decode (String.utf8EncodeChar rune ++ bytes) = rune :: decode bytes := by
  have found := first?_encodeChar rune bytes
  have size := String.length_utf8EncodeChar rune
  cases encoded : String.utf8EncodeChar rune with
  | nil => exact absurd encoded String.utf8EncodeChar_ne_nil
  | cons byte skipped =>
      rw [encoded] at found size
      rw [List.cons_append] at found ⊢
      rw [decode, decodeAfter, found]
      simp only
      rw [← size]
      exact congrArg (List.cons rune) decodeAfter_append

/-- Reading an encoding gives back what was encoded. -/
@[simp]
theorem decode_encode (runes : List Char) : decode (encode runes) = runes := by
  induction runes with
  | nil => rfl
  | cons rune runes induction =>
      rw [encode_cons, decode_encodeChar, induction]

theorem encode_injective : Function.Injective encode := by
  intro first second same
  rw [← decode_encode first, same, decode_encode]

/-- A character of the ASCII range is one byte. -/
theorem encodeChar_ascii {rune : Char} (small : rune.val.toNat < 128) :
    String.utf8EncodeChar rune = [UInt8.ofNat rune.val.toNat] := by
  unfold String.utf8EncodeChar
  exact if_pos (Nat.le_of_lt_succ small)

theorem le_ofNat {value : Nat} (lower : 128 ≤ value) (upper : value < 256) :
    128 ≤ UInt8.ofNat value := by
  rw [UInt8.le_iff_toNat_le, UInt8.toNat_ofNat', Nat.mod_eq_of_lt upper]
  exact lower

/-- Every byte of another character is outside the ASCII range. -/
theorem le_of_mem_encodeChar {rune : Char} {byte : UInt8}
    (large : 128 ≤ rune.val.toNat) (member : byte ∈ String.utf8EncodeChar rune) :
    128 ≤ byte := by
  unfold String.utf8EncodeChar at member
  rw [if_neg (Nat.not_le.mpr large)] at member
  split_ifs at member
  · rcases List.mem_pair.mp member with rfl | rfl
    · apply le_ofNat <;> omega
    · apply le_ofNat <;> omega
  · simp only [List.mem_cons, List.not_mem_nil, or_false] at member
    rcases member with rfl | rfl | rfl
    all_goals apply le_ofNat <;> omega
  · simp only [List.mem_cons, List.not_mem_nil, or_false] at member
    rcases member with rfl | rfl | rfl | rfl
    all_goals apply le_ofNat <;> omega

/-- A byte of the ASCII range is all there is of its character. -/
theorem eq_ofNat_of_mem_encodeChar {rune : Char} {byte : UInt8}
    (small : byte < 128) (member : byte ∈ String.utf8EncodeChar rune) :
    rune = Char.ofNat byte.toNat := by
  have ascii : rune.val.toNat < 128 := by
    rcases Nat.lt_or_ge rune.val.toNat 128 with below | large
    · exact below
    · exact absurd small
        (UInt8.not_lt.mpr (le_of_mem_encodeChar large member))
  rw [encodeChar_ascii ascii, List.mem_singleton] at member
  rw [member, UInt8.toNat_ofNat', Nat.mod_eq_of_lt (by omega)]
  exact (Char.ofNat_toNat rune).symm

example : decode [0xc3, 0xa9, 0xff, 0x41] = ['é', runeError, 'A'] := by decide

end DbosRelay.Library.Runes
