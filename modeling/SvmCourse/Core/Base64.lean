import Mathlib.Tactic.Common

/-!
# Base64

Bytes as text. Three bytes make four characters, a last group of one or two
bytes is filled up with `=`. Decoding looks only at the characters of the
alphabet, so it takes the padding and anything else as if it were not there.

## Main definitions

* `encode`, `decode`: Bytes to text and back.

## Theorems

* `decode_encode`: Decoding undoes encoding.
* `encode_eq_empty`: Only no bytes are encoded as the empty text.
-/

namespace Core

namespace Base64

/-- The bytes that are written. -/
abbrev Bytes := List UInt8

/-- The digits, in the order of their values. -/
def alphabet : List Char :=
  "ABCDEFGHIJKLMNOPQRSTUVWXYZabcdefghijklmnopqrstuvwxyz0123456789+/".toList

/-- The digit of a value below 64. -/
def digit (n : Nat) : Char := alphabet.getD n '='

/-- The value of a digit, and none for the padding and for all other characters. -/
def value (c : Char) : Option Nat := alphabet.idxOf? c

/-- Three bytes make four digits, and what is left at the end is padded. -/
def encodeGroups : Bytes → List Char
  | [] => []
  | [a] => [digit (a.toNat / 4), digit (a.toNat % 4 * 16), '=', '=']
  | [a, b] =>
    [digit (a.toNat / 4), digit (a.toNat % 4 * 16 + b.toNat / 16), digit (b.toNat % 16 * 4), '=']
  | a :: b :: c :: rest =>
    digit (a.toNat / 4) :: digit (a.toNat % 4 * 16 + b.toNat / 16) ::
      digit (b.toNat % 16 * 4 + c.toNat / 64) :: digit (c.toNat % 64) :: encodeGroups rest

/-- The bytes as text. -/
def encode (bytes : Bytes) : String := String.ofList (encodeGroups bytes)

/-- Four values make three bytes, and fewer at the end make one byte less than their
    number. -/
def decodeGroups : List Nat → Bytes
  | a :: b :: c :: d :: rest =>
    UInt8.ofNat (a * 4 + b / 16) :: UInt8.ofNat (b % 16 * 16 + c / 4) ::
      UInt8.ofNat (c % 4 * 64 + d) :: decodeGroups rest
  | [a, b, c] => [UInt8.ofNat (a * 4 + b / 16), UInt8.ofNat (b % 16 * 16 + c / 4)]
  | [a, b] => [UInt8.ofNat (a * 4 + b / 16)]
  | _ => []

/-- The bytes of the text. What is not a digit is skipped. -/
def decode (text : String) : Bytes := decodeGroups (text.toList.filterMap value)

@[simp] theorem value_digit {n : Nat} (h : n < 64) : value (digit n) = some n := by
  revert n
  decide +kernel

@[simp] theorem value_pad : value '=' = none := by decide

/-- A byte is known once all of its bits are. -/
theorem ofNat_eq {a : UInt8} {n : Nat} (h : n = a.toNat) : UInt8.ofNat n = a := by
  rw [h, UInt8.ofNat_toNat]

theorem decodeGroups_encodeGroups (bytes : Bytes) :
    decodeGroups ((encodeGroups bytes).filterMap value) = bytes := by
  -- Three bytes are four digits, and what is left at the end is padded.
  induction bytes using encodeGroups.induct with
  | case1 => rfl
  | case2 a =>
      have ha := a.toNat_lt
      have h₁ : a.toNat / 4 < 64 := by omega
      have h₂ : a.toNat % 4 * 16 < 64 := by omega
      simp only [encodeGroups, List.filterMap_cons, value_digit h₁, value_digit h₂, value_pad,
        List.filterMap_nil, decodeGroups]
      rw [ofNat_eq (a := a) (by omega)]
  | case3 a b =>
      have ha := a.toNat_lt
      have hb := b.toNat_lt
      have h₁ : a.toNat / 4 < 64 := by omega
      have h₂ : a.toNat % 4 * 16 + b.toNat / 16 < 64 := by omega
      have h₃ : b.toNat % 16 * 4 < 64 := by omega
      simp only [encodeGroups, List.filterMap_cons, value_digit h₁, value_digit h₂, value_digit h₃,
        value_pad, List.filterMap_nil, decodeGroups]
      rw [ofNat_eq (a := a) (by omega), ofNat_eq (a := b) (by omega)]
  | case4 a b c rest ih =>
      have ha := a.toNat_lt
      have hb := b.toNat_lt
      have hc := c.toNat_lt
      have h₁ : a.toNat / 4 < 64 := by omega
      have h₂ : a.toNat % 4 * 16 + b.toNat / 16 < 64 := by omega
      have h₃ : b.toNat % 16 * 4 + c.toNat / 64 < 64 := by omega
      have h₄ : c.toNat % 64 < 64 := by omega
      simp only [encodeGroups, List.filterMap_cons, value_digit h₁, value_digit h₂, value_digit h₃,
        value_digit h₄, decodeGroups, ih]
      rw [ofNat_eq (a := a) (by omega), ofNat_eq (a := b) (by omega), ofNat_eq (a := c) (by omega)]

theorem decode_encode (bytes : Bytes) : decode (encode bytes) = bytes := by
  unfold decode encode
  rw [String.toList_ofList]
  exact decodeGroups_encodeGroups bytes

theorem encode_eq_empty {bytes : Bytes} : encode bytes = "" ↔ bytes = [] := by
  constructor
  · intro h
    rw [← decode_encode bytes, h]
    rfl
  · rintro rfl
    rfl

end Base64

end Core
