import Mathlib.Data.List.Basic
import Mathlib.Tactic.Common

/-!
# Texts of Sixteen-Bit Units

The texts of a language that stores them in units of sixteen bits. A character
that does not fit is a pair of units, a high one and a low one. Any list of units
is a text, also one where half a pair stands alone. Where such a text is written
in UTF-8, the replacement character stands for the half, so texts that differ only
there are written the same. Otherwise the bytes determine the text.

## Main definitions

* `Text`: A list of units.
* `Text.chars`: The characters of a text.
* `Text.bytes`: A text in UTF-8.
* `Text.ofChars`: The text of characters.
* `Text.WellFormed`: A text in which no half of a pair stands alone.

## Theorems

* `chars_append_cons`: A unit that is no half of a pair separates what is before
  it from what comes after.
* `bytes_inj`: Texts of the same bytes have the same characters.
* `chars_ofChars`: The characters of a text of characters.
* `split_inj`: What is before and after the first separator.
-/

namespace Core

/-- A text, as the units it consists of. -/
abbrev Text := List UInt16

namespace Text

/-- The first half of a character beyond the basic plane. -/
def isHigh (unit : UInt16) : Bool := 0xD800 ≤ unit.toNat && unit.toNat < 0xDC00

/-- The second half. -/
def isLow (unit : UInt16) : Bool := 0xDC00 ≤ unit.toNat && unit.toNat < 0xE000

/-- The character of a unit that is not read as half a pair. -/
def single (unit : UInt16) : Char :=
  if isHigh unit || isLow unit then Char.ofNat 0xFFFD else Char.ofNat unit.toNat

/-- The character of a pair. -/
def pair (high low : UInt16) : Char :=
  Char.ofNat (0x10000 + (high.toNat - 0xD800) * 0x400 + (low.toNat - 0xDC00))

/-- The characters of a text. Halves that stand alone are replaced. -/
def chars : Text → List Char
  | [] => []
  | [unit] => [single unit]
  | unit :: next :: rest =>
    if isHigh unit && isLow next then pair unit next :: chars rest
    else single unit :: chars (next :: rest)

/-- A text in UTF-8. -/
def bytes (text : Text) : List UInt8 := (chars text).flatMap String.utf8EncodeChar

/-- The units of a character. -/
def units (c : Char) : Text :=
  if c.toNat < 0x10000 then [UInt16.ofNat c.toNat]
  else [UInt16.ofNat (0xD800 + (c.toNat - 0x10000) / 0x400),
    UInt16.ofNat (0xDC00 + (c.toNat - 0x10000) % 0x400)]

/-- The text of the characters. -/
def ofChars (l : List Char) : Text := l.flatMap units

/-! ### Characters and bytes -/

theorem bytes_inj {text text' : Text} : bytes text = bytes text' ↔ chars text = chars text' := by
  constructor
  · intro h
    have hencoded : (chars text).utf8Encode = (chars text').utf8Encode :=
      congrArg List.toByteArray h
    have hstrings : String.ofList (chars text) = String.ofList (chars text') := by
      rw [← String.toByteArray_inj, String.toByteArray_ofList, String.toByteArray_ofList, hencoded]
    exact String.ofList_inj.mp hstrings
  · intro h
    rw [bytes, bytes, h]

/-- A unit that is no half of a pair is read alone. -/
theorem chars_cons {unit : UInt16} (h : isHigh unit = false) (text : Text) :
    chars (unit :: text) = single unit :: chars text := by
  cases text with
  | nil => rfl
  | cons next rest => rw [chars, h, Bool.false_and, if_neg Bool.false_ne_true]

/-- What is before a unit that is no half of a pair is read without it. -/
theorem chars_append_cons {unit : UInt16} (h : isLow unit = false) (before after : Text) :
    chars (before ++ unit :: after) = chars before ++ chars (unit :: after) := by
  induction before using chars.induct with
  | case1 => rfl
  | case2 last =>
      change chars (last :: unit :: after) = single last :: chars (unit :: after)
      rw [chars, h, Bool.and_false, if_neg Bool.false_ne_true]
  | case3 first next rest hpair ih =>
      change chars (first :: next :: (rest ++ unit :: after)) = _
      rw [chars, if_pos hpair, ih, chars, if_pos hpair, List.cons_append]
  | case4 first next rest hpair ih =>
      change chars (first :: next :: (rest ++ unit :: after)) = _
      rw [chars, if_neg hpair, chars, if_neg hpair, List.cons_append, ← ih, List.cons_append]

/-! ### Texts of characters -/

theorem toNat_units {n : Nat} (h : n < 0x10000) : (UInt16.ofNat n).toNat = n :=
  UInt16.toNat_ofNat_of_lt' h

/-- Characters are numbered past the halves of pairs. -/
theorem char_cases (c : Char) : c.toNat < 0xD800 ∨ 0xE000 ≤ c.toNat ∧ c.toNat < 0x110000 := by
  have hvalid : c.toNat < 0xD800 ∨ 0xDFFF < c.toNat ∧ c.toNat < 0x110000 := c.valid
  omega

theorem isHigh_ofNat {n : Nat} (h : n < 0x10000) :
    isHigh (UInt16.ofNat n) = (decide (0xD800 ≤ n) && decide (n < 0xDC00)) := by
  rw [isHigh, toNat_units h]

theorem isLow_ofNat {n : Nat} (h : n < 0x10000) :
    isLow (UInt16.ofNat n) = (decide (0xDC00 ≤ n) && decide (n < 0xE000)) := by
  rw [isLow, toNat_units h]

/-- The character is read back, whatever comes after it. -/
theorem chars_units_append (c : Char) (rest : Text) :
    chars (units c ++ rest) = c :: chars rest := by
  have hcases := char_cases c
  unfold units
  split
  · -- One unit, which is no surrogate.
    next hsmall =>
      have hhigh : isHigh (UInt16.ofNat c.toNat) = false := by
        rw [isHigh_ofNat hsmall, Bool.and_eq_false_iff, decide_eq_false_iff_not,
          decide_eq_false_iff_not]
        omega
      have hlow : isLow (UInt16.ofNat c.toNat) = false := by
        rw [isLow_ofNat hsmall, Bool.and_eq_false_iff, decide_eq_false_iff_not,
          decide_eq_false_iff_not]
        omega
      have hsingle : single (UInt16.ofNat c.toNat) = c := by
        rw [single, hhigh, hlow, Bool.or_false, if_neg Bool.false_ne_true, toNat_units hsmall,
          Char.ofNat_toNat]
      rw [List.singleton_append, chars_cons hhigh, hsingle]
  · -- Two units, a high surrogate and a low one.
    next hlarge =>
      have hquotient : 0xD800 + (c.toNat - 0x10000) / 0x400 < 0xDC00 := by omega
      have hremainder : 0xDC00 + (c.toNat - 0x10000) % 0x400 < 0xE000 := by omega
      have hhigh : isHigh (UInt16.ofNat (0xD800 + (c.toNat - 0x10000) / 0x400)) = true := by
        rw [isHigh_ofNat (by omega), Bool.and_eq_true, decide_eq_true_eq, decide_eq_true_eq]
        omega
      have hlow : isLow (UInt16.ofNat (0xDC00 + (c.toNat - 0x10000) % 0x400)) = true := by
        rw [isLow_ofNat (by omega), Bool.and_eq_true, decide_eq_true_eq, decide_eq_true_eq]
        omega
      have hpair : pair (UInt16.ofNat (0xD800 + (c.toNat - 0x10000) / 0x400))
          (UInt16.ofNat (0xDC00 + (c.toNat - 0x10000) % 0x400)) = c := by
        have hnumber : 0x10000 + (0xD800 + (c.toNat - 0x10000) / 0x400 - 0xD800) * 0x400 +
            (0xDC00 + (c.toNat - 0x10000) % 0x400 - 0xDC00) = c.toNat := by omega
        rw [pair, toNat_units (by omega), toNat_units (by omega), hnumber, Char.ofNat_toNat]
      change chars (_ :: _ :: rest) = _
      rw [chars, hhigh, hlow, Bool.and_true, if_pos rfl, hpair]

theorem chars_ofChars (l : List Char) : chars (ofChars l) = l := by
  induction l with
  | nil => rfl
  | cons c l ih => rw [ofChars, List.flatMap_cons, chars_units_append, ← ofChars, ih]

/-- No half of a pair stands alone. -/
def WellFormed (text : Text) : Prop := ofChars (chars text) = text

/-- The bytes determine a text in which no half of a pair stands alone. -/
theorem WellFormed.eq_of_bytes {text text' : Text} (h : WellFormed text) (h' : WellFormed text')
    (hbytes : bytes text = bytes text') : text = text' := by
  rw [← h, ← h', bytes_inj.mp hbytes]

/-- Half a pair is written as the replacement character is. -/
example : bytes [0xD800] = bytes [0xFFFD] := by decide

end Text

/-- What comes before the first separator, and what comes after it. -/
theorem split_inj {α : Type} {c : α} {before before' after after' : List α} (hbefore : c ∉ before)
    (hbefore' : c ∉ before') (h : before ++ c :: after = before' ++ c :: after') :
    before = before' ∧ after = after' := by
  -- The first separator comes after both beginnings.
  induction before generalizing before' with
  | nil =>
      cases before' with
      | nil => exact ⟨rfl, (List.cons.inj h).2⟩
      | cons x before' => exact absurd ((List.cons.inj h).1 ▸ List.mem_cons_self ..) hbefore'
  | cons x before ih =>
      cases before' with
      | nil => exact absurd ((List.cons.inj h).1 ▸ List.mem_cons_self ..) hbefore
      | cons y before' =>
          obtain ⟨rfl, hrest⟩ := List.cons.inj h
          obtain ⟨rfl, hafter⟩ := ih (fun hc => hbefore (List.mem_cons_of_mem _ hc))
            (fun hc => hbefore' (List.mem_cons_of_mem _ hc)) hrest
          exact ⟨rfl, hafter⟩

end Core
