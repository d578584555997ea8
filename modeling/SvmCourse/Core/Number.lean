import Mathlib.Data.List.TakeWhile
import Mathlib.Tactic.Common
import Mathlib.Tactic.NormNum

/-!
# Integers Kept as Doubles

Whole numbers in a language whose only numbers are doubles. Up to two to the
fifty-third every integer is itself. Beyond that a number has fifty-three
significant bits, so it is even, and the one after it does not exist: adding
one gives back the number it was added to or skips one. A text that is read as
a number is cut off where it stops being one.

## Main definitions

* `Number`: Integers, infinities, and what is not a number.
* `Number.ofInt`: The number nearest to an integer.
* `Number.addOne`, `Number.add`: Counting and adding.
* `Number.below`, `Number.above`: Comparing.
* `Number.parseInt`: The number a text begins with.
* `Number.text`, `Number.asInteger`: How a number is written, and the integer
  that is.

## Theorems

* `ofInt_of_small`: Small integers are themselves.
* `small_or_even`: Numbers that are not small are even.
* `parseInt_repr`: Decimal digits read as the nearest number.
* `parseInt_text`: A small number reads as what was written.
-/

namespace Core

/-- A number of the language that is whole, an infinity, or no number at all. -/
inductive Number where
  | NaN
  | negInfinity
  | posInfinity
  | int (n : Int)
  deriving DecidableEq, Repr

namespace Number

/-- The integers up to here are all numbers. -/
def maxExact : Nat := 2 ^ 53

/-- The nearest integer of fifty-three significant bits, the even one of two
    that are equally near. -/
def roundNat (n : Nat) : Nat :=
  if n ≤ maxExact then n
  else
    let unit := 2 * 2 ^ (n.log2 - 53)
    if 2 * (n % unit) < unit ∨ 2 * (n % unit) = unit ∧ n / unit % 2 = 0 then n / unit * unit
    else (n / unit + 1) * unit

/-- Numbers stay below this. -/
def tooLarge : Nat := 2 ^ 1024

/-- The number nearest to an integer. -/
def ofInt (n : Int) : Number :=
  if roundNat n.natAbs < tooLarge then .int (n.sign * roundNat n.natAbs)
  else if n < 0 then .negInfinity
  else .posInfinity

/-- One more, as far as the number can tell. -/
def addOne : Number → Number
  | .int n => ofInt (n + 1)
  | x => x

/-- The comparison with an integer. What is not a number compares with nothing. -/
def below (x : Number) (m : Int) : Bool :=
  match x with
  | .NaN => false
  | .negInfinity => true
  | .posInfinity => false
  | .int n => n < m

/-- Infinities swallow integers and cancel each other. -/
def add : Number → Number → Number
  | .int m, .int n => ofInt (m + n)
  | .NaN, _ | _, .NaN => .NaN
  | .posInfinity, .negInfinity | .negInfinity, .posInfinity => .NaN
  | .posInfinity, _ | _, .posInfinity => .posInfinity
  | .negInfinity, _ | _, .negInfinity => .negInfinity

/-- The comparison with a number that need not be whole. -/
def above (x : Number) (q : ℚ) : Bool :=
  match x with
  | .NaN => false
  | .negInfinity => false
  | .posInfinity => true
  | .int n => q < n

/-! ### Reading -/

/-- White space and line terminators. -/
def isSpace (c : Char) : Bool :=
  [0x9, 0xA, 0xB, 0xC, 0xD, 0x20, 0xA0, 0x1680, 0x2028, 0x2029, 0x202F, 0x205F, 0x3000,
    0xFEFF].contains c.toNat || (0x2000 ≤ c.toNat && c.toNat ≤ 0x200A)

/-- The number that the digits at the front make. -/
def parseDigits (negative : Bool) (cs : List Char) : Number :=
  match cs.takeWhile Char.isDigit with
  | [] => .NaN
  | digits =>
    if negative then ofInt (-(Nat.ofDigitChars 10 digits 0 : Int))
    else ofInt (Nat.ofDigitChars 10 digits 0)

/-- `parseInt(text, 10)`: spaces, a sign, and the digits up to the first
    character that is none. -/
def parseInt (text : String) : Number :=
  match text.toList.dropWhile isSpace with
  | '-' :: cs => parseDigits true cs
  | '+' :: cs => parseDigits false cs
  | cs => parseDigits false cs

/-! ### Writing -/

/-- The `k` leading digits of the number nearest to `n`, where `n` has `size`
    digits. -/
def leading (n size k : Nat) : Nat := (n + 10 ^ (size - k) / 2) / 10 ^ (size - k)

/-- How many digits it takes to tell the number from the others. -/
def shortest (n size : Nat) : Nat :=
  ((List.range size).find? fun k =>
    roundNat (leading n size (k + 1) * 10 ^ (size - (k + 1))) = n).elim size (· + 1)

/-- The integer that is written for a number: past the exact range as few digits
    as tell it from the others, and zeros. -/
def written (n : Nat) : Nat :=
  if n ≤ maxExact then n
  else
    let size := (Nat.toDigits 10 n).length
    let k := shortest n size
    leading n size k * 10 ^ (size - k)

/-- Past the decimal range the zeros become an exponent. -/
def exponential (n : Nat) : String :=
  let digits := Nat.toDigits 10 n
  let shown := (digits.reverse.dropWhile (· = '0')).reverse
  match shown with
  | [] => "0"
  | [c] => String.ofList [c] ++ "e+" ++ toString (digits.length - 1)
  | c :: cs => String.ofList (c :: '.' :: cs) ++ "e+" ++ toString (digits.length - 1)

/-- A natural number as the language writes it, with an exponent from 21 digits on. -/
def natText (n : Nat) : String :=
  if written n < 10 ^ 21 then (written n).repr else exponential (written n)

/-- A number as the language writes it. -/
def text : Number → String
  | .NaN => "NaN"
  | .negInfinity => "-Infinity"
  | .posInfinity => "Infinity"
  | .int n => if n < 0 then "-" ++ natText n.natAbs else natText n.natAbs

/-- The integer that the text of a number is, if it is one. -/
def asInteger : Number → Option Int
  | .int n => if written n.natAbs < 10 ^ 21 then some (n.sign * written n.natAbs) else none
  | _ => none

/-! ### Small and large integers -/

theorem roundNat_of_small {n : Nat} (h : n ≤ maxExact) : roundNat n = n := if_pos h

theorem written_of_small {n : Nat} (h : n ≤ maxExact) : written n = n := if_pos h

theorem asInteger_of_small {n : Int} (h : n.natAbs ≤ maxExact) : asInteger (.int n) = some n := by
  have hdecimal : n.natAbs < 10 ^ 21 := Nat.lt_of_le_of_lt h (by decide)
  rw [asInteger, written_of_small h, if_pos hdecimal, Int.sign_mul_natAbs]

/-- Rounding does not change the sign. -/
theorem nonpos_of_ofInt {n m : Int} (h : ofInt n = .int m) (hn : n ≤ 0) : m ≤ 0 := by
  rw [ofInt] at h
  split at h
  · cases h
    exact Int.mul_nonpos_of_nonpos_of_nonneg (Int.sign_nonpos_iff.mpr hn) (by omega)
  · split at h <;> exact nomatch h

/-- Past the exact range only even integers are left. -/
theorem even_roundNat {n : Nat} (h : maxExact < n) : 2 ∣ roundNat n := by
  have hrange : ¬ n ≤ maxExact := Nat.not_le.mpr h
  simp only [roundNat, if_neg hrange]
  split
  · exact Dvd.dvd.mul_left (Nat.dvd_mul_right ..) _
  · exact Dvd.dvd.mul_left (Nat.dvd_mul_right ..) _

theorem maxExact_lt : maxExact < tooLarge := by
  have hpow : ∀ k, 53 < k → 2 ^ 53 < 2 ^ k := fun k hk => Nat.pow_lt_pow_right (by omega) hk
  exact hpow 1024 (by omega)

theorem ofInt_of_small {n : Int} (h : n.natAbs ≤ maxExact) : ofInt n = .int n := by
  have hlt : n.natAbs < tooLarge := Nat.lt_of_le_of_lt h maxExact_lt
  rw [ofInt, roundNat_of_small h, if_pos hlt, Int.sign_mul_natAbs]

/-- What an integer is rounded to is small or even. -/
theorem small_or_even {n m : Int} (h : ofInt n = .int m) : m.natAbs ≤ maxExact ∨ 2 ∣ m := by
  by_cases hsmall : n.natAbs ≤ maxExact
  · rw [ofInt_of_small hsmall] at h
    cases h
    exact Or.inl hsmall
  · right
    rw [ofInt] at h
    split at h
    · cases h
      have heven := even_roundNat (Nat.lt_of_not_le hsmall)
      exact Dvd.dvd.mul_left (Int.natCast_dvd_natCast.mpr heven) _
    · split at h <;> exact nomatch h

/-- What is read from a text is small or even. -/
theorem small_or_even_of_parseInt {s : String} {m : Int} (h : parseInt s = .int m) :
    m.natAbs ≤ maxExact ∨ 2 ∣ m := by
  have hdigits : ∀ negative cs, parseDigits negative cs = .int m →
      m.natAbs ≤ maxExact ∨ 2 ∣ m := by
    intro negative cs hparse
    rw [parseDigits] at hparse
    split at hparse
    · exact nomatch hparse
    · split at hparse <;> exact small_or_even hparse
  rw [parseInt] at h
  split at h <;> exact hdigits _ _ h

/-! ### Reading what was written -/

theorem takeWhile_isDigit_toDigits (n : Nat) :
    (Nat.toDigits 10 n).takeWhile Char.isDigit = Nat.toDigits 10 n := by
  rw [List.takeWhile_eq_self_iff]
  intro c hc
  exact Nat.isDigit_of_mem_toDigits (by omega) (by omega) hc

theorem parseDigits_toDigits (negative : Bool) (n : Nat) :
    parseDigits negative (Nat.toDigits 10 n) =
      if negative then ofInt (-(n : Int)) else ofInt n := by
  have hdigits := takeWhile_isDigit_toDigits n
  cases hlist : Nat.toDigits 10 n with
  | nil => exact absurd hlist Nat.toDigits_ne_nil
  | cons c cs =>
      rw [hlist] at hdigits
      have hvalue : Nat.ofDigitChars 10 (c :: cs) 0 = n := by
        rw [← hlist, Nat.ofDigitChars_ten_toDigits]
      simp only [parseDigits, hdigits, hvalue]

/-- A digit is neither a space nor a sign. -/
theorem isDigit_cases {c : Char} (h : c.isDigit = true) :
    isSpace c = false ∧ c ≠ '-' ∧ c ≠ '+' := by
  have hrange : 48 ≤ c.toNat ∧ c.toNat ≤ 57 := by
    simpa [Char.isDigit, UInt32.le_iff_toNat_le] using h
  refine ⟨?_, ?_, ?_⟩
  · simp only [isSpace, List.contains_eq_mem, List.mem_cons, List.not_mem_nil, or_false,
      Bool.or_eq_false_iff, decide_eq_false_iff_not, Bool.and_eq_false_iff]
    omega
  · rintro rfl
    exact absurd hrange (by decide)
  · rintro rfl
    exact absurd hrange (by decide)

theorem parseInt_toDigits (n : Nat) :
    parseInt (String.ofList (Nat.toDigits 10 n)) = ofInt n := by
  have hparse := parseDigits_toDigits false n
  cases hlist : Nat.toDigits 10 n with
  | nil => exact absurd hlist Nat.toDigits_ne_nil
  | cons c cs =>
      have hdigit : c.isDigit = true :=
        Nat.isDigit_of_mem_toDigits (b := 10) (n := n) (by omega) (by omega) (by rw [hlist]; simp)
      obtain ⟨hspace, hminus, hplus⟩ := isDigit_cases hdigit
      rw [hlist] at hparse
      rw [parseInt, String.toList_ofList, List.dropWhile_cons_of_neg (by rw [hspace]; simp)]
      -- The text starts with a digit, so there is no sign to be read.
      split
      · next heq => exact absurd (List.cons.inj heq).1 hminus
      · next heq => exact absurd (List.cons.inj heq).1 hplus
      · simpa using hparse

theorem parseInt_neg_toDigits (n : Nat) :
    parseInt (String.ofList ('-' :: Nat.toDigits 10 n)) = ofInt (-(n : Int)) := by
  rw [parseInt, String.toList_ofList, List.dropWhile_cons_of_neg (by decide)]
  simpa using parseDigits_toDigits true n

/-- The decimal digits of an integer read as the number nearest to it. -/
theorem parseInt_repr (n : Int) : parseInt (toString n) = ofInt n := by
  cases n with
  | ofNat n =>
      have htext : toString (Int.ofNat n) = String.ofList (Nat.toDigits 10 n) :=
        Nat.repr_eq_ofList_toDigits
      rw [htext, parseInt_toDigits]
      rfl
  | negSucc n =>
      have htext : toString (Int.negSucc n) =
          String.ofList ('-' :: Nat.toDigits 10 (n + 1)) := by
        have hrepr : toString (Int.negSucc n) = "-" ++ (n + 1).repr := rfl
        rw [hrepr, Nat.repr_eq_ofList_toDigits]
        simp [String.ofList_cons]
      rw [htext, parseInt_neg_toDigits]
      rfl

/-- A small number reads as what was written. -/
theorem parseInt_text {n : Int} (h : n.natAbs ≤ maxExact) :
    parseInt (text (.int n)) = .int n := by
  have hdecimal : n.natAbs < 10 ^ 21 := Nat.lt_of_le_of_lt h (by decide)
  have hnat : natText n.natAbs = String.ofList (Nat.toDigits 10 n.natAbs) := by
    rw [natText, written_of_small h, if_pos hdecimal, Nat.repr_eq_ofList_toDigits]
  rw [text, hnat]
  -- The sign is written before the digits of the absolute value.
  by_cases hneg : n < 0
  · have habs : -(n.natAbs : Int) = n := by omega
    rw [if_pos hneg]
    have hminus : "-" ++ String.ofList (Nat.toDigits 10 n.natAbs) =
        String.ofList ('-' :: Nat.toDigits 10 n.natAbs) := by
      simp [String.ofList_cons]
    rw [hminus, parseInt_neg_toDigits, habs, ofInt_of_small h]
  · have habs : (n.natAbs : Int) = n := by omega
    rw [if_neg hneg, parseInt_toDigits, habs, ofInt_of_small h]

end Number

end Core
