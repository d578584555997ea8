import Mathlib.Algebra.Order.Field.Rat
import Mathlib.Data.Rat.Floor
import Mathlib.Tactic.Linarith
import Mathlib.Tactic.Positivity

/-!
# Doubles

The numbers of a language whose only numbers are doubles: rational numbers,
infinities, and what is not a number. A comparison with what is not a number
fails, whichever way it is made.

What an operation on finite doubles gives is the double nearest to the exact
result, so arithmetic is arithmetic of rational numbers with `round` after each
operation. The exponent is not bounded here. A difference that is not zero is not
rounded to zero, so the sign of a rounded difference compares two numbers.

## Main definitions

* `Double`: Numbers, infinities, and what is not a number.
* `Double.below`, `Double.above`: Comparing with a finite number.
* `Double.byte`: The byte a number is stored as.
* `round`: The nearest number of fifty-three significant bits.

## Theorems

* `round_pos_iff`: Rounding does not change the sign.
* `round_sub_nonpos_iff`: The sign of a rounded difference.
-/

namespace Core

/-- A number of the language: a rational it can hold, an infinity, or no number at
    all. -/
inductive Double where
  | NaN
  | negInfinity
  | posInfinity
  | finite (q : ℚ)
  deriving DecidableEq

namespace Double

/-- The comparison with a bound, which is false for `NaN`. -/
def below (x : Double) (bound : ℚ) : Bool :=
  match x with
  | .NaN | .posInfinity => false
  | .negInfinity => true
  | .finite q => q < bound

/-- The other comparison, which is false for `NaN` too. -/
def above (x : Double) (bound : ℚ) : Bool :=
  match x with
  | .NaN | .negInfinity => false
  | .posInfinity => true
  | .finite q => bound < q

/-- A number that is finite is cut off after the point and taken modulo 256. -/
def byte : Double → UInt8
  | .NaN | .negInfinity | .posInfinity => 0
  | .finite q => UInt8.ofNat (q.num.tdiv q.den % 256).toNat

theorem byte_ofNat (n : Nat) : byte (.finite n) = UInt8.ofNat n := by
  have hmod : ((n : Int) % 256).toNat = n % 256 := by omega
  have hword : UInt8.ofNat (n % 256) = UInt8.ofNat n := UInt8.ofNat_mod_size
  simp only [byte, Rat.num_natCast, Rat.den_natCast, Int.natCast_one, Int.tdiv_one, hmod, hword]

/-! ### Rounding -/

/-- The nearest whole number to a fraction, the even one of two that are equally
    near. -/
def nearest (n d : Nat) : Nat :=
  if 2 * (n % d) < d ∨ 2 * (n % d) = d ∧ n / d % 2 = 0 then n / d else n / d + 1

/-- The exponent with which a positive fraction has fifty-three significant bits. -/
def exponent (n d : Nat) : Int :=
  let e : Int := n.log2 - d.log2
  if n * 2 ^ (-e).toNat < d * 2 ^ e.toNat then e - 53 else e - 52

/-- The double nearest to a positive fraction. -/
def roundFraction (n d : Nat) : ℚ :=
  let e := exponent n d
  nearest (n * 2 ^ (-e).toNat) (d * 2 ^ e.toNat) * (2 ^ e.toNat / 2 ^ (-e).toNat)

/-- A rational as the nearest one that fits. -/
def round (q : ℚ) : ℚ :=
  if 0 < q then roundFraction q.num.natAbs q.den
  else if q < 0 then -roundFraction q.num.natAbs q.den
  else 0

theorem nearest_pos {n d : Nat} (hd : 0 < d) (h : d ≤ n) : 0 < nearest n d := by
  have hquotient : 0 < n / d := Nat.div_pos h hd
  unfold nearest
  split <;> omega

/-- Before it is rounded the significand is not below one. -/
theorem exponent_le {n d : Nat} (hn : n ≠ 0) :
    d * 2 ^ (exponent n d).toNat ≤ n * 2 ^ (-exponent n d).toNat := by
  have hlow : 2 ^ n.log2 ≤ n := Nat.log2_self_le hn
  have hhigh : d < 2 ^ (d.log2 + 1) := Nat.lt_log2_self
  have hexponent : exponent n d ≤ n.log2 - d.log2 - 52 := by
    simp only [exponent]
    split <;> omega
  -- What matters is only that the exponent leaves fifty-two places.
  generalize exponent n d = e at hexponent
  have hsum : d.log2 + 1 + e.toNat ≤ n.log2 + (-e).toNat := by omega
  calc d * 2 ^ e.toNat ≤ 2 ^ (d.log2 + 1) * 2 ^ e.toNat := Nat.mul_le_mul_right _ hhigh.le
    _ = 2 ^ (d.log2 + 1 + e.toNat) := (Nat.pow_add ..).symm
    _ ≤ 2 ^ (n.log2 + (-e).toNat) := Nat.pow_le_pow_right (by omega) hsum
    _ = 2 ^ n.log2 * 2 ^ (-e).toNat := Nat.pow_add ..
    _ ≤ n * 2 ^ (-e).toNat := Nat.mul_le_mul_right _ hlow

theorem roundFraction_pos {n d : Nat} (hn : n ≠ 0) (hd : 0 < d) : 0 < roundFraction n d := by
  have hnearest : 0 < nearest (n * 2 ^ (-exponent n d).toNat) (d * 2 ^ (exponent n d).toNat) :=
    nearest_pos (Nat.mul_pos hd (Nat.two_pow_pos _)) (exponent_le hn)
  have hcast : (0 : ℚ) < nearest (n * 2 ^ (-exponent n d).toNat) (d * 2 ^ (exponent n d).toNat) :=
    Nat.cast_pos.mpr hnearest
  unfold roundFraction
  positivity

theorem round_pos_iff {q : ℚ} : 0 < round q ↔ 0 < q := by
  have hden : 0 < q.den := q.den_pos
  unfold round
  -- Rounding a fraction of either sign gives one of that sign.
  by_cases hpos : 0 < q
  · have hnum : q.num.natAbs ≠ 0 := Int.natAbs_ne_zero.mpr (Rat.num_pos.mpr hpos).ne'
    rw [if_pos hpos]
    exact iff_of_true (roundFraction_pos hnum hden) hpos
  · rw [if_neg hpos]
    refine iff_of_false ?_ hpos
    split
    · next hneg =>
        have hnum : q.num.natAbs ≠ 0 := Int.natAbs_ne_zero.mpr (Rat.num_neg.mpr hneg).ne
        have hround := roundFraction_pos hnum hden
        linarith
    · exact lt_irrefl 0

/-- The sign of a rounded difference compares the two numbers. -/
theorem round_sub_nonpos_iff {a b : ℚ} : round (b - a) ≤ 0 ↔ b ≤ a := by
  rw [← not_lt, round_pos_iff, sub_pos, not_lt]

/-- One and a half has few bits, and one third has too many. -/
example : round (3 / 2) = 3 / 2 ∧ round (1 / 3) = 6004799503160661 / 2 ^ 54 := by decide +kernel

end Double

end Core
