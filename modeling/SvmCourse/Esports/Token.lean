import Mathlib.Algebra.Order.Floor.Ring
import Mathlib.Data.Rat.Floor
import Mathlib.Tactic.Common

/-!
# Supported Tokens and Amounts

The token table and the two conversions on which every amount in the services
depends. A decimal-string amount is the integer it denotes, since the services
convert with `BigInt` before every comparison and every sum. A number that is
not an amount (a percentage, a place, a score) is a rational: the values the
requests can carry are finite decimals, and exact arithmetic replaces floating
point.

`bigIntOfNumber` is the partial conversion from numbers to amounts. It is
partial in the source as well, where `BigInt` raises on a number that is not
an integer.

## Main definitions

* `SupportedToken`, `TokenConfig`, `tokenConfig`: The token table.
* `isValidEntryFee`: The entry fee limits of a token.
* `toDisplayAmount`: An amount in display units.
* `mathRound`, `bigIntOfNumber`: The numeric conversions of the language.

## Theorems

* `minEntryFee_pos`: Every token asks for a positive entry fee.
* `entryFee_pos_of_valid`: An accepted entry fee is positive.
* `mathRound_mem_Icc`: A percentage between 0 and 100 rounds to basis points
  between 0 and 10000.
-/

namespace SvmCourse

namespace Esports

/-- The tokens that can be played for. -/
inductive SupportedToken where
  | SOL | USDC | USDT | PYUSD | WSOL
  deriving DecidableEq, Repr

/-- What the service knows of a token. -/
structure TokenConfig where
  symbol : String
  decimals : Nat
  minEntryFee : Int
  maxEntryFee : Int
  displayPrecision : Nat
  deriving Repr

/-- `TOKEN_CONFIG`, restricted to the columns the services read. -/
def tokenConfig : SupportedToken → TokenConfig
  | .SOL => ⟨"SOL", 9, 1000000, 100000000000, 4⟩
  | .USDC => ⟨"USDC", 6, 100000, 100000000000, 2⟩
  | .USDT => ⟨"USDT", 6, 100000, 100000000000, 2⟩
  | .PYUSD => ⟨"PYUSD", 6, 100000, 100000000000, 2⟩
  | .WSOL => ⟨"WSOL", 9, 1000000, 100000000000, 4⟩

/-- The fee is within the bounds of its token. -/
def isValidEntryFee (tokenType : SupportedToken) (amount : Int) : Bool :=
  (tokenConfig tokenType).minEntryFee ≤ amount && amount ≤ (tokenConfig tokenType).maxEntryFee

theorem minEntryFee_pos (tokenType : SupportedToken) :
    0 < (tokenConfig tokenType).minEntryFee := by
  cases tokenType <;> decide

theorem entryFee_pos_of_valid {tokenType : SupportedToken} {amount : Int}
    (h : isValidEntryFee tokenType amount = true) : 0 < amount := by
  simp only [isValidEntryFee, Bool.and_eq_true, decide_eq_true_eq] at h
  exact lt_of_lt_of_le (minEntryFee_pos tokenType) h.1

/-- The text with zeros before it, up to a width. -/
def padStart (text : String) (width : Nat) : String :=
  String.ofList (List.replicate (width - text.length) '0') ++ text

/-- `BigInt` division and remainder truncate towards zero. -/
def toDisplayAmount (tokenType : SupportedToken) (baseUnits : Int) : String :=
  let config := tokenConfig tokenType
  let divisor : Int := 10 ^ config.decimals
  let fractionStr := padStart (toString (baseUnits.tmod divisor)) config.decimals
  s!"{baseUnits.tdiv divisor}.{String.ofList (fractionStr.toList.take config.displayPrecision)}"

/-- `Math.round`, which takes a tie upwards. -/
def mathRound (q : ℚ) : Int := ⌊q + 1 / 2⌋

/-- `BigInt` applied to a number: it raises unless the number is an integer. -/
def bigIntOfNumber (q : ℚ) : Option Int := if q.den = 1 then some q.num else none

theorem mathRound_mem_Icc {percent : ℚ} (h0 : 0 ≤ percent) (h1 : percent ≤ 100) :
    0 ≤ mathRound (percent * 100) ∧ mathRound (percent * 100) ≤ 10000 := by
  constructor
  · refine Int.floor_nonneg.mpr ?_
    linarith
  · have hlt : percent * 100 + 1 / 2 < (10001 : ℤ) := by
      push_cast
      linarith
    have hfloor := Int.floor_lt.mpr hlt
    rw [mathRound]
    omega

theorem bigIntOfNumber_eq_some {q : ℚ} {n : Int} (h : bigIntOfNumber q = some n) : q = n := by
  rw [bigIntOfNumber] at h
  split at h
  · next hden =>
      rw [Option.some.injEq] at h
      rw [← h]
      exact (Rat.coe_int_num_of_den_eq_one hden).symm
  · exact absurd h (by simp only [reduceCtorEq, not_false_eq_true])

end Esports

end SvmCourse
