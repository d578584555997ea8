import Mathlib.Tactic.FieldSimp
import SvmCourse.Core.BigInt
import SvmCourse.Esports.Token

/-!
# Amounts as They Are Shown

Amounts are stored in base units and shown in the units of the token, with
fewer digits than the token has. What is entered is taken apart at the point,
the fraction is brought to the digits of the token, and the two parts are read
as one integer. So a text of digits is worth its value in base units, rounded
down, and what is shown of an amount comes back as the amount without what the
digits do not show.

## Main definitions

* `toBaseUnits`, `formatBalance`: The conversions of the source.
* `DecimalText`: Digits with or without a fraction.
* `displayUnit`: One unit of the last digit that is shown.

## Theorems

* `toBaseUnits_text`: What a text is worth.
* `toBaseUnits_toDisplayAmount`: What is shown of an amount comes back.
* `amounts_roundTrip`: The two conversions agree.
-/

namespace SvmCourse

namespace Esports

open Core Core.BigInt

/-- The text is taken apart at the points, and only the first two parts count.
    A text that is no integer then raises. -/
def toBaseUnits (tokenType : SupportedToken) (displayAmount : String) : Option Int :=
  let config := tokenConfig tokenType
  let parts := displayAmount.toList.splitOn '.'
  let whole := parts.headD []
  let fraction := parts.tail.headD []
  -- Zeros are added at the end, or digits cut off.
  let paddedFraction := fit config.decimals fraction
  bigInt (String.ofList (whole ++ paddedFraction))

/-- The balance of one token, as it is shown. -/
structure TokenBalance where
  tokenType : SupportedToken
  deriving DecidableEq, Repr

/-- The balance to format comes as an argument. -/
def TokenBalance.formatBalance (tokenBalance : TokenBalance) (balance : Int) : String :=
  let config := tokenConfig tokenBalance.tokenType
  let divisor : Int := 10 ^ config.decimals
  let fractionStr := padStart (toString (balance.tmod divisor)) config.decimals
  let shown := String.ofList (fractionStr.toList.take config.displayPrecision)
  let symbol := config.symbol
  s!"{balance.tdiv divisor}.{shown} {symbol}"

/-! ### Texts of digits -/

/-- Digits, and after a point more digits, if there is one. -/
structure DecimalText where
  whole : List Char
  fraction : Option (List Char)
  whole_digits : AllDigits whole
  fraction_digits : AllDigits (fraction.getD [])

namespace DecimalText

/-- The text of a number with or without a fraction. -/
def text (d : DecimalText) : String :=
  match d.fraction with
  | none => String.ofList d.whole
  | some fraction => String.ofList (d.whole ++ '.' :: fraction)

/-- The number the text is written for. -/
def value (d : DecimalText) : ℚ :=
  worth d.whole + worth (d.fraction.getD []) / 10 ^ (d.fraction.getD []).length

/-- What the text is worth in units of which the token has so many digits. -/
def units (d : DecimalText) (decimals : Nat) : Nat :=
  worth d.whole * 10 ^ decimals +
    worth (d.fraction.getD []) * 10 ^ decimals / 10 ^ (d.fraction.getD []).length

theorem not_mem_point {cs : List Char} (h : AllDigits cs) : '.' ∉ cs :=
  fun hmem => absurd (h '.' hmem) (by decide)

/-- The parts of the text at the point. -/
theorem splitOn_text (d : DecimalText) :
    (d.text.toList.splitOn '.').headD [] = d.whole ∧
      (d.text.toList.splitOn '.').tail.headD [] = d.fraction.getD [] := by
  have hwhole := not_mem_point d.whole_digits
  have hfraction := not_mem_point d.fraction_digits
  unfold text
  -- There is a point only where there is a fraction.
  cases hcase : d.fraction with
  | none =>
      simp only [String.toList_ofList, List.splitOn_eq_singleton hwhole]
      exact ⟨rfl, rfl⟩
  | some fraction =>
      rw [hcase, Option.getD_some] at hfraction
      simp only [String.toList_ofList, List.splitOn_append_cons_self_of_not_mem hwhole,
        List.splitOn_eq_singleton hfraction]
      exact ⟨rfl, rfl⟩

/-- Rounding down in units is rounding the value down. -/
theorem units_eq_floor (d : DecimalText) (decimals : Nat) :
    (d.units decimals : Int) = ⌊d.value * 10 ^ decimals⌋ := by
  have hpow : (10 : ℚ) ^ (d.fraction.getD []).length =
      ((10 ^ (d.fraction.getD []).length : Nat) : ℚ) := by
    push_cast
    rfl
  have hvalue : d.value * 10 ^ decimals = ((worth d.whole * 10 ^ decimals : Nat) : ℚ) +
      ((worth (d.fraction.getD []) * 10 ^ decimals : Nat) : ℚ) /
        ((10 ^ (d.fraction.getD []).length : Nat) : ℚ) := by
    rw [value, hpow]
    push_cast
    ring
  -- Only the digits after the point are rounded.
  rw [hvalue, Int.floor_natCast_add, units, Rat.floor_natCast_div_natCast]
  push_cast
  rfl

end DecimalText

/-- A text of digits is worth its value in base units, rounded down. -/
theorem toBaseUnits_text (tokenType : SupportedToken) (d : DecimalText) :
    toBaseUnits tokenType d.text = some (d.units (tokenConfig tokenType).decimals : Int) := by
  have hdigits : AllDigits (d.whole ++ fit (tokenConfig tokenType).decimals (d.fraction.getD [])) :=
    List.forall_mem_append.mpr ⟨d.whole_digits, allDigits_fit d.fraction_digits _⟩
  unfold toBaseUnits
  simp only [d.splitOn_text.1, d.splitOn_text.2]
  rw [bigInt_digits hdigits, worth_append, length_fit, worth_fit d.fraction_digits]
  rfl

theorem units_mono {d e : DecimalText} (h : d.value ≤ e.value) (decimals : Nat) :
    d.units decimals ≤ e.units decimals := by
  have hfloor : ⌊d.value * 10 ^ decimals⌋ ≤ ⌊e.value * 10 ^ decimals⌋ := by
    apply Int.floor_le_floor
    gcongr
  rw [← d.units_eq_floor, ← e.units_eq_floor] at hfloor
  exact_mod_cast hfloor

/-! ### What is shown -/

/-- One unit of the last digit that is shown. -/
def displayUnit (tokenType : SupportedToken) : Nat :=
  10 ^ ((tokenConfig tokenType).decimals - (tokenConfig tokenType).displayPrecision)

theorem tokenConfig_digits (tokenType : SupportedToken) :
    0 < (tokenConfig tokenType).decimals ∧
      (tokenConfig tokenType).displayPrecision ≤ (tokenConfig tokenType).decimals := by
  cases tokenType <;> decide

/-- An amount as it is shown. -/
def shownText (tokenType : SupportedToken) (b : Nat) : DecimalText where
  whole := Nat.toDigits 10 (b / 10 ^ (tokenConfig tokenType).decimals)
  fraction := some ((padded (tokenConfig tokenType).decimals
    (b % 10 ^ (tokenConfig tokenType).decimals)).take (tokenConfig tokenType).displayPrecision)
  whole_digits := allDigits_toDigits _
  fraction_digits := fun c hc => allDigits_padded _ _ c (List.mem_of_mem_take hc)

theorem padStart_toDigits (n width : Nat) :
    (padStart (toString n) width).toList = padded width n := by
  have htext : toString n = String.ofList (Nat.toDigits 10 n) := Nat.repr_eq_ofList_toDigits
  rw [padStart, htext, padded, String.toList_append, String.toList_ofList, String.toList_ofList,
    String.length_ofList]

theorem toDisplayAmount_eq (tokenType : SupportedToken) (b : Nat) :
    toDisplayAmount tokenType b = (shownText tokenType b).text := by
  have hdiv : (b : Int).tdiv (10 ^ (tokenConfig tokenType).decimals) =
      ((b / 10 ^ (tokenConfig tokenType).decimals : Nat) : Int) := by
    rw [Int.tdiv_eq_ediv_of_nonneg (Int.natCast_nonneg b)]
    push_cast
    rfl
  have hmod : (b : Int).tmod (10 ^ (tokenConfig tokenType).decimals) =
      ((b % 10 ^ (tokenConfig tokenType).decimals : Nat) : Int) := by
    rw [Int.tmod_eq_emod_of_nonneg (Int.natCast_nonneg b)]
    push_cast
    rfl
  -- An integer that is not negative has no sign to show.
  have hdigits : ∀ n : Nat, toString (n : Int) = toString n := fun n => rfl
  have hwhole : ∀ n : Nat, toString n = String.ofList (Nat.toDigits 10 n) :=
    fun n => Nat.repr_eq_ofList_toDigits
  unfold toDisplayAmount
  simp only [hdiv, hmod, hdigits, padStart_toDigits]
  rw [hwhole, ← String.toList_inj]
  simp only [shownText, DecimalText.text, String.toList_append, String.toList_ofList,
    List.append_assoc, toString]
  rfl

/-- Leaving off what is below a unit, taken apart at a multiple of the unit. -/
theorem div_mul_eq_parts (b p : Nat) {unit : Nat} (hunit : 0 < unit) :
    b / unit * unit = b / (unit * p) * (unit * p) + b % (unit * p) / unit * unit := by
  -- Whole multiples of the larger unit are whole multiples of the smaller one.
  have hsplit : b = b % (unit * p) + unit * (p * (b / (unit * p))) := by
    have hdiv := Nat.div_add_mod b (unit * p)
    rw [Nat.mul_assoc] at hdiv
    omega
  have hquotient : b / unit = b % (unit * p) / unit + p * (b / (unit * p)) := by
    conv_lhs => rw [hsplit]
    exact Nat.add_mul_div_left _ _ hunit
  rw [hquotient]
  ring

/-- What is shown of an amount is the amount without what the digits do not
    show. -/
theorem units_shownText (tokenType : SupportedToken) (b : Nat) :
    (shownText tokenType b).units (tokenConfig tokenType).decimals =
      b / displayUnit tokenType * displayUnit tokenType := by
  rcases tokenConfig_digits tokenType with ⟨hpos, hle⟩
  have hlt : b % 10 ^ (tokenConfig tokenType).decimals < 10 ^ (tokenConfig tokenType).decimals :=
    Nat.mod_lt _ (Nat.pow_pos (by omega))
  have hpow : 10 ^ (tokenConfig tokenType).decimals =
      displayUnit tokenType * 10 ^ (tokenConfig tokenType).displayPrecision :=
    (Nat.pow_sub_mul_pow 10 hle).symm
  have hwhole : worth (shownText tokenType b).whole = b / 10 ^ (tokenConfig tokenType).decimals :=
    Nat.ofDigitChars_ten_toDigits
  -- The digits that are shown are the first ones of the remainder.
  have hfraction : worth ((shownText tokenType b).fraction.getD []) =
      b % 10 ^ (tokenConfig tokenType).decimals / displayUnit tokenType :=
    worth_take_padded hpos hlt hle
  have hlength : ((shownText tokenType b).fraction.getD []).length =
      (tokenConfig tokenType).displayPrecision := by
    rw [shownText, Option.getD_some, List.length_take, length_padded hpos hlt]
    omega
  have hcancel : ∀ x : Nat, x * 10 ^ (tokenConfig tokenType).decimals /
      10 ^ (tokenConfig tokenType).displayPrecision = x * displayUnit tokenType := by
    intro x
    rw [hpow, ← Nat.mul_assoc]
    exact Nat.mul_div_cancel _ (Nat.pow_pos (by omega))
  rw [DecimalText.units, hwhole, hfraction, hlength, hcancel, hpow]
  exact (div_mul_eq_parts b _ (Nat.pow_pos (by omega))).symm

/-- What is shown of an amount comes back as the amount without what the digits
    do not show. -/
theorem toBaseUnits_toDisplayAmount (tokenType : SupportedToken) (b : Nat) :
    toBaseUnits tokenType (toDisplayAmount tokenType b) =
      some ((b / displayUnit tokenType * displayUnit tokenType : Nat) : Int) := by
  rw [toDisplayAmount_eq, toBaseUnits_text, units_shownText]

/-- A balance is shown as an amount is, with the symbol of the token after it. -/
theorem formatBalance_eq (tokenBalance : TokenBalance) (balance : Int) :
    tokenBalance.formatBalance balance =
      toDisplayAmount tokenBalance.tokenType balance ++ " " ++
        (tokenConfig tokenBalance.tokenType).symbol := by
  unfold TokenBalance.formatBalance toDisplayAmount
  rfl

/-- What is shown of an amount comes back as no more than the amount and less
    than one unit of the last digit below it. Texts of digits are worth their
    value, rounded down, so more is never worth less. And a balance shows the
    digits of the amount. -/
theorem amounts_roundTrip (tokenType : SupportedToken) :
    (∀ b : Nat, ∃ b' : Nat,
      toBaseUnits tokenType (toDisplayAmount tokenType b) = some (b' : Int) ∧
        b' ≤ b ∧ b < b' + displayUnit tokenType ∧ (displayUnit tokenType ∣ b → b' = b)) ∧
    (∀ d : DecimalText, toBaseUnits tokenType d.text =
      some ⌊d.value * 10 ^ (tokenConfig tokenType).decimals⌋) ∧
    (∀ d e : DecimalText, d.value ≤ e.value → ∃ m n : Int,
      toBaseUnits tokenType d.text = some m ∧ toBaseUnits tokenType e.text = some n ∧ m ≤ n) ∧
    ∀ (tokenBalance : TokenBalance) (balance : Int), tokenBalance.tokenType = tokenType →
      tokenBalance.formatBalance balance =
        toDisplayAmount tokenType balance ++ " " ++ (tokenConfig tokenType).symbol := by
  have hunit : 0 < displayUnit tokenType := Nat.pow_pos (by omega)
  refine ⟨fun b => ⟨_, toBaseUnits_toDisplayAmount tokenType b, ?_, ?_, ?_⟩, fun d => ?_,
    fun d e hle => ?_, fun tokenBalance balance htype => ?_⟩
  · exact Nat.div_mul_le_self _ _
  · exact Nat.lt_div_mul_add hunit
  · exact Nat.div_mul_cancel
  · rw [toBaseUnits_text, d.units_eq_floor]
  · exact ⟨_, _, toBaseUnits_text tokenType d, toBaseUnits_text tokenType e,
      by exact_mod_cast units_mono hle _⟩
  · rw [formatBalance_eq, htype]

end Esports

end SvmCourse
