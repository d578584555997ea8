import Mathlib.Algebra.Order.Field.Power
import Mathlib.Algebra.Order.Floor.Semifield
import Mathlib.Data.Rat.Floor
import Mathlib.Tactic.FieldSimp
import Mathlib.Tactic.NormNum
import Mathlib.Tactic.Ring
import SvmCourse.Core.Double

/-!
# Rounding Keeps the Order

Rounding is described by the power of two between whose multiples it chooses.
A positive number lies between two powers of two that are next to each other,
and is rounded to a whole multiple of the power fifty-two places lower. From this
it follows that a number that is not greater is not rounded to a greater one,
also across a power of two, and that a number which is a double is left as it
is.

## Main definitions

* `toEven`: The nearest whole number, the even one of two.
* `Representable`: A number of at most fifty-three significant bits.

## Theorems

* `round_eq`: What rounding does between two powers of two.
* `round_mono`: Rounding keeps the order.
* `round_of_representable`: A double is left as it is.
* `representable_round`: What has been rounded is a double.
-/

namespace Core

namespace Double

/-! ### Whole numbers -/

/-- The nearest whole number, the even one of two that are equally near. -/
def toEven (x : ℚ) : Int :=
  if 2 * Int.fract x < 1 ∨ 2 * Int.fract x = 1 ∧ ⌊x⌋ % 2 = 0 then ⌊x⌋ else ⌊x⌋ + 1

theorem toEven_intCast (n : Int) : toEven n = n := by
  rw [toEven, Int.fract_intCast, Int.floor_intCast, if_pos (Or.inl (by norm_num))]

theorem floor_le_toEven (x : ℚ) : ⌊x⌋ ≤ toEven x := by
  unfold toEven
  split <;> omega

theorem toEven_le_floor (x : ℚ) : toEven x ≤ ⌊x⌋ + 1 := by
  unfold toEven
  split <;> omega

theorem toEven_mono {x y : ℚ} (h : x ≤ y) : toEven x ≤ toEven y := by
  have hfloor : ⌊x⌋ ≤ ⌊y⌋ := Int.floor_le_floor h
  rcases hfloor.lt_or_eq with hlt | heq
  · -- There is a whole number in between.
    have hx := toEven_le_floor x
    have hy := floor_le_toEven y
    omega
  · -- The part after the point decides, and it is not greater.
    have hfract : Int.fract x ≤ Int.fract y := by
      rw [Int.fract, Int.fract, heq]
      exact sub_le_sub_right h _
    unfold toEven
    rw [heq]
    split
    · split <;> omega
    · next hx =>
        rw [if_neg]
        rintro (hlt | ⟨hhalf, heven⟩)
        · exact hx (Or.inl (by linarith))
        · rcases hfract.lt_or_eq with hless | hsame
          · exact hx (Or.inl (by linarith))
          · exact hx (Or.inr ⟨by rw [hsame]; exact hhalf, heven⟩)

theorem toEven_le (x : ℚ) : (toEven x : ℚ) ≤ x + 1 / 2 := by
  have hsplit := Int.floor_add_fract x
  have hfract := Int.fract_nonneg x
  unfold toEven
  split
  · linarith
  · next hup =>
      have hhalf : 1 ≤ 2 * Int.fract x := not_lt.mp fun hlt => hup (Or.inl hlt)
      push_cast
      linarith

/-- Rounding a fraction of natural numbers to a whole number. -/
theorem nearest_eq_toEven (n : Nat) {d : Nat} (hd : 0 < d) :
    (nearest n d : Int) = toEven ((n : ℚ) / d) := by
  have hfloor : ⌊(n : ℚ) / d⌋ = ((n / d : Nat) : Int) := by
    have hnat : ⌊(n : ℚ) / d⌋₊ = n / d := Nat.floor_div_eq_div n d
    rw [← hnat]
    exact (Int.natCast_floor_eq_floor (by positivity)).symm
  have hfract : Int.fract ((n : ℚ) / d) = ((n % d : Nat) : ℚ) / d :=
    Int.fract_div_natCast_eq_div_natCast_mod
  have hpos : (0 : ℚ) < d := Nat.cast_pos.mpr hd
  -- The three cases of the remainder are those of the fraction.
  have hless : 2 * (((n % d : Nat) : ℚ) / d) < 1 ↔ 2 * (n % d) < d := by
    rw [← mul_div_assoc, div_lt_one hpos]
    exact_mod_cast Iff.rfl
  have hhalf : 2 * (((n % d : Nat) : ℚ) / d) = 1 ↔ 2 * (n % d) = d := by
    rw [← mul_div_assoc, div_eq_one_iff_eq hpos.ne']
    exact_mod_cast Iff.rfl
  have heven : ((n / d : Nat) : Int) % 2 = 0 ↔ n / d % 2 = 0 := by omega
  rw [nearest, toEven, hfloor, hfract]
  simp only [hless, hhalf, heven]
  split <;> push_cast <;> rfl

/-! ### Powers of two -/

theorem two_zpow_toNat (e : Int) : (2 : ℚ) ^ e.toNat / 2 ^ (-e).toNat = 2 ^ e := by
  rcases Int.le_total 0 e with hpos | hneg
  · have hzero : (-e).toNat = 0 := by omega
    rw [hzero, pow_zero, div_one, ← zpow_natCast, Int.toNat_of_nonneg hpos]
  · have hzero : e.toNat = 0 := by omega
    have hnat : ((-e).toNat : Int) = -e := Int.toNat_of_nonneg (by omega)
    rw [hzero, pow_zero, ← zpow_natCast, hnat, zpow_neg, one_div, inv_inv]

/-- A positive fraction lies between the power of two its exponent stands for and
    the next one. -/
theorem exponent_bounds {n d : Nat} (hn : 0 < n) (hd : 0 < d) :
    (2 : ℚ) ^ (exponent n d + 52) ≤ (n : ℚ) / d ∧ (n : ℚ) / d < 2 ^ (exponent n d + 53) := by
  have hnpos : (0 : ℚ) < n := Nat.cast_pos.mpr hn
  have hdpos : (0 : ℚ) < d := Nat.cast_pos.mpr hd
  have htwo : (2 : ℚ) ≠ 0 := two_ne_zero
  have hnlow : (2 : ℚ) ^ (n.log2 : Int) ≤ n := by
    rw [zpow_natCast]
    exact_mod_cast Nat.log2_self_le hn.ne'
  have hnhigh : (n : ℚ) < 2 ^ ((n.log2 : Int) + 1) := by
    have hlt : n < 2 ^ (n.log2 + 1) := Nat.lt_log2_self
    rw [← Nat.cast_succ, zpow_natCast]
    exact_mod_cast hlt
  have hdlow : (2 : ℚ) ^ (d.log2 : Int) ≤ d := by
    rw [zpow_natCast]
    exact_mod_cast Nat.log2_self_le hd.ne'
  have hdhigh : (d : ℚ) < 2 ^ ((d.log2 : Int) + 1) := by
    have hlt : d < 2 ^ (d.log2 + 1) := Nat.lt_log2_self
    rw [← Nat.cast_succ, zpow_natCast]
    exact_mod_cast hlt
  -- The logarithms leave two powers of two to choose from.
  have hlow : (2 : ℚ) ^ ((n.log2 : Int) - d.log2 - 1) ≤ (n : ℚ) / d := by
    rw [le_div_iff₀ hdpos]
    calc (2 : ℚ) ^ ((n.log2 : Int) - d.log2 - 1) * d
        ≤ 2 ^ ((n.log2 : Int) - d.log2 - 1) * 2 ^ ((d.log2 : Int) + 1) := by gcongr
      _ = 2 ^ (n.log2 : Int) := by rw [← zpow_add₀ htwo]; congr 1; ring
      _ ≤ n := hnlow
  have hhigh : (n : ℚ) / d < 2 ^ ((n.log2 : Int) - d.log2 + 1) := by
    rw [div_lt_iff₀ hdpos]
    calc (n : ℚ) < 2 ^ ((n.log2 : Int) + 1) := hnhigh
      _ = 2 ^ ((n.log2 : Int) - d.log2 + 1) * 2 ^ (d.log2 : Int) := by
          rw [← zpow_add₀ htwo]; congr 1; ring
      _ ≤ 2 ^ ((n.log2 : Int) - d.log2 + 1) * d := by gcongr
  have htest : n * 2 ^ (-((n.log2 : Int) - d.log2)).toNat <
      d * 2 ^ ((n.log2 : Int) - d.log2).toNat ↔
      (n : ℚ) / d < 2 ^ ((n.log2 : Int) - d.log2) := by
    rw [← two_zpow_toNat, div_lt_div_iff₀ hdpos (by positivity), mul_comm (2 ^ _ : ℚ)]
    exact_mod_cast Iff.rfl
  rw [exponent]
  split
  · next hless =>
      have hupper := htest.mp hless
      have hbelow : (n.log2 : Int) - d.log2 - 53 + 52 = n.log2 - d.log2 - 1 := by ring
      rw [hbelow, sub_add_cancel]
      exact ⟨hlow, hupper⟩
  · next hless =>
      have hlower := not_lt.mp (mt htest.mpr hless)
      have habove : (n.log2 : Int) - d.log2 - 52 + 53 = n.log2 - d.log2 + 1 := by ring
      rw [habove, sub_add_cancel]
      exact ⟨hlower, hhigh⟩

/-- Between two powers of two rounding chooses between the multiples of a third. -/
theorem round_eq {q : ℚ} {e : Int} (hlow : (2 : ℚ) ^ (e + 52) ≤ q) (hhigh : q < 2 ^ (e + 53)) :
    round q = toEven (q / 2 ^ e) * 2 ^ e := by
  have hpos : 0 < q := lt_of_lt_of_le (by positivity) hlow
  have hden : 0 < q.den := q.den_pos
  have hnum : 0 < q.num.natAbs := Int.natAbs_pos.mpr (Rat.num_pos.mpr hpos).ne'
  have hq : (q.num.natAbs : ℚ) / q.den = q := by
    rw [Nat.cast_natAbs, abs_of_pos (Rat.num_pos.mpr hpos)]
    exact Rat.num_div_den q
  rcases exponent_bounds hnum hden with ⟨hlow', hhigh'⟩
  rw [hq] at hlow' hhigh'
  -- There is only one pair of powers that the number lies between.
  have hone : (1 : ℚ) < 2 := one_lt_two
  have hle : e + 52 < exponent q.num.natAbs q.den + 53 :=
    (zpow_lt_zpow_iff_right₀ hone).mp (hlow.trans_lt hhigh')
  have hge : exponent q.num.natAbs q.den + 52 < e + 53 :=
    (zpow_lt_zpow_iff_right₀ hone).mp (hlow'.trans_lt hhigh)
  have hsame : exponent q.num.natAbs q.den = e := by omega
  have hdpos : 0 < q.den * 2 ^ e.toNat := Nat.mul_pos hden (Nat.two_pow_pos _)
  have hscaled : ((q.num.natAbs * 2 ^ (-e).toNat : Nat) : ℚ) / (q.den * 2 ^ e.toNat : Nat) =
      q / 2 ^ e := by
    rw [← two_zpow_toNat e]
    conv_rhs => rw [← hq]
    push_cast
    field_simp
  have hnearest := nearest_eq_toEven (q.num.natAbs * 2 ^ (-e).toNat) hdpos
  rw [hscaled] at hnearest
  rw [round, if_pos hpos, roundFraction, hsame, two_zpow_toNat, ← hnearest, Int.cast_natCast]

theorem round_zero : round 0 = 0 := rfl

theorem round_neg (q : ℚ) : round (-q) = -round q := by
  unfold round
  rcases lt_trichotomy q 0 with hneg | rfl | hpos
  · have hflip : 0 < -q := neg_pos.mpr hneg
    rw [if_pos hflip, if_neg hneg.le.not_gt, if_pos hneg, neg_neg, Rat.num_neg_eq_neg_num,
      Int.natAbs_neg, Rat.den_neg_eq_den]
  · rfl
  · have hflip : -q < 0 := neg_neg_of_pos hpos
    rw [if_neg hflip.le.not_gt, if_pos hflip, if_pos hpos, Rat.num_neg_eq_neg_num,
      Int.natAbs_neg, Rat.den_neg_eq_den]

theorem exists_exponent {q : ℚ} (hpos : 0 < q) :
    ∃ e : Int, (2 : ℚ) ^ (e + 52) ≤ q ∧ q < 2 ^ (e + 53) := by
  have hnum : 0 < q.num.natAbs := Int.natAbs_pos.mpr (Rat.num_pos.mpr hpos).ne'
  have hq : (q.num.natAbs : ℚ) / q.den = q := by
    rw [Nat.cast_natAbs, abs_of_pos (Rat.num_pos.mpr hpos)]
    exact Rat.num_div_den q
  have hbounds := exponent_bounds hnum q.den_pos
  rw [hq] at hbounds
  exact ⟨_, hbounds⟩

/-- The whole number that rounding chooses has fifty-three significant bits. -/
theorem toEven_bounds {q : ℚ} {e : Int} (hlow : (2 : ℚ) ^ (e + 52) ≤ q) (hhigh : q < 2 ^ (e + 53)) :
    2 ^ 52 ≤ toEven (q / 2 ^ e) ∧ toEven (q / 2 ^ e) ≤ 2 ^ 53 := by
  have htwo : (2 : ℚ) ≠ 0 := two_ne_zero
  have hlower : ((2 ^ 52 : Int) : ℚ) ≤ q / 2 ^ e := by
    rw [le_div_iff₀ (by positivity)]
    refine le_of_eq_of_le ?_ hlow
    rw [zpow_add₀ htwo, mul_comm]
    norm_num
  have hupper : q / 2 ^ e ≤ ((2 ^ 53 : Int) : ℚ) := by
    rw [div_le_iff₀ (by positivity)]
    refine hhigh.le.trans_eq ?_
    rw [zpow_add₀ htwo, mul_comm]
    norm_num
  -- Rounding is monotone, and leaves the two powers as they are.
  constructor
  · have h := toEven_mono hlower
    rwa [toEven_intCast] at h
  · have h := toEven_mono hupper
    rwa [toEven_intCast] at h

theorem round_mono_of_pos {p q : ℚ} (hpos : 0 < p) (h : p ≤ q) : round p ≤ round q := by
  rcases exists_exponent hpos with ⟨e, hplow, hphigh⟩
  rcases exists_exponent (hpos.trans_le h) with ⟨f, hqlow, hqhigh⟩
  have hone : (1 : ℚ) < 2 := one_lt_two
  have htwo : (2 : ℚ) ≠ 0 := two_ne_zero
  have hle : e + 52 < f + 53 := (zpow_lt_zpow_iff_right₀ hone).mp
    ((hplow.trans h).trans_lt hqhigh)
  rw [round_eq hplow hphigh, round_eq hqlow hqhigh]
  rcases (show e ≤ f by omega).lt_or_eq with hlt | rfl
  · -- The power of two between them is not passed by either.
    have hpbound : (toEven (p / 2 ^ e) : ℚ) ≤ 2 ^ 53 := by
      exact_mod_cast (toEven_bounds hplow hphigh).2
    have hqbound : (2 : ℚ) ^ 52 ≤ toEven (q / 2 ^ f) := by
      exact_mod_cast (toEven_bounds hqlow hqhigh).1
    calc (toEven (p / 2 ^ e) : ℚ) * 2 ^ e ≤ 2 ^ 53 * 2 ^ e := by gcongr
      _ = 2 ^ 52 * 2 ^ (e + 1) := by rw [zpow_add_one₀ htwo]; ring
      _ ≤ 2 ^ 52 * 2 ^ f := by
          gcongr
          · exact hone.le
          · omega
      _ ≤ toEven (q / 2 ^ f) * 2 ^ f := by gcongr
  · have hmono : toEven (p / 2 ^ e) ≤ toEven (q / 2 ^ e) := toEven_mono (by gcongr)
    gcongr

/-- Rounding keeps the order. -/
theorem round_mono {p q : ℚ} (h : p ≤ q) : round p ≤ round q := by
  rcases lt_or_ge 0 p with hpos | hnonpos
  · exact round_mono_of_pos hpos h
  · rcases lt_or_ge q 0 with hneg | hnonneg
    · have hflip := round_mono_of_pos (neg_pos.mpr hneg) (neg_le_neg h)
      rw [round_neg, round_neg] at hflip
      exact neg_le_neg_iff.mp hflip
    · -- Zero is in between.
      have hp : round p ≤ 0 := not_lt.mp (mt round_pos_iff.mp hnonpos.not_gt)
      have hq : 0 ≤ round q := by
        rcases hnonneg.lt_or_eq with hpos | hzero
        · exact (round_pos_iff.mpr hpos).le
        · rw [← hzero, round_zero]
      exact hp.trans hq

theorem round_nonneg {q : ℚ} (h : 0 ≤ q) : 0 ≤ round q := round_mono h

/-- A number does not become much greater. -/
theorem round_le {q : ℚ} (h : 0 ≤ q) : round q ≤ q + q / 2 ^ 53 := by
  rcases h.lt_or_eq with hpos | rfl
  · rcases exists_exponent hpos with ⟨e, hlow, hhigh⟩
    -- Half a unit in the last place is the most that is added.
    have hulp : (2 : ℚ) ^ e * 2 ^ 52 ≤ q := by
      refine le_of_eq_of_le ?_ hlow
      rw [zpow_add₀ two_ne_zero]
      norm_num
    have hnearest := toEven_le (q / 2 ^ e)
    rw [round_eq hlow hhigh]
    calc (toEven (q / 2 ^ e) : ℚ) * 2 ^ e ≤ (q / 2 ^ e + 1 / 2) * 2 ^ e := by gcongr
      _ = q + 2 ^ e * 2 ^ 52 / 2 ^ 53 := by field_simp
      _ ≤ q + q / 2 ^ 53 := by gcongr
  · rw [round_zero, zero_div, add_zero]

/-! ### Doubles -/

/-- A number that is not negative and has at most fifty-three significant bits. -/
def Representable (x : ℚ) : Prop := ∃ (m : Nat) (e : Int), m < 2 ^ 53 ∧ x = m * 2 ^ e

theorem Representable.nonneg {x : ℚ} (h : Representable x) : 0 ≤ x := by
  rcases h with ⟨m, e, -, rfl⟩
  positivity

/-- A double is left as it is. -/
theorem round_of_representable {x : ℚ} (h : Representable x) : round x = x := by
  rcases h with ⟨m, e, hm, rfl⟩
  have htwo : (2 : ℚ) ≠ 0 := two_ne_zero
  rcases Nat.eq_zero_or_pos m with rfl | hpos
  · rw [Nat.cast_zero, zero_mul, round_zero]
  · have hlog : m.log2 ≤ 52 := by
      have hlt : m.log2 < 53 := (Nat.log2_lt hpos.ne').mpr hm
      omega
    -- The significand is shifted until it has fifty-three bits.
    have hshift : (m : ℚ) * 2 ^ e =
        ((m * 2 ^ (52 - m.log2) : Nat) : Int) * 2 ^ (e + m.log2 - 52) := by
      have hexponent : e = ((52 - m.log2 : Nat) : Int) + (e + m.log2 - 52) := by omega
      conv_lhs => rw [hexponent]
      rw [zpow_add₀ htwo, zpow_natCast]
      push_cast
      ring
    have hscaled : (m : ℚ) * 2 ^ e / 2 ^ (e + m.log2 - 52) =
        ((m * 2 ^ (52 - m.log2) : Nat) : Int) := by
      rw [hshift]
      field_simp
    have hlow : (2 : ℚ) ^ (e + m.log2 - 52 + 52) ≤ m * 2 ^ e := by
      have hself : (2 : ℚ) ^ m.log2 ≤ m := by exact_mod_cast Nat.log2_self_le hpos.ne'
      rw [sub_add_cancel, zpow_add₀ htwo, zpow_natCast, mul_comm]
      gcongr
    have hhigh : (m : ℚ) * 2 ^ e < 2 ^ (e + m.log2 - 52 + 53) := by
      have hlt : (m : ℚ) < 2 ^ (m.log2 + 1) := by exact_mod_cast @Nat.lt_log2_self m
      have hexponent : e + m.log2 - 52 + 53 = ((m.log2 + 1 : Nat) : Int) + e := by omega
      rw [hexponent, zpow_add₀ htwo, zpow_natCast]
      gcongr
    rw [round_eq hlow hhigh, hscaled, toEven_intCast, Int.cast_natCast, hshift, Int.cast_natCast]

/-- What has been rounded is a double. -/
theorem representable_round {q : ℚ} (h : 0 ≤ q) : Representable (round q) := by
  rcases h.lt_or_eq with hpos | rfl
  · rcases exists_exponent hpos with ⟨e, hlow, hhigh⟩
    rcases toEven_bounds hlow hhigh with ⟨hbelow, habove⟩
    have hnat : ((toEven (q / 2 ^ e)).toNat : Int) = toEven (q / 2 ^ e) :=
      Int.toNat_of_nonneg (by omega)
    have hcast : ((toEven (q / 2 ^ e)).toNat : ℚ) = toEven (q / 2 ^ e) := by exact_mod_cast hnat
    rw [round_eq hlow hhigh]
    rcases habove.lt_or_eq with hlt | heq
    · exact ⟨(toEven (q / 2 ^ e)).toNat, e, by omega, by rw [hcast]⟩
    · -- The next power of two has a shorter significand.
      refine ⟨1, e + 53, by norm_num, ?_⟩
      rw [heq, zpow_add₀ two_ne_zero]
      push_cast
      ring
  · exact ⟨0, 0, by norm_num, by rw [round_zero, Nat.cast_zero, zero_mul]⟩

theorem representable_natCast {n : Nat} (h : n < 2 ^ 53) : Representable n :=
  ⟨n, 0, h, by rw [zpow_zero, mul_one]⟩

/-- What is left of a double without the part after the point is a double. -/
theorem representable_floor {x : ℚ} (h : Representable x) : Representable (⌊x⌋ : ℚ) := by
  rcases h with ⟨m, e, hm, rfl⟩
  rcases Int.le_total 0 e with hpos | hneg
  · -- The number is whole.
    have hwhole : (m : ℚ) * 2 ^ e = ((m * 2 ^ e.toNat : Nat) : Int) := by
      rw [← Int.toNat_of_nonneg hpos]
      push_cast
      rw [zpow_natCast, Int.toNat_natCast]
    refine ⟨m, e, hm, ?_⟩
    rw [hwhole, Int.floor_intCast]
  · have hnonneg : (0 : ℚ) ≤ m * 2 ^ e := by positivity
    have hless : (m : ℚ) * 2 ^ e ≤ m := by
      refine mul_le_of_le_one_right (Nat.cast_nonneg m) ?_
      exact zpow_le_one_of_nonpos₀ one_le_two hneg
    have hfloor : ⌊(m : ℚ) * 2 ^ e⌋ ≤ m := by
      have hmono := Int.floor_le_floor hless
      rwa [Int.floor_natCast] at hmono
    have hpositive : 0 ≤ ⌊(m : ℚ) * 2 ^ e⌋ := Int.floor_nonneg.mpr hnonneg
    have hnat : ((⌊(m : ℚ) * 2 ^ e⌋.toNat : Nat) : Int) = ⌊(m : ℚ) * 2 ^ e⌋ :=
      Int.toNat_of_nonneg hpositive
    have hcast : (⌊(m : ℚ) * 2 ^ e⌋ : ℚ) = (⌊(m : ℚ) * 2 ^ e⌋.toNat : Nat) := by
      exact_mod_cast hnat.symm
    rw [hcast]
    exact representable_natCast (by omega)

end Double

end Core
