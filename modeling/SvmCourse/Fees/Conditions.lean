import Mathlib.Data.Nat.Cast.Order.Field
import SvmCourse.Fees.Estimates

/-!
# What the Strategies Are Given

The strategies that propose fees work with statistics of the recent fees: what
was paid in the upper five hundredths, how busy the network is, and how many of
the last transactions have succeeded. All of it comes from the network, which may
answer differently each time, or not at all, and then there are defaults.

The statistics are fees that were paid, and stand where they should among them.
Whatever the network answers, the proposals are in order: nothing costs more than
the aggressive strategy, and the balanced one costs no more than the conservative
and the predictive one.

## Main definitions

* `percentile95`, `getFeeMarketStats`: The statistics.
* `analyzeNetworkConditions`: What the strategies are given.

## Theorems

* `stats_ordered`: Where the median and the percentile stand among the fees.
* `proposals_ordered`: The proposals are in order.
-/

namespace SvmCourse

namespace Fees

namespace Estimates

open Core Core.Double

/-! ### Statistics -/

/-- A missing entry, or one that is zero, is replaced by the last one. -/
def percentile95 (recentFees : List ℚ) : ℚ :=
  orDefault (sortedFees recentFees)[⌊mul recentFees.length (decimal 0.95)⌋.toNat]?
    ((sortedFees recentFees)[recentFees.length - 1]?.getD 0)

/-- What is known of the market for priority fees. -/
structure FeeMarketStats where
  averageFee : ℚ
  medianFee : ℚ
  percentile95 : ℚ
  networkLoad : ℚ
  recommendedBaseFee : ℚ

/-- The load that goes with a congestion. -/
def getNetworkLoad (outside : Outside) : ℚ :=
  match getNetworkCongestion outside with
  | .low => decimal 0.3
  | .medium => decimal 0.6
  | .high => decimal 0.9

/-- The fees have been put in order when the average is taken. -/
def getFeeMarketStats (outside : Outside) : FeeMarketStats :=
  let recentFees := getRecentPriorityFees outside
  if recentFees = [] then
    -- The defaults of the code when no fee was paid lately.
    { averageFee := decimal 0.000001
      medianFee := decimal 0.000001
      percentile95 := decimal 0.000002
      networkLoad := decimal 0.5
      recommendedBaseFee := 5000 }
  else
    { averageFee := div ((sortedFees recentFees).foldl add 0) recentFees.length
      medianFee := medianFee recentFees
      percentile95 := percentile95 recentFees
      networkLoad := getNetworkLoad outside
      recommendedBaseFee := 5000 }

/-- A transaction that nothing is known of counts, but not as a success. -/
def Outside.blockOutcomes (outside : Outside) (blockSlot : Int) : List Bool :=
  match outside.getConfirmedBlock blockSlot with
  | .ok (some block) => (block.transactions.getD []).map fun tx =>
      tx.any fun txMeta => txMeta.err.isNone
  | _ => []

/-- How many transactions succeeded lately, as far as that is known. -/
def calculateRecentSuccessRate (outside : Outside) : ℚ :=
  match outside.getSlot with
  | .error _ => decimal 0.95
  | .ok slot =>
    let outcomes := (List.range 5).flatMap fun (i : Nat) => outside.blockOutcomes (slot - (i + 1))
    if 0 < outcomes.length then div (outcomes.count true) outcomes.length else decimal 0.95

/-- The statistics, the last block and the rate of success are asked for one after
    another, and the network may answer differently each time. -/
def analyzeNetworkConditions (stats block rate : Outside) (now : ℚ) : NetworkConditions :=
  let feeStats := getFeeMarketStats stats
  -- The block before the current slot.
  match block.getSlot.bind fun slot => block.getConfirmedBlock (slot - 1) with
  | .ok found =>
    { congestion :=
        if decimal 0.7 < feeStats.networkLoad then .high
        else if decimal 0.4 < feeStats.networkLoad then .medium
        else .low
      recentBlockTime := orDefault (found.bind Block.blockTime) now
      priorityFeePercentile := feeStats.percentile95
      networkLoad := feeStats.networkLoad
      recentTransactionSuccessRate := calculateRecentSuccessRate rate }
  | .error _ =>
    -- Without that block all measured numbers are default ones.
    { congestion := .medium
      recentBlockTime := now
      priorityFeePercentile := decimal 0.000002
      networkLoad := decimal 0.5
      recentTransactionSuccessRate := decimal 0.95 }

/-! ### Statistics of the fees -/

/-- An entry of a list in order is not below what comes before it and not above
    what comes after it. -/
theorem countP_of_sorted {fees : List ℚ} (hsorted : fees.Pairwise (· ≤ ·)) {i : Nat}
    (hi : i < fees.length) :
    i + 1 ≤ fees.countP (fun fee => fee ≤ fees[i]) ∧
      fees.length ≤ fees.countP (fun fee => fees[i] ≤ fee) + i := by
  have hle : ∀ j k (hj : j < fees.length) (hk : k < fees.length), j ≤ k → fees[j] ≤ fees[k] := by
    intro j k hj hk hjk
    rcases hjk.lt_or_eq with hlt | rfl
    · exact List.pairwise_iff_getElem.mp hsorted j k hj hk hlt
    · exact le_rfl
  constructor
  · -- The entries up to this one are not above it.
    have hall : (fees.take (i + 1)).countP (fun fee => fee ≤ fees[i]) =
        (fees.take (i + 1)).length := by
      refine List.countP_eq_length.mpr fun fee hfee => decide_eq_true ?_
      rcases List.mem_take_iff_getElem.mp hfee with ⟨j, hj, rfl⟩
      exact hle j i (by omega) hi (by omega)
    have hsub := (List.take_sublist (i + 1) fees).countP_le (p := fun fee => fee ≤ fees[i])
    rw [hall, List.length_take] at hsub
    omega
  · -- And those from this one on are not below it.
    have hall : (fees.drop i).countP (fun fee => fees[i] ≤ fee) = (fees.drop i).length := by
      refine List.countP_eq_length.mpr fun fee hfee => decide_eq_true ?_
      rcases List.mem_drop_iff_getElem.mp hfee with ⟨j, hj, rfl⟩
      exact hle i (i + j) hi (by omega) (by omega)
    have hsub := (List.drop_sublist i fees).countP_le (p := fun fee => fees[i] ≤ fee)
    rw [hall, List.length_drop] at hsub
    omega

variable {outside : Outside} {recentFees : List ℚ}

theorem length_sortedFees (recentFees : List ℚ) :
    (sortedFees recentFees).length = recentFees.length := List.length_insertionSort ..

theorem mem_sortedFees {fee : ℚ} : fee ∈ sortedFees recentFees ↔ fee ∈ recentFees :=
  List.mem_insertionSort ..

theorem sorted_le {i j : Nat} (hj : j < (sortedFees recentFees).length) (hij : i ≤ j) :
    (sortedFees recentFees)[i] ≤ (sortedFees recentFees)[j] := by
  rcases hij.lt_or_eq with hlt | rfl
  · exact List.pairwise_iff_getElem.mp (List.pairwise_insertionSort (· ≤ ·) recentFees) i j
      (hlt.trans hj) hj hlt
  · exact le_rfl

theorem medianFee_eq (h : recentFees ≠ []) :
    ∃ hlt : recentFees.length / 2 < (sortedFees recentFees).length,
      medianFee recentFees = (sortedFees recentFees)[recentFees.length / 2] := by
  have hpos : 0 < recentFees.length := List.length_pos_iff.mpr h
  have hlt : recentFees.length / 2 < (sortedFees recentFees).length := by
    rw [length_sortedFees]
    omega
  exact ⟨hlt, by rw [medianFee, List.getElem?_eq_getElem hlt, Option.getD_some]⟩

/-- More than half of the fees are not above the median, and half are not below. -/
theorem countP_medianFee (h : recentFees ≠ []) :
    recentFees.length < 2 * recentFees.countP (fun fee => fee ≤ medianFee recentFees) ∧
      recentFees.length ≤ 2 * recentFees.countP (fun fee => medianFee recentFees ≤ fee) := by
  rcases medianFee_eq h with ⟨hlt, heq⟩
  have hsorted : (sortedFees recentFees).Pairwise (· ≤ ·) := List.pairwise_insertionSort ..
  have hperm : (sortedFees recentFees).Perm recentFees := List.perm_insertionSort ..
  have hcounts := countP_of_sorted hsorted hlt
  rw [heq, ← hperm.countP_eq, ← hperm.countP_eq]
  rw [length_sortedFees] at hcounts
  omega

/-- The percentile is the entry that was looked for, or the last one. -/
theorem percentile95_eq (h : recentFees ≠ []) :
    ∃ i, ∃ hlt : i < (sortedFees recentFees).length,
      (i = ⌊mul recentFees.length (decimal 0.95)⌋.toNat ∨ i = recentFees.length - 1) ∧
      percentile95 recentFees = (sortedFees recentFees)[i] := by
  have hpos : 0 < recentFees.length := List.length_pos_iff.mpr h
  have hlast : recentFees.length - 1 < (sortedFees recentFees).length := by
    rw [length_sortedFees]
    omega
  unfold percentile95 orDefault
  rw [List.getElem?_eq_getElem hlast, Option.getD_some]
  -- An entry of zero is passed over like one that is missing.
  by_cases hlt : ⌊mul recentFees.length (decimal 0.95)⌋.toNat < (sortedFees recentFees).length
  · rw [List.getElem?_eq_getElem hlt, Option.filter]
    split
    · exact ⟨_, hlt, Or.inl rfl, Option.getD_some⟩
    · exact ⟨_, hlast, Or.inr rfl, Option.getD_none⟩
  · rw [List.getElem?_eq_none (not_lt.mp hlt)]
    exact ⟨_, hlast, Or.inr rfl, Option.getD_none⟩

theorem percentile95_mem (h : recentFees ≠ []) : percentile95 recentFees ∈ recentFees := by
  rcases percentile95_eq h with ⟨i, hlt, -, heq⟩
  rw [heq, ← mem_sortedFees]
  exact List.getElem_mem hlt

/-- The entry that is looked for is not before the middle one. -/
theorem half_le_index {n : Nat} (hlength : n < 2 ^ 32) :
    n / 2 ≤ ⌊mul n (decimal 0.95)⌋.toNat := by
  have hdecimal : (1 / 2 : ℚ) ≤ decimal 0.95 := by
    rw [← decimal_half]
    exact round_mono (by norm_num)
  have hbelow : ((n / 2 : Nat) : ℚ) ≤ n * decimal 0.95 := by
    calc ((n / 2 : Nat) : ℚ) ≤ (n : ℚ) / 2 := Nat.cast_div_le
      _ = n * (1 / 2) := by ring
      _ ≤ n * decimal 0.95 := by gcongr
  -- Half of the length is a double, so rounding does not pass it.
  have hexact : Double.round ((n / 2 : Nat) : ℚ) = ((n / 2 : Nat) : ℚ) :=
    round_of_representable (representable_natCast (by omega))
  have hround := round_mono hbelow
  rw [hexact] at hround
  have hfloor : ((n / 2 : Nat) : Int) ≤ ⌊mul n (decimal 0.95)⌋ :=
    Int.le_floor.mpr (by exact_mod_cast hround)
  omega

theorem medianFee_le_percentile95 (h : recentFees ≠ []) (hlength : recentFees.length < 2 ^ 32) :
    medianFee recentFees ≤ percentile95 recentFees := by
  rcases medianFee_eq h with ⟨hmiddle, heq⟩
  rcases percentile95_eq h with ⟨i, hlt, hindex, heq'⟩
  rw [heq, heq']
  refine sorted_le hlt ?_
  rcases hindex with rfl | rfl
  · exact half_le_index hlength
  · have hpos : 0 < recentFees.length := List.length_pos_iff.mpr h
    omega

/-- With recent fees the median and the percentile are fees that were paid, half of
    the fees are on either side of the median, and the percentile is not below. An
    array has fewer entries than that. -/
theorem stats_ordered (hfees : getRecentPriorityFees outside ≠ [])
    (hlength : (getRecentPriorityFees outside).length < 2 ^ 32) :
    (getFeeMarketStats outside).medianFee ∈ getRecentPriorityFees outside ∧
    (getFeeMarketStats outside).percentile95 ∈ getRecentPriorityFees outside ∧
    (getFeeMarketStats outside).medianFee ≤ (getFeeMarketStats outside).percentile95 ∧
    (getRecentPriorityFees outside).length < 2 * (getRecentPriorityFees outside).countP
      (fun fee => fee ≤ (getFeeMarketStats outside).medianFee) ∧
    (getRecentPriorityFees outside).length ≤ 2 * (getRecentPriorityFees outside).countP
      (fun fee => (getFeeMarketStats outside).medianFee ≤ fee) := by
  have hmedian : (getFeeMarketStats outside).medianFee =
      medianFee (getRecentPriorityFees outside) := by
    rw [getFeeMarketStats, if_neg hfees]
  have hpercentile : (getFeeMarketStats outside).percentile95 =
      percentile95 (getRecentPriorityFees outside) := by
    rw [getFeeMarketStats, if_neg hfees]
  rw [hmedian, hpercentile]
  exact ⟨medianFee_mem hfees, percentile95_mem hfees, medianFee_le_percentile95 hfees hlength,
    countP_medianFee hfees⟩

theorem sampleOutside_stats :
    (getFeeMarketStats sampleOutside).medianFee ≤ (getFeeMarketStats sampleOutside).percentile95 :=
  (stats_ordered (by decide +kernel) (by decide +kernel)).2.2.1

/-! ### The proposals -/

variable {stats block rate : Outside} {now : ℚ}

/-- The percentile is a double, and the load one of four. -/
theorem representable_percentile95 (outside : Outside) :
    Representable (getFeeMarketStats outside).percentile95 := by
  by_cases hfees : getRecentPriorityFees outside = []
  · rw [getFeeMarketStats, if_pos hfees]
    exact representable_round (by norm_num)
  · rw [getFeeMarketStats, if_neg hfees]
    exact representable_of_mem (percentile95_mem hfees)

theorem rate_bounds (outside : Outside) :
    0 ≤ calculateRecentSuccessRate outside ∧ calculateRecentSuccessRate outside ≤ 1 := by
  have hdefault : 0 ≤ decimal 0.95 ∧ decimal 0.95 ≤ 1 := by
    refine ⟨decimal_nonneg (by norm_num), ?_⟩
    rw [← decimal_one]
    exact round_mono (by norm_num)
  unfold calculateRecentSuccessRate
  split
  · exact hdefault
  · dsimp only
    split
    · refine ⟨round_nonneg (by positivity), ?_⟩
      -- No more transactions have succeeded than there are.
      have hone : Double.round 1 = 1 := by
        have h := decimal_one
        rwa [decimal, show (1.0 : ℚ) = 1 by norm_num] at h
      rw [← hone]
      refine round_mono (div_le_one_of_le₀ ?_ (Nat.cast_nonneg _))
      exact_mod_cast List.count_le_length
    · exact hdefault

/-- Whatever the network answers, the percentile is a double and the rate is one. -/
theorem conditions_sound (stats block rate : Outside) (now : ℚ) :
    Representable (analyzeNetworkConditions stats block rate now).priorityFeePercentile ∧
    0 ≤ (analyzeNetworkConditions stats block rate now).recentTransactionSuccessRate ∧
    (analyzeNetworkConditions stats block rate now).recentTransactionSuccessRate ≤ 1 := by
  unfold analyzeNetworkConditions
  dsimp only
  split
  · exact ⟨representable_percentile95 stats, rate_bounds rate⟩
  · refine ⟨representable_round (by norm_num), decimal_nonneg (by norm_num), ?_⟩
    rw [← decimal_one]
    exact round_mono (by norm_num)

section

variable {conditions : NetworkConditions} {feePayer : Option String} {timeOfDay : Nat}

theorem cheaper_estimate {a b : ℚ} (h : a ≤ b) :
    Cheaper (estimate feePayer a) (estimate feePayer b) :=
  ⟨rfl, rfl, rfl, floor_mono h, add_mono (floor_mono h)⟩

theorem Cheaper.trans {a b c : FeeEstimate} (h : Cheaper a b) (h' : Cheaper b c) : Cheaper a c :=
  ⟨h.baseFee.trans h'.baseFee, h.computeUnits.trans h'.computeUnits,
    h.feePayer.trans h'.feePayer, h.priorityFee.trans h'.priorityFee,
    h.totalFee.trans h'.totalFee⟩

/-- A fee is a number of lamports. -/
theorem estimate_whole {fee : ℚ} (h : 0 ≤ fee) :
    ∃ n : Nat, (estimate feePayer fee).priorityFee = n := by
  refine ⟨⌊fee⌋.toNat, ?_⟩
  have hnat : ((⌊fee⌋.toNat : Nat) : Int) = ⌊fee⌋ :=
    Int.toNat_of_nonneg (Int.floor_nonneg.mpr h)
  calc ((⌊fee⌋ : Int) : ℚ) = ((⌊fee⌋.toNat : Nat) : Int) := by rw [hnat]
    _ = (⌊fee⌋.toNat : Nat) := Int.cast_natCast _

theorem select_mono {congestion : Congestion} {a b c a' b' c' : ℚ} (ha : a ≤ a') (hb : b ≤ b')
    (hc : c ≤ c') : congestion.select a b c ≤ congestion.select a' b' c' := by
  cases congestion with
  | low => exact hc
  | medium => exact hb
  | high => exact ha

theorem select_nonneg {congestion : Congestion} {a b c : ℚ} (ha : 0 ≤ a) (hb : 0 ≤ b)
    (hc : 0 ≤ c) : 0 ≤ congestion.select a b c := by
  cases congestion with
  | low => exact hc
  | medium => exact hb
  | high => exact ha

theorem decimal_three_halves : decimal 1.5 = 3 / 2 := by
  rw [decimal_eq 3 (-1) (by norm_num) (by norm_num)]
  norm_num

theorem decimal_five_halves : decimal 2.5 = 5 / 2 := by
  rw [decimal_eq 5 (-1) (by norm_num) (by norm_num)]
  norm_num

/-- A decimal is not above a double that it is not above. -/
theorem decimal_le {q : ℚ} (m : Nat) (e : Int) (hm : m < 2 ^ 53) (h : q ≤ m * 2 ^ e) :
    decimal q ≤ m * 2 ^ e := by
  have hround : Double.round ((m : ℚ) * 2 ^ e) = m * 2 ^ e :=
    round_of_representable ⟨m, e, hm, rfl⟩
  rw [decimal, ← hround]
  exact round_mono h

theorem le_decimal {q : ℚ} (m : Nat) (e : Int) (hm : m < 2 ^ 53) (h : m * 2 ^ e ≤ q) :
    m * 2 ^ e ≤ decimal q := by
  have hround : Double.round ((m : ℚ) * 2 ^ e) = m * 2 ^ e :=
    round_of_representable ⟨m, e, hm, rfl⟩
  rw [decimal, ← hround]
  exact round_mono h

/-- By day fees go up by a third at most, and never down. -/
theorem timeMultiplier_bounds (timeOfDay : Nat) :
    1 ≤ timeMultiplier timeOfDay ∧ timeMultiplier timeOfDay ≤ 11 / 8 := by
  unfold timeMultiplier
  split
  · have hlow := le_decimal (q := 1.3) 1 0 (by norm_num) (by norm_num)
    have hhigh := decimal_le (q := 1.3) 11 (-3) (by norm_num) (by norm_num)
    exact ⟨le_trans (by norm_num) hlow, hhigh.trans (by norm_num)⟩
  · split
    · omega
    · norm_num

theorem adaptiveMultiplier_bounds (conditions : NetworkConditions) :
    0 ≤ adaptiveMultiplier conditions ∧ adaptiveMultiplier conditions ≤ 2 := by
  have hhigh := decimal_le (q := 0.7) 1 0 (by norm_num) (by norm_num)
  unfold adaptiveMultiplier
  split
  · norm_num
  · split
    · exact ⟨decimal_nonneg (by norm_num), hhigh.trans (by norm_num)⟩
    · norm_num

theorem select_const_mul {congestion : Congestion} (k a b c : ℚ) :
    k * congestion.select a b c = congestion.select (k * a) (k * b) (k * c) := by
  cases congestion <;> rfl

variable {p s s' k multiplier : ℚ}

/-- A fee that is multiplied twice, against one that is multiplied once by what is
    at least the product of both. -/
theorem mul_mul_le (hp : 0 ≤ p) (hs : 0 ≤ s) (hmultiplier : mul p multiplier ≤ k * p)
    (h : k * s ≤ s') : mul (mul p multiplier) s ≤ mul p s' := by
  refine round_mono ?_
  calc mul p multiplier * s ≤ k * p * s := by gcongr
    _ = p * (k * s) := by ring
    _ ≤ p * s' := by gcongr

/-- Twice a double is a double, so multiplying by two at most does not go above it. -/
theorem mul_le_two (hp : Representable p) (h : multiplier ≤ 2) :
    mul p multiplier ≤ 2 * p := by
  have hdouble : Double.round (2 * p) = 2 * p := by
    rcases hp with ⟨m, e, hm, rfl⟩
    refine round_of_representable ⟨m, e + 1, hm, ?_⟩
    rw [zpow_add_one₀ two_ne_zero]
    ring
  calc mul p multiplier ≤ Double.round (2 * p) := by
        refine round_mono ?_
        rw [mul_comm 2 p]
        exact mul_le_mul_of_nonneg_left h hp.nonneg
    _ = 2 * p := hdouble

/-- Here rounding may go above the product, but not by much. -/
theorem mul_le_three_halves (hp : 0 ≤ p) (hpos : 0 ≤ multiplier) (h : multiplier ≤ 11 / 8) :
    mul p multiplier ≤ 3 / 2 * p := by
  have hround := round_le (mul_nonneg hp hpos)
  have hproduct : p * multiplier ≤ p * (11 / 8) := mul_le_mul_of_nonneg_left h hp
  calc mul p multiplier ≤ p * multiplier + p * multiplier / 2 ^ 53 := hround
    _ ≤ p * (11 / 8) + p * (11 / 8) / 2 ^ 53 := by gcongr
    _ ≤ 3 / 2 * p := by linarith

theorem le_mul_self (hp : Representable p) (h : 1 ≤ multiplier) : p ≤ mul p multiplier := by
  calc p = Double.round p := (round_of_representable hp).symm
    _ ≤ mul p multiplier := round_mono (le_mul_of_one_le_right hp.nonneg h)

variable (hp : Representable conditions.priorityFeePercentile)

include hp

theorem balanced_cheaper_conservative :
    Cheaper (balanced feePayer conditions).recommendedFee
      (conservative feePayer conditions).recommendedFee := by
  refine cheaper_estimate (round_mono (mul_le_mul_of_nonneg_left ?_ hp.nonneg))
  rw [decimal_three_halves]
  exact select_mono (by norm_num) (by norm_num) (by norm_num)

theorem conservative_cheaper_aggressive :
    Cheaper (conservative feePayer conditions).recommendedFee
      (aggressive feePayer conditions).recommendedFee := by
  refine cheaper_estimate (round_mono (mul_le_mul_of_nonneg_left ?_ hp.nonneg))
  rw [decimal_three_halves]
  exact select_mono (by norm_num) (by norm_num) (by norm_num)

theorem balanced_cheaper_predictive :
    Cheaper (balanced feePayer conditions).recommendedFee
      (predictive feePayer timeOfDay conditions).recommendedFee := by
  have hscaled := le_mul_self hp (timeMultiplier_bounds timeOfDay).1
  refine cheaper_estimate (mul_mono ?_ (hp.nonneg.trans hscaled) hscaled ?_)
  · exact select_nonneg (by norm_num) (decimal_nonneg (by norm_num)) (by norm_num)
  · have hlow := le_decimal (q := 1.2) 1 0 (by norm_num) (by norm_num)
    refine select_mono ?_ (round_mono (by norm_num)) (le_trans (by norm_num) hlow)
    rw [decimal_five_halves]
    norm_num

theorem predictive_cheaper_aggressive :
    Cheaper (predictive feePayer timeOfDay conditions).recommendedFee
      (aggressive feePayer conditions).recommendedFee := by
  rcases timeMultiplier_bounds timeOfDay with ⟨hone, hhigh⟩
  refine cheaper_estimate (mul_mul_le hp.nonneg ?_
    (mul_le_three_halves hp.nonneg (zero_le_one.trans hone) hhigh) ?_)
  · exact select_nonneg (decimal_nonneg (by norm_num)) (decimal_nonneg (by norm_num))
      (decimal_nonneg (by norm_num))
  · -- Three halves of the multipliers, which are doubles not far from what is written.
    have hmedium := decimal_le (q := 1.8) 15 (-3) (by norm_num) (by norm_num)
    have hlow := decimal_le (q := 1.2) 5 (-2) (by norm_num) (by norm_num)
    rw [select_const_mul, decimal_five_halves]
    refine select_mono (by norm_num) ?_ ?_
    · calc (3 / 2 : ℚ) * decimal 1.8 ≤ 3 / 2 * ((15 : Nat) * 2 ^ (-3 : Int)) := by gcongr
        _ ≤ 3 := by norm_num
    · calc (3 / 2 : ℚ) * decimal 1.2 ≤ 3 / 2 * ((5 : Nat) * 2 ^ (-2 : Int)) := by gcongr
        _ ≤ 2 := by norm_num

theorem adaptive_cheaper_aggressive :
    Cheaper (adaptive feePayer conditions).recommendedFee
      (aggressive feePayer conditions).recommendedFee := by
  refine cheaper_estimate (mul_mul_le hp.nonneg ?_
    (mul_le_two hp (adaptiveMultiplier_bounds conditions).2) ?_)
  · exact select_nonneg (by norm_num) (decimal_nonneg (by norm_num)) (by norm_num)
  · rw [select_const_mul, decimal_three_halves]
    exact select_mono (by norm_num) (by norm_num) (by norm_num)

omit hp

/-- By day a transaction is said to take less time, but never less than the half. -/
theorem predictive_time (conditions : NetworkConditions) (timeOfDay : Nat) :
    conditions.congestion.select 5 10 20 ≤
      (predictive feePayer timeOfDay conditions).estimatedConfirmationTime := by
  rcases timeMultiplier_bounds timeOfDay with ⟨hone, hhigh⟩
  have hpos : 0 < timeMultiplier timeOfDay := zero_lt_one.trans_le hone
  -- The bound is a whole number, so neither rounding nor the floor goes below it.
  have hwhole : ∃ n : Nat, n < 2 ^ 53 ∧ conditions.congestion.select 5 10 20 = n := by
    cases conditions.congestion with
    | low => exact ⟨20, by norm_num, rfl⟩
    | medium => exact ⟨10, by norm_num, rfl⟩
    | high => exact ⟨5, by norm_num, rfl⟩
  rcases hwhole with ⟨n, hn, heq⟩
  have hquotient : (n : ℚ) ≤
      conditions.congestion.select 20 35 70 / timeMultiplier timeOfDay := by
    rw [le_div_iff₀ hpos]
    calc (n : ℚ) * timeMultiplier timeOfDay ≤ n * 2 := by gcongr; linarith
      _ = 2 * conditions.congestion.select 5 10 20 := by rw [heq, mul_comm]
      _ ≤ conditions.congestion.select 20 35 70 := by
          rw [select_const_mul]
          exact select_mono (by norm_num) (by norm_num) (by norm_num)
  have hround := round_mono hquotient
  rw [round_of_representable (representable_natCast hn)] at hround
  have hfloor : (n : Int) ≤ ⌊div (conditions.congestion.select 20 35 70)
      (timeMultiplier timeOfDay)⌋ := Int.le_floor.mpr (by exact_mod_cast hround)
  calc conditions.congestion.select 5 10 20 = ((n : Int) : ℚ) := heq
    _ ≤ (predictive feePayer timeOfDay conditions).estimatedConfirmationTime :=
        Int.cast_le.mpr hfloor

/-- A rate that something is added to up to a limit is a rate. -/
theorem capped_bounds {rate limit bonus : ℚ} (hrate : 0 ≤ rate) (hlimit : 0 ≤ limit)
    (hone : limit ≤ 1) (hbonus : 0 ≤ bonus) :
    0 ≤ min (decimal limit) (add rate (decimal bonus)) ∧
      min (decimal limit) (add rate (decimal bonus)) ≤ 1 := by
  refine ⟨le_min (decimal_nonneg hlimit)
    (round_nonneg (add_nonneg hrate (decimal_nonneg hbonus))), min_le_of_left_le ?_⟩
  rw [← decimal_one]
  exact round_mono (by norm_num; exact hone)

/-- What the network answers can bring no proposal out of order. Every proposal costs
    no more than the aggressive one and is not said to be faster, is a number of
    lamports, and succeeds at a rate. The balanced one costs no more than the
    conservative and the predictive one. -/
theorem proposals_ordered (stats block rate : Outside) (now : ℚ) (feePayer : Option String)
    (timeOfDay : Nat) :
    (∀ result ∈ proposals feePayer timeOfDay (analyzeNetworkConditions stats block rate now),
      Cheaper result.recommendedFee
        (aggressive feePayer (analyzeNetworkConditions stats block rate now)).recommendedFee ∧
      (aggressive feePayer
        (analyzeNetworkConditions stats block rate now)).estimatedConfirmationTime ≤
          result.estimatedConfirmationTime ∧
      (∃ n : Nat, result.recommendedFee.priorityFee = n) ∧
      0 ≤ result.estimatedSuccessRate ∧ result.estimatedSuccessRate ≤ 1) ∧
    Cheaper
      (balanced feePayer (analyzeNetworkConditions stats block rate now)).recommendedFee
      (conservative feePayer (analyzeNetworkConditions stats block rate now)).recommendedFee ∧
    Cheaper
      (balanced feePayer (analyzeNetworkConditions stats block rate now)).recommendedFee
      (predictive feePayer timeOfDay
        (analyzeNetworkConditions stats block rate now)).recommendedFee := by
  rcases conditions_sound stats block rate now with ⟨hp, hrate, hone⟩
  generalize analyzeNetworkConditions stats block rate now = conditions at hp hrate hone
  have hbalanced : Cheaper (balanced feePayer conditions).recommendedFee
      (conservative feePayer conditions).recommendedFee := balanced_cheaper_conservative hp
  have hconservative : Cheaper (conservative feePayer conditions).recommendedFee
      (aggressive feePayer conditions).recommendedFee := conservative_cheaper_aggressive hp
  refine ⟨?_, hbalanced, balanced_cheaper_predictive hp⟩
  simp only [proposals, List.forall_mem_cons]
  refine ⟨⟨hconservative, ?_, ?_, ?_⟩, ⟨hbalanced.trans hconservative, ?_, ?_, hrate, hone⟩,
    ⟨⟨rfl, rfl, rfl, le_rfl, le_rfl⟩, le_rfl, ?_, ?_⟩,
    ⟨predictive_cheaper_aggressive hp, predictive_time conditions timeOfDay, ?_, ?_⟩,
    ⟨adaptive_cheaper_aggressive hp, ?_, ?_, hrate, hone⟩, List.forall_mem_nil _⟩
  -- conservative
  · exact select_mono (by norm_num) (by norm_num) (by norm_num)
  · refine estimate_whole (mul_nonneg' hp.nonneg (select_nonneg ?_ ?_ ?_))
    all_goals first | exact decimal_nonneg (by norm_num) | norm_num
  · exact capped_bounds hrate (by norm_num) (by norm_num) (by norm_num)
  -- balanced
  · exact select_mono (by norm_num) (by norm_num) (by norm_num)
  · refine estimate_whole (mul_nonneg' hp.nonneg (select_nonneg ?_ ?_ ?_))
    all_goals first | exact decimal_nonneg (by norm_num) | norm_num
  -- aggressive
  · refine estimate_whole (mul_nonneg' hp.nonneg (select_nonneg ?_ ?_ ?_))
    all_goals norm_num
  · exact capped_bounds hrate (by norm_num) (by norm_num) (by norm_num)
  -- predictive
  · have ht := (timeMultiplier_bounds timeOfDay).1
    refine estimate_whole (mul_nonneg' (mul_nonneg' hp.nonneg (zero_le_one.trans ht))
      (select_nonneg ?_ ?_ ?_))
    all_goals exact decimal_nonneg (by norm_num)
  · exact capped_bounds hrate (by norm_num) (by norm_num) (by norm_num)
  -- adaptive
  · exact select_mono (by norm_num) (by norm_num) (by norm_num)
  · refine estimate_whole (mul_nonneg' (mul_nonneg' hp.nonneg
      (adaptiveMultiplier_bounds conditions).1) (select_nonneg ?_ ?_ ?_))
    all_goals first | exact decimal_nonneg (by norm_num) | norm_num

end

end Estimates

end Fees

end SvmCourse
