import Mathlib.Data.List.Sort
import SvmCourse.Core.Rounding
import SvmCourse.Fees.Optimization

/-!
# Fee Estimates

What a transaction will cost is estimated from what the transactions of the last
five blocks have paid for a compute unit. The middle of these fees, times the
compute units that the instructions look like, is the priority fee, and without
any fees a millionth of a lamport a unit is. A recommendation scales it for the
level that is asked for, and gives half of that, that, and twice that.

The service rounds after every operation, as all arithmetic here does, and cuts
off what is behind the point. Neither brings the three estimates out of order,
nor those for two levels, and the level in the middle is what the plain estimate
says.

What the network answers comes with the call. A block that cannot be had is
skipped, and without a slot there are no recent fees. A key is its text.

## Main definitions

* `Outside`: What the network answers.
* `estimateComputeUnits`: What the instructions look like.
* `getRecentPriorityFees`, `medianFee`: What was paid for a compute unit.
* `getFeeEstimate`, `getFeeRecommendations`: The estimates.
* `Cheaper`: The same estimate for no more.

## Theorems

* `recommendations_ordered`: The estimates are in order.
-/

namespace SvmCourse

namespace Fees

namespace Estimates

open Core Core.Double

/-! ### Transactions -/

/-- An instruction, as far as its cost is read. -/
structure TransactionInstruction where
  programId : String
  data : List UInt8

/-- A transaction, as far as its cost is read. -/
structure SolanaTransaction where
  instructions : List TransactionInstruction
  feePayer : Option String := none

/-- The system program. -/
def systemProgramId : String := "11111111111111111111111111111111"

/-- The token program. -/
def tokenProgramId : String := "TokenkegQfeZyiNwAJbNbGKPFXCWuBvf9Ss623VQ5DA"

/-- The first byte of a system instruction says what it does. -/
def TransactionInstruction.computeUnits (instruction : TransactionInstruction) : Nat :=
  if instruction.programId = systemProgramId then
    -- A transfer, or the creation of an account, or nothing that is counted.
    if 4 ≤ instruction.data.length ∧ instruction.data[0]? = some 2 then 5000
    else if 4 ≤ instruction.data.length ∧ instruction.data[0]? = some 0 then 10000
    else 0
  else if instruction.programId = tokenProgramId then 8000
  else 10000

/-- The compute units of a transaction, and a least number of them. -/
def estimateComputeUnits : Option SolanaTransaction → Nat
  | none => 5000
  | some transaction =>
    max (transaction.instructions.map TransactionInstruction.computeUnits).sum 5000

/-! ### The network -/

/-- What a block says of a transaction. -/
structure TransactionMeta where
  err : Option String := none
  fee : Nat
  computeUnitsConsumed : Option Nat := none

/-- The transactions may be missing, and what is known of each. -/
structure Block where
  transactions : Option (List (Option TransactionMeta)) := none
  blockTime : Option ℚ := none

/-- A sample of the throughput. -/
structure PerformanceSample where
  numTransactions : Nat
  samplePeriodSecs : Nat
  samplePeriodSecs_pos : 0 < samplePeriodSecs

/-- What the network answers. The block hash is asked for again when the recent
    fees are. -/
structure Outside where
  getRecentBlockhash : Except String (String × Nat)
  feesBlockhash : Except String Unit
  getSlot : Except String Int
  getConfirmedBlock : Int → Except String (Option Block)
  getRecentPerformanceSamples : Except String (List PerformanceSample)

/-- What was paid for a compute unit, if a fee was paid. -/
def TransactionMeta.feePerComputeUnit (txMeta : TransactionMeta) : Option ℚ :=
  if txMeta.fee = 0 then none
  else some (div txMeta.fee
    (orDefault (txMeta.computeUnitsConsumed.map fun units : Nat => (units : ℚ)) 5000))

/-- A block that cannot be had has no fees. -/
def Outside.blockFees (outside : Outside) (blockSlot : Int) : List ℚ :=
  match outside.getConfirmedBlock blockSlot with
  | .ok (some block) => (block.transactions.getD []).filterMap fun tx =>
      tx.bind TransactionMeta.feePerComputeUnit
  | _ => []

/-- The priority fees of the last five blocks. -/
def getRecentPriorityFees (outside : Outside) : List ℚ :=
  match outside.feesBlockhash, outside.getSlot with
  | .ok _, .ok slot => (List.range 5).flatMap fun (i : Nat) => outside.blockFees (slot - i)
  | _, _ => []

/-- The fees in order. -/
def sortedFees (recentFees : List ℚ) : List ℚ := recentFees.insertionSort (· ≤ ·)

/-- There is such an entry, as `medianFee_mem` says, unless there are no fees. -/
def medianFee (recentFees : List ℚ) : ℚ :=
  ((sortedFees recentFees)[recentFees.length / 2]?).getD 0

/-- The mean of the transactions a second in the samples. -/
def averageUtilization (performanceSamples : List PerformanceSample) : ℚ :=
  div (performanceSamples.foldl
    (fun sum sample => add sum (div sample.numTransactions sample.samplePeriodSecs)) 0)
    performanceSamples.length

/-- The congestion, by the throughput lately. -/
def getNetworkCongestion (outside : Outside) : Congestion :=
  match outside.getRecentPerformanceSamples with
  | .error _ => .medium
  | .ok [] => .low
  | .ok performanceSamples =>
    if 5000 < averageUtilization performanceSamples then .high
    else if 2000 < averageUtilization performanceSamples then .medium
    else .low

/-! ### Estimates -/

/-- The priority fee of so many compute units: the median of the recent ones, or a small
    one when there are none, rounded down. -/
def calculatePriorityFee (outside : Outside) (computeUnits : Nat) : ℚ :=
  if getRecentPriorityFees outside = [] then ⌊mul computeUnits (decimal 0.000001)⌋
  else ⌊mul (medianFee (getRecentPriorityFees outside)) computeUnits⌋

/-- An estimate for a transaction with this priority fee. -/
def createEstimate (baseFee : ℚ) (transaction : Option SolanaTransaction) (priorityFee : ℚ) :
    FeeEstimate where
  baseFee := baseFee
  priorityFee := priorityFee
  totalFee := add baseFee priorityFee
  computeUnits := estimateComputeUnits transaction
  feePayer := (transaction.bind SolanaTransaction.feePayer).getD ""

/-- The estimate for a transaction. -/
def getFeeEstimate (outside : Outside) (transaction : Option SolanaTransaction) :
    Except String FeeEstimate :=
  match outside.getRecentBlockhash with
  | .error message => .error s!"Failed to get fee estimate: {message}"
  | .ok (_, lamportsPerSignature) =>
    .ok (createEstimate lamportsPerSignature transaction
      (calculatePriorityFee outside (estimateComputeUnits transaction)))

/-- The levels of priority. -/
inductive PriorityLevel where
  | min | low | medium | high | veryHigh | unsafeMax
  deriving DecidableEq, Repr

/-- The levels in order, and what each multiplies by. -/
def PriorityLevel.rank : PriorityLevel → Nat
  | .min => 0
  | .low => 1
  | .medium => 2
  | .high => 3
  | .veryHigh => 4
  | .unsafeMax => 5

/-- What a level multiplies a fee by. -/
def PriorityLevel.multiplier : PriorityLevel → ℚ
  | .min => decimal 0.1
  | .low => decimal 0.5
  | .medium => decimal 1.0
  | .high => decimal 2.0
  | .veryHigh => decimal 5.0
  | .unsafeMax => decimal 10.0

/-- Three priority fees, for three kinds of callers. -/
structure PriorityFeeLevels where
  conservative : ℚ
  moderate : ℚ
  aggressive : ℚ

/-- The three fees of a level. -/
def calculatePriorityFeeLevels (outside : Outside) (computeUnits : Nat)
    (priorityLevel : PriorityLevel) : PriorityFeeLevels :=
  let basePriorityFee := calculatePriorityFee outside computeUnits
  { conservative := ⌊mul (mul basePriorityFee priorityLevel.multiplier) (decimal 0.5)⌋
    moderate := ⌊mul basePriorityFee priorityLevel.multiplier⌋
    aggressive := ⌊mul (mul basePriorityFee priorityLevel.multiplier) (decimal 2.0)⌋ }

/-- Three estimates, for three kinds of callers. -/
structure FeeRecommendation where
  conservative : FeeEstimate
  moderate : FeeEstimate
  aggressive : FeeEstimate
  networkCongestion : Congestion
  recentBlockhash : String

/-- The three estimates for a transaction. -/
def getFeeRecommendations (outside : Outside) (transaction : Option SolanaTransaction)
    (priorityLevel : PriorityLevel) : Except String FeeRecommendation :=
  match outside.getRecentBlockhash with
  | .error message => .error s!"Failed to get fee recommendations: {message}"
  | .ok (blockhash, lamportsPerSignature) =>
    let priorityFees :=
      calculatePriorityFeeLevels outside (estimateComputeUnits transaction) priorityLevel
    .ok
      -- One blockhash for all three.
      { conservative := createEstimate lamportsPerSignature transaction priorityFees.conservative
        moderate := createEstimate lamportsPerSignature transaction priorityFees.moderate
        aggressive := createEstimate lamportsPerSignature transaction priorityFees.aggressive
        networkCongestion := getNetworkCongestion outside
        recentBlockhash := blockhash }

/-! ### The order of the estimates -/

theorem add_mono {a b c : ℚ} (h : b ≤ c) : add a b ≤ add a c := round_mono (add_le_add_right h a)

theorem mul_mono {a b c d : ℚ} (hpos : 0 ≤ c) (hpos' : 0 ≤ b) (hab : a ≤ b) (hcd : c ≤ d) :
    mul a c ≤ mul b d :=
  round_mono (mul_le_mul hab hcd hpos hpos')

theorem mul_nonneg' {a b : ℚ} (ha : 0 ≤ a) (hb : 0 ≤ b) : 0 ≤ mul a b :=
  round_nonneg (mul_nonneg ha hb)

theorem decimal_nonneg {q : ℚ} (h : 0 ≤ q) : 0 ≤ decimal q := round_nonneg h

theorem floor_mono {a b : ℚ} (h : a ≤ b) : ((⌊a⌋ : Int) : ℚ) ≤ (⌊b⌋ : Int) :=
  Int.cast_le.mpr (Int.floor_le_floor h)

/-- What is a double is written exactly. -/
theorem decimal_eq {q : ℚ} (m : Nat) (e : Int) (hm : m < 2 ^ 53) (h : q = m * 2 ^ e) :
    decimal q = m * 2 ^ e := by
  rw [decimal, h]
  exact round_of_representable ⟨m, e, hm, rfl⟩

theorem decimal_half : decimal 0.5 = 1 / 2 := by
  rw [decimal_eq 1 (-1) (by norm_num) (by norm_num)]
  norm_num

theorem decimal_one : decimal 1.0 = 1 := by
  rw [decimal_eq 1 0 (by norm_num) (by norm_num)]
  norm_num

theorem decimal_two : decimal 2.0 = 2 := by
  rw [decimal_eq 1 1 (by norm_num) (by norm_num)]
  norm_num

theorem orDefault_nonneg {given : Option ℚ} {fallback : ℚ} (hgiven : ∀ x ∈ given, 0 ≤ x)
    (hfallback : 0 ≤ fallback) : 0 ≤ orDefault given fallback := by
  cases given with
  | none => exact hfallback
  | some x =>
      rw [orDefault, Option.filter]
      split
      · exact hgiven x rfl
      · exact hfallback

variable {outside : Outside} {transaction : Option SolanaTransaction}
  {level level' : PriorityLevel}

/-- What was paid for a compute unit is a double. -/
theorem representable_of_mem {fee : ℚ} (h : fee ∈ getRecentPriorityFees outside) :
    Representable fee := by
  unfold getRecentPriorityFees at h
  split at h
  · rcases List.mem_flatMap.mp h with ⟨i, -, hblock⟩
    unfold Outside.blockFees at hblock
    split at hblock
    · rcases List.mem_filterMap.mp hblock with ⟨tx, -, htx⟩
      rcases Option.bind_eq_some_iff.mp htx with ⟨txMeta, -, hfee⟩
      -- It was divided in floating point, so it was rounded.
      unfold TransactionMeta.feePerComputeUnit at hfee
      split at hfee
      · cases hfee
      · cases hfee
        refine representable_round
          (div_nonneg (Nat.cast_nonneg _) (orDefault_nonneg ?_ (by norm_num)))
        intro x hx
        rcases Option.mem_map.mp hx with ⟨units, -, rfl⟩
        exact Nat.cast_nonneg units
    · cases hblock
  · cases h

/-- The middle entry is there, and is one of the fees. -/
theorem medianFee_mem {recentFees : List ℚ} (h : recentFees ≠ []) :
    medianFee recentFees ∈ recentFees := by
  have hpos : 0 < recentFees.length := List.length_pos_iff.mpr h
  have hlt : recentFees.length / 2 < (sortedFees recentFees).length := by
    rw [sortedFees, List.length_insertionSort]
    omega
  rw [medianFee, List.getElem?_eq_getElem hlt, Option.getD_some,
    ← List.mem_insertionSort (· ≤ ·)]
  exact List.getElem_mem hlt

/-- The priority fee is the whole part of a double. -/
theorem exists_priorityFee (outside : Outside) (computeUnits : Nat) :
    ∃ x, 0 ≤ x ∧ Representable x ∧ calculatePriorityFee outside computeUnits = (⌊x⌋ : Int) := by
  unfold calculatePriorityFee
  split
  · have hnonneg : 0 ≤ (computeUnits : ℚ) * decimal 0.000001 :=
      mul_nonneg (Nat.cast_nonneg _) (decimal_nonneg (by norm_num))
    exact ⟨_, round_nonneg hnonneg, representable_round hnonneg, rfl⟩
  · next hfees =>
      have hnonneg : 0 ≤ medianFee (getRecentPriorityFees outside) * computeUnits :=
        mul_nonneg (representable_of_mem (medianFee_mem hfees)).nonneg (Nat.cast_nonneg _)
      exact ⟨_, round_nonneg hnonneg, representable_round hnonneg, rfl⟩

theorem priorityFee_nonneg (outside : Outside) (computeUnits : Nat) :
    0 ≤ calculatePriorityFee outside computeUnits := by
  rcases exists_priorityFee outside computeUnits with ⟨x, hx, -, heq⟩
  rw [heq]
  exact_mod_cast Int.floor_nonneg.mpr hx

theorem multiplier_nonneg (level : PriorityLevel) : 0 ≤ level.multiplier := by
  cases level <;> exact decimal_nonneg (by norm_num)

/-- A higher level multiplies by more. -/
theorem multiplier_mono (h : level.rank ≤ level'.rank) :
    level.multiplier ≤ level'.multiplier := by
  cases level <;> cases level' <;>
    first
    | exact absurd h (by decide)
    | exact round_mono (by norm_num)

/-- Half of it is not more, and twice of it is not less. -/
theorem levels_ordered (outside : Outside) (computeUnits : Nat) (level : PriorityLevel) :
    (calculatePriorityFeeLevels outside computeUnits level).conservative ≤
        (calculatePriorityFeeLevels outside computeUnits level).moderate ∧
      (calculatePriorityFeeLevels outside computeUnits level).moderate ≤
        (calculatePriorityFeeLevels outside computeUnits level).aggressive := by
  have hnonneg : 0 ≤ calculatePriorityFee outside computeUnits * level.multiplier :=
    mul_nonneg (priorityFee_nonneg _ _) (multiplier_nonneg _)
  have hscaled := round_nonneg hnonneg
  -- Rounding again would change nothing, so the two are compared as rounded numbers.
  have hsame : Double.round (mul (calculatePriorityFee outside computeUnits) level.multiplier) =
      mul (calculatePriorityFee outside computeUnits) level.multiplier :=
    round_of_representable (representable_round hnonneg)
  constructor
  · refine floor_mono ?_
    calc mul (mul (calculatePriorityFee outside computeUnits) level.multiplier) (decimal 0.5)
        ≤ Double.round (mul (calculatePriorityFee outside computeUnits) level.multiplier) := by
          rw [decimal_half]
          refine round_mono ?_
          unfold mul at *
          linarith
      _ = mul (calculatePriorityFee outside computeUnits) level.multiplier := hsame
  · refine floor_mono ?_
    calc mul (calculatePriorityFee outside computeUnits) level.multiplier
        = Double.round (mul (calculatePriorityFee outside computeUnits) level.multiplier) :=
          hsame.symm
      _ ≤ mul (mul (calculatePriorityFee outside computeUnits) level.multiplier)
            (decimal 2.0) := by
          rw [decimal_two]
          refine round_mono ?_
          unfold mul at *
          linarith

theorem levels_mono (outside : Outside) (computeUnits : Nat) (h : level.rank ≤ level'.rank) :
    (calculatePriorityFeeLevels outside computeUnits level).conservative ≤
        (calculatePriorityFeeLevels outside computeUnits level').conservative ∧
      (calculatePriorityFeeLevels outside computeUnits level).moderate ≤
        (calculatePriorityFeeLevels outside computeUnits level').moderate ∧
      (calculatePriorityFeeLevels outside computeUnits level).aggressive ≤
        (calculatePriorityFeeLevels outside computeUnits level').aggressive := by
  have hbase := priorityFee_nonneg outside computeUnits
  have hscaled : mul (calculatePriorityFee outside computeUnits) level.multiplier ≤
      mul (calculatePriorityFee outside computeUnits) level'.multiplier :=
    mul_mono (multiplier_nonneg _) hbase le_rfl (multiplier_mono h)
  have hnonneg : 0 ≤ mul (calculatePriorityFee outside computeUnits) level'.multiplier :=
    mul_nonneg' hbase (multiplier_nonneg _)
  refine ⟨floor_mono ?_, floor_mono hscaled, floor_mono ?_⟩
  · exact mul_mono (decimal_nonneg (by norm_num)) hnonneg hscaled le_rfl
  · exact mul_mono (decimal_nonneg (by norm_num)) hnonneg hscaled le_rfl

/-- In the middle the level changes nothing. -/
theorem levels_medium (outside : Outside) (computeUnits : Nat) :
    (calculatePriorityFeeLevels outside computeUnits .medium).moderate =
      calculatePriorityFee outside computeUnits := by
  rcases exists_priorityFee outside computeUnits with ⟨x, -, hdouble, heq⟩
  have hwhole : mul (calculatePriorityFee outside computeUnits) (decimal 1.0) = (⌊x⌋ : Int) := by
    rw [decimal_one, mul, mul_one, heq]
    exact round_of_representable (representable_floor hdouble)
  rw [calculatePriorityFeeLevels, PriorityLevel.multiplier, hwhole, Int.floor_intCast, heq]

/-- The priority fee is a number of lamports. -/
theorem levels_whole (outside : Outside) (computeUnits : Nat) (level : PriorityLevel) :
    (∃ n : Nat, (calculatePriorityFeeLevels outside computeUnits level).conservative = n) ∧
      (∃ n : Nat, (calculatePriorityFeeLevels outside computeUnits level).moderate = n) ∧
      ∃ n : Nat, (calculatePriorityFeeLevels outside computeUnits level).aggressive = n := by
  have hwhole : ∀ x : ℚ, 0 ≤ x → ∃ n : Nat, ((⌊x⌋ : Int) : ℚ) = n := by
    intro x hx
    refine ⟨⌊x⌋.toNat, ?_⟩
    have hnat : ((⌊x⌋.toNat : Nat) : Int) = ⌊x⌋ := Int.toNat_of_nonneg (Int.floor_nonneg.mpr hx)
    exact_mod_cast hnat.symm
  have hscaled : 0 ≤ mul (calculatePriorityFee outside computeUnits) level.multiplier :=
    mul_nonneg' (priorityFee_nonneg _ _) (multiplier_nonneg _)
  exact ⟨hwhole _ (mul_nonneg' hscaled (decimal_nonneg (by norm_num))), hwhole _ hscaled,
    hwhole _ (mul_nonneg' hscaled (decimal_nonneg (by norm_num)))⟩

/-- The same estimate for no more. -/
structure Cheaper (a b : FeeEstimate) : Prop where
  baseFee : a.baseFee = b.baseFee
  computeUnits : a.computeUnits = b.computeUnits
  feePayer : a.feePayer = b.feePayer
  priorityFee : a.priorityFee ≤ b.priorityFee
  totalFee : a.totalFee ≤ b.totalFee

theorem cheaper_createEstimate (baseFee : ℚ) (transaction : Option SolanaTransaction)
    {priorityFee priorityFee' : ℚ} (h : priorityFee ≤ priorityFee') :
    Cheaper (createEstimate baseFee transaction priorityFee)
      (createEstimate baseFee transaction priorityFee') :=
  ⟨rfl, rfl, rfl, h, add_mono h⟩

/-- For the same answers of the network, the conservative estimate is not above the
    moderate one and that not above the aggressive one, none of them falls when a
    higher level is asked for, they are numbers of lamports, and the moderate one
    for the medium level is the plain estimate. -/
theorem recommendations_ordered {recommendation recommendation' : FeeRecommendation}
    (hlevel : level.rank ≤ level'.rank)
    (h : getFeeRecommendations outside transaction level = .ok recommendation)
    (h' : getFeeRecommendations outside transaction level' = .ok recommendation') :
    (Cheaper recommendation.conservative recommendation.moderate ∧
      Cheaper recommendation.moderate recommendation.aggressive) ∧
    (Cheaper recommendation.conservative recommendation'.conservative ∧
      Cheaper recommendation.moderate recommendation'.moderate ∧
      Cheaper recommendation.aggressive recommendation'.aggressive) ∧
    ((∃ n : Nat, recommendation.conservative.priorityFee = n) ∧
      (∃ n : Nat, recommendation.moderate.priorityFee = n) ∧
      ∃ n : Nat, recommendation.aggressive.priorityFee = n) ∧
    (level = .medium → getFeeEstimate outside transaction = .ok recommendation.moderate) := by
  unfold getFeeRecommendations at h h'
  cases hblockhash : outside.getRecentBlockhash with
  | error message =>
      -- Without a blockhash there is no recommendation.
      rw [hblockhash] at h
      cases h
  | ok answer =>
      rcases answer with ⟨blockhash, lamportsPerSignature⟩
      rw [hblockhash] at h h'
      cases h
      cases h'
      have hordered := levels_ordered outside (estimateComputeUnits transaction) level
      have hmono := levels_mono outside (estimateComputeUnits transaction) hlevel
      refine ⟨⟨?_, ?_⟩, ⟨?_, ?_, ?_⟩, levels_whole _ _ _, ?_⟩
      · exact cheaper_createEstimate _ _ hordered.1
      · exact cheaper_createEstimate _ _ hordered.2
      · exact cheaper_createEstimate _ _ hmono.1
      · exact cheaper_createEstimate _ _ hmono.2.1
      · exact cheaper_createEstimate _ _ hmono.2.2
      · rintro rfl
        simp only [getFeeEstimate, hblockhash, levels_medium]

/-- One block with two fees, and nothing else. -/
def sampleOutside : Outside where
  getRecentBlockhash := .ok ("blockhash", 5000)
  feesBlockhash := .ok ()
  getSlot := .ok 7
  getConfirmedBlock slot :=
    if slot = 7 then .ok (some { transactions := some [some { fee := 10000 }, none,
      some { fee := 5000, computeUnitsConsumed := some 2500 }] })
    else .error "Block not available"
  getRecentPerformanceSamples := .ok []

theorem sampleOutside_ordered :
    ∃ recommendation recommendation',
      getFeeRecommendations sampleOutside none .low = .ok recommendation ∧
      getFeeRecommendations sampleOutside none .high = .ok recommendation' ∧
      Cheaper recommendation.moderate recommendation'.moderate :=
  ⟨_, _, rfl, rfl, (@recommendations_ordered sampleOutside none .low .high _ _ (by decide) rfl
    rfl).2.1.2.1⟩

end Estimates

end Fees

end SvmCourse
