import SvmCourse.Core.Double
import SvmCourse.Core.Ranking

/-!
# Fee Optimization

Five strategies propose a fee for a transaction, each with a rate of success, a
time and a confidence. Every proposal is scored for what its sender prefers, and
the first of those that score best is returned. The most that the sender is
willing to pay is a part of the score: what a fee saves of it counts twenty of a
hundred points, and a fee that goes beyond it saves nothing.

Numbers are finite doubles, so every operation is followed by rounding. What the
network and the clock say comes with the call.

## Main definitions

* `NetworkConditions`, `UserFeePreferences`: What a call is given.
* `OptimizedFeeResult`: What a strategy proposes.
* `proposals`: What the five strategies propose.
* `scoreResult`, `selectOptimalStrategy`, `optimizeFee`: The choice.
* `Respects`: The choice keeps to the maximum.
* `Affordable`: What goes beyond the maximum is beaten.

## Theorems

* `selectOptimalStrategy_foremost`: What is chosen is the first of the best.
* `optimizeFee_within_iff`: When the choice keeps to the maximum.
-/

namespace SvmCourse

namespace Fees

open Core

/-! ### Arithmetic -/

/-- A sum, as the language computes it. -/
def add (a b : ℚ) : ℚ := Double.round (a + b)

/-- A difference, as the language computes it. -/
def sub (a b : ℚ) : ℚ := Double.round (a - b)

/-- A product, as the language computes it. -/
def mul (a b : ℚ) : ℚ := Double.round (a * b)

/-- A quotient, as the language computes it. -/
def div (a b : ℚ) : ℚ := Double.round (a / b)

/-- A number that is written with digits after the point. -/
def decimal (q : ℚ) : ℚ := Double.round q

/-- A number that is missing or zero is replaced. -/
def orDefault (given : Option ℚ) (fallback : ℚ) : ℚ := (given.filter (· ≠ 0)).getD fallback

/-! ### What a call is given -/

/-- How busy the network is. -/
inductive Congestion where
  | low | medium | high
  deriving DecidableEq, Repr

/-- What is measured of the network. -/
structure NetworkConditions where
  congestion : Congestion
  recentBlockTime : ℚ
  priorityFeePercentile : ℚ
  networkLoad : ℚ
  recentTransactionSuccessRate : ℚ
  deriving DecidableEq

/-- How fast a transaction should be. -/
inductive Speed where
  | slow | normal | fast | urgent
  deriving DecidableEq, Repr

/-- What a caller prefers. -/
structure UserFeePreferences where
  maxFeeLamports : Option ℚ := none
  targetSuccessRate : Option ℚ := none
  speed : Speed := .normal

/-- The same preferences with a maximum fee. -/
def UserFeePreferences.upTo (preferences : UserFeePreferences) (maxFee : ℚ) :
    UserFeePreferences :=
  { preferences with maxFeeLamports := some maxFee }

/-- A fee, with its parts. -/
structure FeeEstimate where
  baseFee : ℚ
  priorityFee : ℚ
  totalFee : ℚ
  computeUnits : ℚ
  feePayer : String
  deriving DecidableEq

/-- What a strategy proposes. -/
structure OptimizedFeeResult where
  recommendedFee : FeeEstimate
  strategy : String
  confidence : ℚ
  estimatedSuccessRate : ℚ
  estimatedConfirmationTime : ℚ
  alternativeOptions : List FeeEstimate := []
  reasoning : List String
  deriving DecidableEq

/-! ### Strategies -/

/-- One of three values for the congestion. -/
def Congestion.select (congestion : Congestion) (high medium low : ℚ) : ℚ :=
  match congestion with
  | .high => high
  | .medium => medium
  | .low => low

/-- The base fee of a signature and the whole part of a priority fee. -/
def estimate (feePayer : Option String) (fee : ℚ) : FeeEstimate where
  baseFee := 5000
  priorityFee := ⌊fee⌋
  totalFee := add 5000 ⌊fee⌋
  computeUnits := 5000
  feePayer := feePayer.getD ""

variable (feePayer : Option String) (timeOfDay : Nat) (networkConditions : NetworkConditions)

/-- The strategy that pays more to be sure. -/
def conservative : OptimizedFeeResult where
  recommendedFee := estimate feePayer
    (mul networkConditions.priorityFeePercentile
      (networkConditions.congestion.select 3 2 (decimal 1.5)))
  strategy := "conservative"
  confidence := decimal 0.9
  estimatedSuccessRate :=
    min (decimal 0.98) (add networkConditions.recentTransactionSuccessRate (decimal 0.1))
  estimatedConfirmationTime := networkConditions.congestion.select 15 30 60
  reasoning := [
    "Uses higher fee multipliers for network congestion",
    "Prioritizes transaction success over cost savings",
    "Suitable for important transactions requiring high reliability"]

/-- The strategy in the middle. -/
def balanced : OptimizedFeeResult where
  recommendedFee := estimate feePayer
    (mul networkConditions.priorityFeePercentile
      (networkConditions.congestion.select 2 (decimal 1.5) 1))
  strategy := "balanced"
  confidence := decimal 0.8
  estimatedSuccessRate := networkConditions.recentTransactionSuccessRate
  estimatedConfirmationTime := networkConditions.congestion.select 30 45 90
  reasoning := [
    "Uses moderate fee multipliers based on network conditions",
    "Balances cost and confirmation time",
    "Good default choice for most transactions"]

/-- The strategy that pays most. -/
def aggressive : OptimizedFeeResult where
  recommendedFee := estimate feePayer
    (mul networkConditions.priorityFeePercentile (networkConditions.congestion.select 5 3 2))
  strategy := "aggressive"
  confidence := decimal 0.95
  estimatedSuccessRate :=
    min (decimal 0.99) (add networkConditions.recentTransactionSuccessRate (decimal 0.05))
  estimatedConfirmationTime := networkConditions.congestion.select 5 10 20
  reasoning := [
    "Uses highest fee multipliers for maximum priority",
    "Prioritizes speed over cost efficiency",
    "Best for time-sensitive transactions"]

/-- No hour is both late and early, so nothing is off-peak. -/
def timeMultiplier : ℚ :=
  if 9 ≤ timeOfDay ∧ timeOfDay ≤ 17 then decimal 1.3
  else if 20 ≤ timeOfDay ∧ timeOfDay ≤ 6 then decimal 0.8
  else 1

/-- The strategy that looks at the hour. -/
def predictive : OptimizedFeeResult where
  recommendedFee := estimate feePayer
    (mul (mul networkConditions.priorityFeePercentile (timeMultiplier timeOfDay))
      (networkConditions.congestion.select (decimal 2.5) (decimal 1.8) (decimal 1.2)))
  strategy := "predictive"
  confidence := decimal 0.85
  estimatedSuccessRate :=
    min (decimal 0.97) (add networkConditions.recentTransactionSuccessRate (decimal 0.02))
  estimatedConfirmationTime :=
    -- The only time that is computed, and it is rounded down.
    ⌊div (networkConditions.congestion.select 20 35 70) (timeMultiplier timeOfDay)⌋
  reasoning := [
    "Analyzes time-of-day patterns for fee optimization",
    "Uses historical network data for predictions",
    "Adapts to both congestion and temporal patterns"]

/-- Fees go up when few transactions succeed and down when nearly all do. -/
def adaptiveMultiplier : ℚ :=
  if networkConditions.recentTransactionSuccessRate < decimal 0.8 then 2
  else if decimal 0.95 < networkConditions.recentTransactionSuccessRate then decimal 0.7
  else 1

/-- The strategy that looks at what was measured. -/
def adaptive : OptimizedFeeResult where
  recommendedFee := estimate feePayer
    (mul (mul networkConditions.priorityFeePercentile (adaptiveMultiplier networkConditions))
      (networkConditions.congestion.select 2 (decimal 1.5) 1))
  strategy := "adaptive"
  confidence := decimal 0.75
  estimatedSuccessRate := networkConditions.recentTransactionSuccessRate
  estimatedConfirmationTime := networkConditions.congestion.select 25 40 80
  reasoning := [
    "Adapts fees based on recent transaction success rates",
    "Increases fees when success rates are low",
    "Decreases fees when network conditions are favorable"]

/-- What the five strategies propose. -/
def proposals : List OptimizedFeeResult :=
  [conservative feePayer networkConditions, balanced feePayer networkConditions,
    aggressive feePayer networkConditions, predictive feePayer timeOfDay networkConditions,
    adaptive feePayer networkConditions]

/-! ### The choice -/

/-- What a speed adds to the score of a fee. -/
def speedMultiplier : Speed → ℚ
  | .slow => decimal 0.5
  | .normal => 1
  | .fast => decimal 1.5
  | .urgent => 2

/-- The score of a proposal under the preferences. -/
def scoreResult (preferences : UserFeePreferences) (result : OptimizedFeeResult) : ℚ :=
  let targetSuccessRate := orDefault preferences.targetSuccessRate (decimal 0.95)
  let successRateDiff := |sub result.estimatedSuccessRate targetSuccessRate|
  let score := add 0 (mul (sub 1 successRateDiff) 40)
  let confirmationTimeScore := div (max 0 (sub 60 result.estimatedConfirmationTime)) 60
  let score :=
    add score (mul (mul confirmationTimeScore (speedMultiplier preferences.speed)) 30)
  let maxFee := orDefault preferences.maxFeeLamports 100000
  -- What goes beyond the maximum is not told from what just meets it.
  let costEfficiency := max 0 (sub 1 (div result.recommendedFee.totalFee maxFee))
  let score := add score (mul costEfficiency 20)
  add score (mul result.confidence 10)

/-- A proposal and its score. -/
structure ScoredResult where
  result : OptimizedFeeResult
  score : ℚ

/-- How two scored results are compared: what scores more comes first. -/
def compareScores (a b : ScoredResult) : ℚ := sub b.score a.score

/-- The proposal with the best score. -/
def selectOptimalStrategy (preferences : UserFeePreferences) (results : List OptimizedFeeResult) :
    Except String OptimizedFeeResult :=
  let scoredResults := results.map fun result =>
    ScoredResult.mk result (scoreResult preferences result)
  match (scoredResults.insertionSort fun a b => compareScores a b ≤ 0).head? with
  | some scored => .ok scored.result
  | none => .error "Cannot read properties of undefined (reading 'result')"

/-- What the caller is advised. -/
def generateRecommendations (preferences : UserFeePreferences) (optimalFee : OptimizedFeeResult) :
    List String :=
  -- Each recommendation has a condition of its own, and any number of them can hold.
  (match networkConditions.congestion with
    | .high =>
      ["Network is congested. Consider using higher priority fees for faster confirmation."]
    | .low => ["Network activity is low. You may be able to use lower fees."]
    | .medium => []) ++
  (if optimalFee.estimatedSuccessRate < decimal 0.9 then
    ["Estimated success rate is below 90%. Consider increasing fees or waiting for network " ++
      "conditions to improve."]
  else []) ++
  (if 50000 < optimalFee.recommendedFee.totalFee then
    ["Recommended fee is relatively high. Monitor transaction status and consider alternatives " ++
      "if cost is a concern."]
  else []) ++
  (if preferences.speed = .urgent ∧ 30 < optimalFee.estimatedConfirmationTime then
    ["For urgent transactions, consider using the \"aggressive\" alternative option."]
  else [])

/-- What the service answers. -/
structure FeeOptimizationResult where
  optimalFee : OptimizedFeeResult
  alternatives : List OptimizedFeeResult
  networkAnalysis : NetworkConditions
  recommendations : List String

/-- The recommendations of the fee service are asked for and not used. -/
def optimizeFee (baseRecommendations : Except String Unit) (preferences : UserFeePreferences) :
    Except String FeeOptimizationResult :=
  let chosen := do
    baseRecommendations
    selectOptimalStrategy preferences (proposals feePayer timeOfDay networkConditions)
  match chosen with
  | .error message => .error s!"Fee optimization failed: {message}"
  | .ok optimalFee => .ok {
      optimalFee
      -- The results of two strategies differ in the name of the strategy.
      alternatives := ((proposals feePayer timeOfDay networkConditions).filter
        (· ≠ optimalFee)).take 2
      networkAnalysis := networkConditions
      recommendations := generateRecommendations networkConditions preferences optimalFee }

/-! ### The maximum -/

variable {preferences : UserFeePreferences} {maxFee : ℚ}

/-- The fee is within a limit. -/
def Within (maxFee : ℚ) (result : OptimizedFeeResult) : Prop :=
  result.recommendedFee.totalFee ≤ maxFee

instance (maxFee : ℚ) (result : OptimizedFeeResult) : Decidable (Within maxFee result) :=
  inferInstanceAs (Decidable (_ ≤ _))

/-- If something keeps to the maximum then the choice does, and nothing else that
    does scores more. -/
def Respects (maxFee : ℚ) (preferences : UserFeePreferences) (results : List OptimizedFeeResult)
    (optimalFee : OptimizedFeeResult) : Prop :=
  (∃ result ∈ results, Within maxFee result) →
    Within maxFee optimalFee ∧
      ∀ result ∈ results, Within maxFee result →
        ¬scoreResult preferences optimalFee < scoreResult preferences result

/-- Whatever goes beyond the maximum is beaten by something that keeps to it: by
    an earlier strategy that scores as much, or a later one that scores more. -/
def Affordable (maxFee : ℚ) (preferences : UserFeePreferences)
    (results : List OptimizedFeeResult) : Prop :=
  ∀ before beyond after, results = before ++ beyond :: after → ¬Within maxFee beyond →
    (∃ result ∈ before, Within maxFee result ∧
      scoreResult preferences beyond ≤ scoreResult preferences result) ∨
    ∃ result ∈ after, Within maxFee result ∧
      scoreResult preferences beyond < scoreResult preferences result

/-- What is chosen of some results is the first of those that score best. -/
theorem selectOptimalStrategy_foremost (preferences : UserFeePreferences)
    {results : List OptimizedFeeResult} (h : results ≠ []) :
    ∃ optimalFee, selectOptimalStrategy preferences results = .ok optimalFee ∧
      Foremost (scoreResult preferences) results optimalFee := by
  -- The sign of the rounded difference compares the scores.
  have hcompare : ∀ a b : ScoredResult, compareScores a b ≤ 0 ↔ b.score ≤ a.score :=
    fun a b => Double.round_sub_nonpos_iff
  cases hhead : ((results.map fun result => ScoredResult.mk result
      (scoreResult preferences result)).insertionSort fun a b => compareScores a b ≤ 0).head? with
  | none =>
      rw [List.head?_eq_none_iff] at hhead
      have hperm := List.perm_insertionSort (fun a b => compareScores a b ≤ 0)
        (results.map fun result => ScoredResult.mk result (scoreResult preferences result))
      rw [hhead] at hperm
      exact absurd (List.map_eq_nil_iff.mp hperm.symm.eq_nil) h
  | some scored =>
      have hchosen : selectOptimalStrategy preferences results = .ok scored.result := by
        simp only [selectOptimalStrategy, hhead]
      rcases foremost_of_head hcompare hhead with ⟨before, after, hsplit, hbefore, hafter⟩
      rcases List.map_eq_append_iff.mp hsplit with ⟨front, rest, hresults, rfl, hrest⟩
      rcases List.map_eq_cons_iff.mp hrest with ⟨best, back, rfl, rfl, rfl⟩
      refine ⟨best, hchosen, front, back, hresults, fun result hresult => ?_,
        fun result hresult => ?_⟩
      · exact hbefore _ (List.mem_map_of_mem hresult)
      · exact hafter _ (List.mem_map_of_mem hresult)

/-- The optimal fee is one of those proposed, and no strategy that keeps to the
    maximum scores more. It keeps to the maximum itself exactly when whatever goes
    beyond it is beaten by something that keeps to it. -/
theorem optimizeFee_within_iff (feePayer : Option String) (timeOfDay : Nat)
    (networkConditions : NetworkConditions) (preferences : UserFeePreferences) (maxFee : ℚ) :
    ∃ result, optimizeFee feePayer timeOfDay networkConditions (.ok ())
        (preferences.upTo maxFee) = .ok result ∧
      result.optimalFee ∈ proposals feePayer timeOfDay networkConditions ∧
      (∀ other ∈ proposals feePayer timeOfDay networkConditions, Within maxFee other →
        ¬scoreResult (preferences.upTo maxFee) result.optimalFee <
          scoreResult (preferences.upTo maxFee) other) ∧
      (Within maxFee result.optimalFee ↔
        Affordable maxFee (preferences.upTo maxFee)
          (proposals feePayer timeOfDay networkConditions)) := by
  have hsome : proposals feePayer timeOfDay networkConditions ≠ [] := List.cons_ne_nil _ _
  rcases selectOptimalStrategy_foremost (preferences.upTo maxFee) hsome with
    ⟨optimalFee, hchosen, hforemost⟩
  have hresult : ∃ result, optimizeFee feePayer timeOfDay networkConditions (.ok ())
      (preferences.upTo maxFee) = .ok result ∧ result.optimalFee = optimalFee := by
    simp only [optimizeFee, bind, Except.bind, hchosen]
    exact ⟨_, rfl, rfl⟩
  rcases hresult with ⟨result, hreturned, rfl⟩
  refine ⟨result, hreturned, hforemost.mem, fun other hother _ => ?_,
    foremost_passes_iff hforemost (Within maxFee)⟩
  exact not_lt.mpr (hforemost.le other hother)

/-- A congested network. -/
def sampleConditions : NetworkConditions where
  congestion := .high
  recentBlockTime := 0
  priorityFeePercentile := 10000
  networkLoad := 1
  recentTransactionSuccessRate := decimal 0.95

/-- The aggressive fee of 55000 is returned for a maximum of 26000, which the
    balanced fee of 25000 keeps to. -/
theorem maximum_exceeded : ¬∃ result, optimizeFee none 12 sampleConditions (.ok ())
    (UserFeePreferences.upTo {} 26000) = .ok result ∧
      Respects 26000 (UserFeePreferences.upTo {} 26000) (proposals none 12 sampleConditions)
        result.optimalFee := by
  rintro ⟨result, hreturned, hrespects⟩
  -- There was a proposal within the maximum, and the one chosen is not.
  have hwithin : ∃ result ∈ proposals none 12 sampleConditions, Within 26000 result := by
    decide +kernel
  have hchosen : (optimizeFee none 12 sampleConditions (.ok ())
      (UserFeePreferences.upTo {} 26000)).map (·.optimalFee.recommendedFee.totalFee) =
        .ok 55000 := by
    decide +kernel
  rw [hreturned] at hchosen
  have hfee : result.optimalFee.recommendedFee.totalFee = 55000 := Except.ok.inj hchosen
  have hkept := (hrespects hwithin).1
  rw [Within, hfee] at hkept
  exact absurd hkept (by decide +kernel)

end Fees

end SvmCourse
