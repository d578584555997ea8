import SvmCourse.Cpi.Swaps

/-!
# Pools That Can Be Stored

A pool is stored with any balances and any fee rate. A fee rate is documented in
basis points and used as a fraction of the input, and a rate of zero is taken
for none. So a swap is priced safely only in a pool that has both tokens, and
whose rate is missing or is a fraction between nothing and everything.

The fields of a pool that no swap looks at are left out.

## Main definitions

* `createOrUpdatePool`: How pools are stored.
* `PoolRequest.Accepted`: Balances that are not negative, and a rate in basis
  points.
* `SafePricing`: No division by zero, and results within their bounds.

## Theorems

* `stored_accepted`: What every stored pool has.
* `safePricing_iff`: When swaps in a stored pool are priced safely.
-/

namespace SvmCourse

namespace Cpi

namespace Dex

open Core Core.Machine

/-- A fee rate that is not given leaves that of the pool, and one of null removes
    it. -/
structure PoolRequest where
  poolAddress : String
  tokenABalance : ℚ
  tokenBBalance : ℚ
  feeRate : Option (Option ℚ) := none

/-- The pool that is saved. -/
def PoolRequest.pool (request : PoolRequest) (found : Option DexPool) : DexPool :=
  match found with
  | some pool =>
    { pool with
      tokenABalance := request.tokenABalance
      tokenBBalance := request.tokenBBalance
      -- Without a fee rate the one that is stored stays.
      feeRate := request.feeRate.getD pool.feeRate }
  | none =>
    { poolAddress := request.poolAddress
      tokenABalance := request.tokenABalance
      tokenBBalance := request.tokenBBalance
      -- A new pool without one leaves it to the default of its column.
      feeRate := request.feeRate.getD none }

/-- Save the pool that the request describes. -/
def createOrUpdatePool (world : World) (request : PoolRequest) : DexPool × World :=
  let pool := request.pool (world.pools.findOne request.poolAddress)
  (pool, { world with pools := world.pools.save pool })

/-- A rate in basis points, if there is one. -/
def BasisPoints (feeRate : Option ℚ) : Prop := ∀ rate, feeRate = some rate → 0 ≤ rate ∧ rate ≤ 10000

/-- The request passes the checks of its class: no balance is negative, and the fee is
    in basis points. -/
structure PoolRequest.Accepted (request : PoolRequest) : Prop where
  tokenA : 0 ≤ request.tokenABalance
  tokenB : 0 ≤ request.tokenBBalance
  feeRate : BasisPoints (request.feeRate.getD none)

/-- What every stored pool has. -/
structure DexPool.Accepted (pool : DexPool) : Prop where
  tokenA : 0 ≤ pool.tokenABalance
  tokenB : 0 ≤ pool.tokenBBalance
  feeRate : BasisPoints pool.feeRate

theorem accepted_pool {request : PoolRequest} {found : Option DexPool} (h : request.Accepted)
    (hfound : ∀ pool, found = some pool → pool.Accepted) : (request.pool found).Accepted := by
  cases found with
  | none => exact ⟨h.tokenA, h.tokenB, h.feeRate⟩
  | some pool =>
      refine ⟨h.tokenA, h.tokenB, ?_⟩
      have hrate := h.feeRate
      -- The rate of the request counts, if it has one.
      cases hgiven : request.feeRate with
      | none =>
          rw [PoolRequest.pool, hgiven]
          exact (hfound pool rfl).feeRate
      | some rate =>
          rw [hgiven] at hrate
          rw [PoolRequest.pool, hgiven]
          exact hrate

theorem createOrUpdatePool_accepted {request : PoolRequest} {world : World}
    (h : request.Accepted) (hworld : ∀ pool ∈ world.pools.rows, pool.Accepted) :
    ∀ pool ∈ (createOrUpdatePool world request).2.pools.rows, pool.Accepted := by
  intro pool hpool
  rcases Table.mem_save.mp hpool with rfl | ⟨hold, -⟩
  · exact accepted_pool h fun found hfound => hworld found (Table.mem_of_findOne hfound)
  · exact hworld pool hold

/-- Whatever pools are created and updated with, the stored ones have balances
    that are not negative, and a rate in basis points if they have one. -/
theorem stored_accepted {requests : List PoolRequest} {world : World}
    (hrequests : ∀ request ∈ requests, request.Accepted)
    (hworld : ∀ pool ∈ world.pools.rows, pool.Accepted) :
    ∀ pool ∈ (after createOrUpdatePool requests world).pools.rows, pool.Accepted := by
  induction requests generalizing world with
  | nil => exact hworld
  | cons request requests ih =>
      rw [after_cons]
      refine ih (fun r hr => hrequests r (List.mem_cons_of_mem _ hr)) ?_
      exact createOrUpdatePool_accepted (hrequests request (List.mem_cons_self ..)) hworld

/-! ### Pricing -/

/-- What is divided by when a swap is priced. -/
def divisors (pool : DexPool) (amountIn : ℚ) (direction : SwapDirection) : List ℚ :=
  let amountInAfterFee := amountIn - amountIn * pool.rate
  let spotPrice := pool.reserveOut direction / pool.reserveIn direction
  [pool.reserveIn direction + amountInAfterFee, pool.reserveIn direction,
    amountInAfterFee, spotPrice]

/-- The pricing of a swap divides by nothing that is zero, pays out no more than
    the reserve, and charges no more than the input. And a rate of zero is not
    charged like no rate. -/
structure SafePricing (pool : DexPool) (amountIn : ℚ) (direction : SwapDirection)
    (slippageTolerance : ℚ) : Prop where
  divisors : ∀ divisor ∈ divisors pool amountIn direction, divisor ≠ 0
  amountOut_nonneg : 0 ≤ (calculateSwapAmount pool amountIn direction slippageTolerance).amountOut
  amountOut_le : (calculateSwapAmount pool amountIn direction slippageTolerance).amountOut ≤
    pool.reserveOut direction
  feeAmount_nonneg : 0 ≤ (calculateSwapAmount pool amountIn direction slippageTolerance).feeAmount
  feeAmount_le :
    (calculateSwapAmount pool amountIn direction slippageTolerance).feeAmount ≤ amountIn
  zero : pool.feeRate = some 0 →
    (calculateSwapAmount pool amountIn direction slippageTolerance).feeAmount ≠
      (calculateSwapAmount { pool with feeRate := none } amountIn direction
        slippageTolerance).feeAmount

section

variable {pool : DexPool} {amountIn : ℚ} {direction : SwapDirection} {slippageTolerance : ℚ}

/-- Both tokens are there, and the rate is missing, or a fraction between nothing
    and everything. -/
def Priceable (pool : DexPool) : Prop :=
  0 < pool.tokenABalance ∧ 0 < pool.tokenBBalance ∧
    (pool.feeRate = none ∨ ∃ rate, pool.feeRate = some rate ∧ 0 < rate ∧ rate < 1)

theorem rate_none (h : pool.feeRate = none) : pool.rate = 0.003 := by
  rw [DexPool.rate, h]
  rfl

theorem rate_zero (h : pool.feeRate = some 0) : pool.rate = 0.003 := by
  rw [DexPool.rate, h]
  rfl

theorem rate_some {rate : ℚ} (h : pool.feeRate = some rate) (hne : rate ≠ 0) :
    pool.rate = rate := by
  simp [DexPool.rate, h, hne, Option.filter]

theorem live_of_priceable (h : Priceable pool) : pool.Live := by
  rcases h with ⟨hA, hB, hnone | ⟨rate, hrate, hpos, hlt⟩⟩
  · refine ⟨hA, hB, ?_, ?_⟩ <;> rw [rate_none hnone] <;> norm_num
  · have heq := rate_some hrate hpos.ne'
    exact ⟨hA, hB, heq.symm ▸ hpos, heq.symm ▸ hlt⟩

theorem safePricing_of_priceable (h : Priceable pool) (hpos : 0 < amountIn) :
    SafePricing pool amountIn direction slippageTolerance := by
  have hlive := live_of_priceable h
  have hin := hlive.reserveIn_pos direction
  have hout := hlive.reserveOut_pos direction
  have hfee : 0 < amountIn * pool.rate := mul_pos hpos hlive.rate_pos
  have hless : amountIn * pool.rate < amountIn := mul_lt_of_lt_one_right hpos hlive.rate_lt
  have hkept : 0 < amountIn - amountIn * pool.rate := sub_pos.mpr hless
  refine ⟨?_, (amountOut_pos hlive hpos ..).le, (amountOut_lt hlive hpos ..).le, hfee.le, hless.le,
    fun hzero => ?_⟩
  · simp only [divisors, List.forall_mem_cons]
    exact ⟨(add_pos hin hkept).ne', hin.ne', hkept.ne', (div_pos hout hin).ne',
      fun _ hmem => absurd hmem List.not_mem_nil⟩
  · -- A rate of zero is no fraction above nothing.
    rcases h with ⟨-, -, hnone | ⟨rate, hrate, hrate_pos, -⟩⟩
    · exact absurd (hzero.symm.trans hnone) (by simp)
    · rw [hzero, Option.some.injEq] at hrate
      exact absurd hrate hrate_pos.ne

theorem priceable_of_safePricing (haccepted : pool.Accepted) (hpos : 0 < amountIn)
    (h : SafePricing pool amountIn direction slippageTolerance) : Priceable pool := by
  have hdivisors := h.divisors
  simp only [divisors, List.forall_mem_cons] at hdivisors
  rcases hdivisors with ⟨-, hin, hkept, hspot, -⟩
  -- The spot price is divided by, and it is zero in a pool without output.
  have hout : pool.reserveOut direction ≠ 0 := fun hzero => hspot (by rw [hzero, zero_div])
  have hreserves : 0 < pool.tokenABalance ∧ 0 < pool.tokenBBalance := by
    cases direction
    · exact ⟨haccepted.tokenA.lt_of_ne' hin, haccepted.tokenB.lt_of_ne' hout⟩
    · exact ⟨haccepted.tokenA.lt_of_ne' hout, haccepted.tokenB.lt_of_ne' hin⟩
  refine ⟨hreserves.1, hreserves.2, ?_⟩
  cases hrate : pool.feeRate with
  | none => exact Or.inl rfl
  | some rate =>
      -- A rate of zero is charged like none, so it is none of the safe ones.
      have hne : rate ≠ 0 := by
        rintro rfl
        refine h.zero hrate ?_
        change amountIn * pool.rate = amountIn * DexPool.rate { pool with feeRate := none }
        rw [rate_zero hrate, rate_none rfl]
      have heq := rate_some hrate hne
      have hfee : amountIn * rate ≤ amountIn := heq ▸ h.feeAmount_le
      have hle : rate ≤ 1 := le_of_mul_le_mul_left (by rwa [mul_one]) hpos
      refine Or.inr ⟨rate, rfl, (haccepted.feeRate rate hrate).1.lt_of_ne' hne, hle.lt_of_ne ?_⟩
      -- A rate of one leaves nothing of the input to divide by.
      rintro rfl
      rw [heq, mul_one, sub_self] at hkept
      exact hkept rfl

end

/-- Swaps in a stored pool are priced safely exactly when it has both tokens and
    its rate is missing or a fraction between nothing and everything. -/
theorem safePricing_iff {requests : List PoolRequest}
    (hrequests : ∀ request ∈ requests, request.Accepted) {pool : DexPool}
    (hpool : pool ∈ (after createOrUpdatePool requests {}).pools.rows) {amountIn : ℚ}
    (hpos : 0 < amountIn) (direction : SwapDirection) (slippageTolerance : ℚ) :
    SafePricing pool amountIn direction slippageTolerance ↔ Priceable pool := by
  have haccepted := stored_accepted hrequests (fun _ h => absurd h List.not_mem_nil) pool hpool
  exact ⟨priceable_of_safePricing haccepted hpos, fun h => safePricing_of_priceable h hpos⟩

/-- A pool with a fee rate of thirty basis points. -/
def sampleRequest : PoolRequest where
  poolAddress := "pool"
  tokenABalance := 1000
  tokenBBalance := 1000
  feeRate := some (some 30)

theorem sampleRequest_accepted : sampleRequest.Accepted := by
  refine ⟨by norm_num [sampleRequest], by norm_num [sampleRequest], ?_⟩
  rintro rate hrate
  cases hrate
  norm_num

theorem safePricing_sample :
    SafePricing (sampleRequest.pool none) 10 .A_TO_B 0.5 ↔ Priceable (sampleRequest.pool none) :=
  @safePricing_iff [sampleRequest] (fun _ h => List.mem_singleton.mp h ▸ sampleRequest_accepted) _
    (List.mem_singleton_self _) _ (by norm_num) .A_TO_B 0.5

/-- Of an input of ten, thirty times as much is charged, and the amount to pay
    out is negative. -/
theorem basisPoints_unsafe :
    sampleRequest.pool none ∈ (after createOrUpdatePool [sampleRequest] {}).pools.rows ∧
      sampleRequest.Accepted ∧
      ¬SafePricing (sampleRequest.pool none) 10 .A_TO_B 0.5 := by
  refine ⟨List.mem_singleton_self _, sampleRequest_accepted, fun h => ?_⟩
  have hfee := h.feeAmount_le
  norm_num [calculateSwapAmount, DexPool.rate, sampleRequest, PoolRequest.pool, Option.filter]
    at hfee

end Dex

end Cpi

end SvmCourse
