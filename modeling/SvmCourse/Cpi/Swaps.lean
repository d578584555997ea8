import SvmCourse.Core.ConstantProduct
import SvmCourse.Cpi.Dex

/-!
# Swaps Are Safe

A pool with reserves of both tokens and a fee between nothing and everything
keeps all that through any swaps, made or failed. What is paid out is less than
the reserve, and the product of the reserves only grows. So nobody gains by
going round: who has of one token what he had before has less of the other.

That the fee stays in the reserve, and is not part of what the next swap is
priced at, is also why a trade is worth more than its parts.

## Main definitions

* `DexPool.Live`: Reserves and a fee rate to trade with.
* `SafeSwap`: What a swap leaves of a pool.
* `netBalance`, `NoProfit`: What swaps bring of a token.

## Theorems

* `amountOut_eq`: The service prices as a constant product exchange does.
* `live_afterSwap`, `product_lt_afterSwap`: A pool after a swap.
* `swaps_safe`: Swaps are safe, and bring no profit.
* `splitting_loses`: Splitting a trade never pays.
-/

namespace SvmCourse

namespace Cpi

namespace Dex

open Core Core.Machine

/-! ### Pools to trade with -/

/-- The two tokens of a pool. -/
inductive PoolToken where
  | A | B
  deriving DecidableEq, Repr

/-- The other token. -/
def PoolToken.other : PoolToken → PoolToken
  | .A => .B
  | .B => .A

namespace DexPool

/-- The balance of a token. -/
def balance (pool : DexPool) : PoolToken → ℚ
  | .A => pool.tokenABalance
  | .B => pool.tokenBBalance

/-- What the two balances are worth together. -/
def product (pool : DexPool) : ℚ := pool.tokenABalance * pool.tokenBBalance

/-- Both reserves are positive, and the fee is part of the input. -/
structure Live (pool : DexPool) : Prop where
  tokenA : 0 < pool.tokenABalance
  tokenB : 0 < pool.tokenBBalance
  rate_pos : 0 < pool.rate
  rate_lt : pool.rate < 1

instance (pool : DexPool) : Decidable pool.Live :=
  decidable_of_iff (0 < pool.tokenABalance ∧ 0 < pool.tokenBBalance ∧ 0 < pool.rate ∧
    pool.rate < 1) ⟨fun ⟨a, b, c, d⟩ => ⟨a, b, c, d⟩, fun ⟨a, b, c, d⟩ => ⟨a, b, c, d⟩⟩

namespace Live

variable {pool : DexPool}

theorem reserveIn_pos (h : pool.Live) (direction : SwapDirection) :
    0 < pool.reserveIn direction := by
  cases direction
  · exact h.tokenA
  · exact h.tokenB

theorem reserveOut_pos (h : pool.Live) (direction : SwapDirection) :
    0 < pool.reserveOut direction := by
  cases direction
  · exact h.tokenB
  · exact h.tokenA

theorem kept_pos (h : pool.Live) : 0 < 1 - pool.rate := sub_pos.mpr h.rate_lt

theorem kept_lt (h : pool.Live) : 1 - pool.rate < 1 := sub_lt_self 1 h.rate_pos

end Live

/-! ### One swap -/

@[simp] theorem afterSwap_poolAddress (pool : DexPool) (direction : SwapDirection) (a b : ℚ) :
    (pool.afterSwap direction a b).poolAddress = pool.poolAddress := by
  cases direction <;> rfl

@[simp] theorem afterSwap_rate (pool : DexPool) (direction : SwapDirection) (a b : ℚ) :
    (pool.afterSwap direction a b).rate = pool.rate := by
  cases direction <;> rfl

@[simp] theorem afterSwap_reserveIn (pool : DexPool) (direction : SwapDirection) (a b : ℚ) :
    (pool.afterSwap direction a b).reserveIn direction = pool.reserveIn direction + a := by
  cases direction <;> rfl

@[simp] theorem afterSwap_reserveOut (pool : DexPool) (direction : SwapDirection) (a b : ℚ) :
    (pool.afterSwap direction a b).reserveOut direction = pool.reserveOut direction - b := by
  cases direction <;> rfl

theorem product_eq (pool : DexPool) (direction : SwapDirection) :
    pool.product = pool.reserveIn direction * pool.reserveOut direction := by
  cases direction
  · rfl
  · exact mul_comm ..

theorem live_of_reserves {pool : DexPool} {direction : SwapDirection}
    (hin : 0 < pool.reserveIn direction) (hout : 0 < pool.reserveOut direction)
    (hpos : 0 < pool.rate) (hlt : pool.rate < 1) : pool.Live := by
  cases direction
  · exact ⟨hin, hout, hpos, hlt⟩
  · exact ⟨hout, hin, hpos, hlt⟩

end DexPool

section

variable {pool : DexPool} {amountIn : ℚ}

/-- What is paid out is what a constant product exchange pays for the input
    without the fee. -/
theorem amountOut_eq (pool : DexPool) (amountIn : ℚ) (direction : SwapDirection)
    (slippage : ℚ) :
    (calculateSwapAmount pool amountIn direction slippage).amountOut =
      ConstantProduct.output (1 - pool.rate) (pool.reserveIn direction)
        (pool.reserveOut direction) amountIn := by
  have hkept : amountIn - amountIn * pool.rate = (1 - pool.rate) * amountIn := by ring
  simp only [calculateSwapAmount, ConstantProduct.output, hkept]

theorem amountOut_pos (h : pool.Live) (ha : 0 < amountIn) (direction : SwapDirection)
    (slippage : ℚ) : 0 < (calculateSwapAmount pool amountIn direction slippage).amountOut := by
  rw [amountOut_eq]
  exact ConstantProduct.output_pos (h.reserveIn_pos _).le (h.reserveOut_pos _) h.kept_pos ha

theorem amountOut_lt (h : pool.Live) (ha : 0 < amountIn) (direction : SwapDirection)
    (slippage : ℚ) :
    (calculateSwapAmount pool amountIn direction slippage).amountOut <
      pool.reserveOut direction := by
  rw [amountOut_eq]
  exact ConstantProduct.output_lt (h.reserveIn_pos _) (h.reserveOut_pos _) h.kept_pos ha

variable {amountOut slippage : ℚ} {direction : SwapDirection}

theorem live_afterSwap (h : pool.Live) (ha : 0 < amountIn)
    (hout : amountOut = (calculateSwapAmount pool amountIn direction slippage).amountOut) :
    (pool.afterSwap direction amountIn amountOut).Live := by
  apply DexPool.live_of_reserves
  · rw [DexPool.afterSwap_reserveIn]
    exact add_pos (h.reserveIn_pos _) ha
  · rw [DexPool.afterSwap_reserveOut, hout]
    exact sub_pos.mpr (amountOut_lt h ha ..)
  · rw [DexPool.afterSwap_rate]
    exact h.rate_pos
  · rw [DexPool.afterSwap_rate]
    exact h.rate_lt

theorem product_lt_afterSwap (h : pool.Live) (ha : 0 < amountIn)
    (hout : amountOut = (calculateSwapAmount pool amountIn direction slippage).amountOut) :
    pool.product < (pool.afterSwap direction amountIn amountOut).product := by
  rw [DexPool.product_eq pool direction, DexPool.product_eq _ direction,
    DexPool.afterSwap_reserveIn, DexPool.afterSwap_reserveOut, hout, amountOut_eq]
  exact ConstantProduct.product_lt (h.reserveIn_pos _) (h.reserveOut_pos _) h.kept_pos
    h.kept_lt ha

end

/-! ### Runs of swaps -/

/-- What a swap leaves of the pool at the address. -/
structure SafeSwap (address : String) (request : SwapRequest) (s : World)
    (result : Except String DexSwap) (t : World) : Prop where
  reserves : ∃ pool', t.pools.findOne address = some pool' ∧
    0 < pool'.tokenABalance ∧ 0 < pool'.tokenBBalance
  priced : ∀ pool, s.pools.findOne address = some pool → request.poolAddress = address →
    let swapParams := calculateSwapAmount pool request.amountIn request.direction
      request.slippageTolerance
    0 < swapParams.amountOut ∧ swapParams.amountOut < pool.reserveOut request.direction
  failed : ∀ message, result = .error message → t.pools = s.pools
  made : ∀ swap pool pool', result = .ok swap → request.poolAddress = address →
    s.pools.findOne address = some pool → t.pools.findOne address = some pool' →
    0 < swap.amountOut ∧ swap.amountOut < pool.reserveOut request.direction ∧
      pool.product < pool'.product

/-- What a swap brings of a token, less what it costs of it. -/
def DexSwap.net (swap : DexSwap) (token : PoolToken) : ℚ :=
  match token, swap.direction with
  | .A, .A_TO_B | .B, .B_TO_A => -swap.amountIn
  | .A, .B_TO_A | .B, .A_TO_B => swap.amountOut

/-- What a call brings of a token of the pool at the address. -/
def netOf (address : String) (token : PoolToken) (trade : SwapRequest × Except String DexSwap) :
    ℚ :=
  match trade.2 with
  | .ok swap => if swap.poolAddress = address then swap.net token else 0
  | .error _ => 0

/-- What a trader has won of a token in all trades. -/
def netBalance (address : String) (token : PoolToken)
    (trades : List (SwapRequest × Except String DexSwap)) : ℚ :=
  (trades.map (netOf address token)).sum

/-- Who has of one token what he had before has no more of the other. -/
def NoProfit (address : String) (trades : List (SwapRequest × Except String DexSwap)) : Prop :=
  ∀ token, netBalance address token trades = 0 → netBalance address token.other trades ≤ 0

/-- What the trader gets of a token comes out of the reserve. -/
theorem balance_afterSwap (pool : DexPool) (swap : DexSwap) (token : PoolToken) :
    (pool.afterSwap swap.direction swap.amountIn swap.amountOut).balance token =
      pool.balance token - swap.net token := by
  unfold DexPool.afterSwap DexSwap.net
  cases token <;> cases swap.direction <;> simp only [DexPool.balance, sub_neg_eq_add]

/-- The pool of the address after a call that trades with it only what is
    positive: the reserves give what the trader gets, and their product does not
    get less. -/
theorem performSwap_pool {address : String} {world : World} {pool : DexPool}
    {request : SwapRequest} (hpool : world.pools.findOne address = some pool) (hlive : pool.Live)
    (hrequest : request.poolAddress = address → 0 < request.amountIn) :
    ∃ pool', (performSwap world request).2.pools.findOne address = some pool' ∧ pool'.Live ∧
      pool.product ≤ pool'.product ∧
      (∀ token, pool'.balance token =
        pool.balance token - netOf address token (request, (performSwap world request).1)) ∧
      (∀ swap, (performSwap world request).1 = .ok swap → request.poolAddress = address →
        0 < swap.amountOut ∧ swap.amountOut < pool.reserveOut request.direction ∧
          pool.product < pool'.product) := by
  rcases performSwap_cases world request with
    ⟨message, swaps, hfailed⟩ | ⟨pool₁, swap, swaps, hpool₁, haddress, hdir, hin, hout, hmade⟩
  · -- A failed swap saves no pool.
    rw [hfailed]
    refine ⟨pool, hpool, hlive, le_rfl, fun token => ?_, fun swap h => nomatch h⟩
    simp only [netOf, sub_zero]
  · rw [hmade]
    have hkey := Table.key_of_findOne hpool₁
    rw [Table.findOne_save, DexPool.afterSwap_poolAddress]
    by_cases hhere : request.poolAddress = address
    · -- The swap is with the pool of the address.
      have hsame : pool₁ = pool := by
        rw [hhere, hpool] at hpool₁
        exact (Option.some.inj hpool₁).symm
      subst hsame
      have hpos := hin ▸ hrequest hhere
      -- The quote is for what the swap records.
      rw [← hdir, ← hin] at hout
      rw [if_pos (hhere.symm.trans hkey.symm), ← hdir]
      refine ⟨_, rfl, live_afterSwap hlive hpos hout, (product_lt_afterSwap hlive hpos hout).le,
        fun token => ?_, fun swap' h _ => ?_⟩
      · simp only [balance_afterSwap, netOf, if_pos (haddress.trans (hkey.trans hhere))]
      · cases h
        refine ⟨?_, ?_, product_lt_afterSwap hlive hpos hout⟩
        · rw [hout]
          exact amountOut_pos hlive hpos ..
        · rw [hout]
          exact amountOut_lt hlive hpos ..
    · -- A swap with another pool saves that one only.
      have hne : ¬address = pool₁.poolAddress := fun h => hhere (hkey.symm.trans h.symm)
      rw [if_neg hne]
      refine ⟨pool, hpool, hlive, le_rfl, fun token => ?_, fun _ _ h => absurd h hhere⟩
      have hother : ¬swap.poolAddress = address := fun h => hne (h.symm.trans haddress)
      simp only [netOf, if_neg hother, sub_zero]

theorem netBalance_cons (address : String) (token : PoolToken)
    (trade : SwapRequest × Except String DexSwap) (trades : List _) :
    netBalance address token (trade :: trades) =
      netOf address token trade + netBalance address token trades := by
  rw [netBalance, List.map_cons, List.sum_cons, netBalance]

section

variable {address : String} {world : World} {pool : DexPool} {calls : List SwapRequest}

/-- Along a run the pool keeps what it needs, and its product. -/
theorem answers_pool (hpool : world.pools.findOne address = some pool) (hlive : pool.Live)
    (hcalls : ∀ request ∈ calls, request.poolAddress = address → 0 < request.amountIn) :
    Along performSwap (SafeSwap address) calls world ∧
      ∃ pool' : DexPool, pool'.Live ∧ pool.product ≤ pool'.product ∧
        ∀ token, pool'.balance token =
          pool.balance token - netBalance address token (answers performSwap calls world) := by
  -- One call at a time, from the pool that the call before has left.
  induction calls generalizing world pool with
  | nil =>
      refine ⟨trivial, pool, hlive, le_rfl, fun token => ?_⟩
      simp only [answers, netBalance, List.map_nil, List.sum_nil, sub_zero]
  | cons request calls ih =>
      have hrequest := hcalls request (List.mem_cons_self ..)
      rcases performSwap_pool hpool hlive hrequest with
        ⟨pool₁, hpool₁, hlive₁, hproduct, hbalance, hmade⟩
      rcases ih hpool₁ hlive₁ (fun r hr => hcalls r (List.mem_cons_of_mem _ hr)) with
        ⟨hsafe, pool', hlive', hproduct', hbalance'⟩
      refine ⟨⟨⟨⟨pool₁, hpool₁, hlive₁.tokenA, hlive₁.tokenB⟩, ?_, ?_, ?_⟩, hsafe⟩,
        pool', hlive', hproduct.trans hproduct', fun token => ?_⟩
      · -- What the quote says, also where the swap then fails.
        intro p hp hhere
        rw [hpool] at hp
        cases hp
        exact ⟨amountOut_pos hlive (hrequest hhere) .., amountOut_lt hlive (hrequest hhere) ..⟩
      · -- A call with an error has saved no pool.
        intro message herror
        rcases performSwap_cases world request with ⟨_, _, hfailed⟩ | ⟨_, _, _, _, _, _, _, _, h⟩
        · rw [hfailed]
        · rw [h] at herror
          exact nomatch herror
      · -- What `performSwap_pool` says of a swap that is made.
        intro swap p p' hok hhere hp hp'
        rw [hpool] at hp
        rw [hpool₁] at hp'
        cases hp
        cases hp'
        exact hmade swap hok hhere
      · rw [answers, netBalance_cons, hbalance', hbalance]
        ring

/-- Whoever takes back what he gave of one token leaves a product that is not
    less, so he has given of the other. -/
theorem noProfit_of_balances {trades : List (SwapRequest × Except String DexSwap)}
    {pool' : DexPool} (hlive : pool.Live) (hproduct : pool.product ≤ pool'.product)
    (hbalance : ∀ token, pool'.balance token =
      pool.balance token - netBalance address token trades) : NoProfit address trades := by
  intro token hzero
  have hA := hbalance .A
  have hB := hbalance .B
  simp only [DexPool.balance] at hA hB
  rw [DexPool.product, DexPool.product, hA, hB] at hproduct
  -- One reserve is what it was, so the product compares the other.
  cases token with
  | A =>
      rw [hzero, sub_zero] at hproduct
      exact (le_sub_self_iff _).mp (le_of_mul_le_mul_left hproduct hlive.tokenA)
  | B =>
      rw [hzero, sub_zero] at hproduct
      exact (le_sub_self_iff _).mp (le_of_mul_le_mul_right hproduct hlive.tokenB)

/-- Swaps with a pool are safe, whatever is made, failed, or done with other
    pools, and all of them together bring no profit. -/
theorem swaps_safe (hpool : world.pools.findOne address = some pool) (hlive : pool.Live)
    (hcalls : ∀ request ∈ calls, request.poolAddress = address → 0 < request.amountIn) :
    Along performSwap (SafeSwap address) calls world ∧
      NoProfit address (answers performSwap calls world) := by
  rcases answers_pool hpool hlive hcalls with ⟨hsafe, pool', hlive', hproduct, hbalance⟩
  exact ⟨hsafe, noProfit_of_balances hlive hproduct hbalance⟩

end

/-- A pool with the default fee. -/
def samplePool : DexPool :=
  { poolAddress := "pool", tokenABalance := 1000, tokenBBalance := 2000 }

/-- The tables of the witness. -/
def sampleWorld : World := { pools := Table.empty.save samplePool }

theorem samplePool_live : samplePool.Live := by decide +kernel

/-- There, one that fails, and back. -/
def sampleSwaps : List SwapRequest :=
  [{ poolAddress := "pool", amountIn := 100, direction := .A_TO_B, userKeypair := .ok "user",
     pendingSignature := "pending", invocation := .ok "signature" },
   { poolAddress := "pool", amountIn := 50, direction := .A_TO_B, userKeypair := .ok "user",
     pendingSignature := "pending", invocation := .error "timeout" },
   { poolAddress := "pool", amountIn := 181, direction := .B_TO_A, userKeypair := .ok "user",
     pendingSignature := "pending", invocation := .ok "signature" }]

theorem sampleSwaps_safe : Along performSwap (SafeSwap "pool") sampleSwaps sampleWorld ∧
    NoProfit "pool" (answers performSwap sampleSwaps sampleWorld) :=
  swaps_safe (by decide +kernel : sampleWorld.pools.findOne "pool" = some samplePool)
    samplePool_live (by decide +kernel)

/-! ### Splitting -/

/-- A call that sells to the pool in one direction, and is made. -/
structure SwapRequest.Sells (address : String) (direction : SwapDirection)
    (request : SwapRequest) : Prop where
  poolAddress : request.poolAddress = address
  direction : request.direction = direction
  amountIn_pos : 0 < request.amountIn
  userKeypair : ∃ userAddress, request.userKeypair = .ok userAddress
  invocation : ∃ signature, request.invocation = .ok signature

/-- What a swap pays. -/
def paid : Except String DexSwap → ℚ
  | .ok swap => swap.amountOut
  | .error _ => 0

/-- What all trades together paid out. -/
def totalPaid (trades : List (SwapRequest × Except String DexSwap)) : ℚ :=
  (trades.map fun trade => paid trade.2).sum

section

variable {address : String} {direction : SwapDirection} {world : World} {pool : DexPool}

/-- What a call that sells does. -/
theorem performSwap_sells {request : SwapRequest}
    (hpool : world.pools.findOne address = some pool) (h : request.Sells address direction) :
    paid (performSwap world request).1 = ConstantProduct.output (1 - pool.rate)
        (pool.reserveIn direction) (pool.reserveOut direction) request.amountIn ∧
      (performSwap world request).2.pools.findOne address =
        some (pool.afterSwap direction request.amountIn (paid (performSwap world request).1)) := by
  rcases h.userKeypair with ⟨userAddress, hkeypair⟩
  rcases h.invocation with ⟨signature, hinvocation⟩
  -- With a pool, a key and a signature nothing is left to fail.
  have hok : ∃ swap, (performSwap world request).1 = .ok swap := by
    rw [performSwap, h.poolAddress, hpool, hkeypair]
    simp only [hinvocation]
    exact ⟨_, rfl⟩
  rcases performSwap_cases world request with
    ⟨message, swaps, hfailed⟩ | ⟨pool₁, swap, swaps, hpool₁, haddress, hdir, hin, hout, hmade⟩
  · rw [hfailed] at hok
    rcases hok with ⟨swap, hswap⟩
    exact nomatch hswap
  · rw [h.poolAddress, hpool] at hpool₁
    cases hpool₁
    rw [h.direction, amountOut_eq] at hout
    rw [hmade, h.direction, hin]
    refine ⟨hout, ?_⟩
    rw [Table.findOne_save, DexPool.afterSwap_poolAddress,
      if_pos (Table.key_of_findOne hpool).symm]
    rfl

/-- The parts are paid as a constant product exchange pays them. -/
theorem totalPaid_eq {parts : List SwapRequest} (hpool : world.pools.findOne address = some pool)
    (hparts : ∀ request ∈ parts, request.Sells address direction) :
    totalPaid (answers performSwap parts world) = ConstantProduct.outputs (1 - pool.rate)
      (pool.reserveIn direction) (pool.reserveOut direction)
      (parts.map SwapRequest.amountIn) := by
  -- Each part is priced at the reserves that the part before has left.
  induction parts generalizing world pool with
  | nil => rfl
  | cons request parts ih =>
      rcases performSwap_sells hpool (hparts request (List.mem_cons_self ..)) with ⟨hpaid, hpool'⟩
      have hrest := ih hpool' (fun r hr => hparts r (List.mem_cons_of_mem _ hr))
      rw [DexPool.afterSwap_rate, DexPool.afterSwap_reserveIn, DexPool.afterSwap_reserveOut,
        hpaid] at hrest
      rw [List.map_cons, ConstantProduct.outputs, ← hrest, ← hpaid]
      rfl

/-- A trade in two or more parts pays less than the trade. -/
theorem splitting_loses {parts : List SwapRequest} {whole : SwapRequest}
    (hpool : world.pools.findOne address = some pool) (hlive : pool.Live)
    (hparts : ∀ request ∈ parts, request.Sells address direction) (htwo : 2 ≤ parts.length)
    (hwhole : whole.Sells address direction)
    (hsum : whole.amountIn = (parts.map SwapRequest.amountIn).sum) :
    totalPaid (answers performSwap parts world) < paid (performSwap world whole).1 := by
  rw [totalPaid_eq hpool hparts, (performSwap_sells hpool hwhole).1, hsum]
  apply ConstantProduct.outputs_lt (hlive.reserveIn_pos _) (hlive.reserveOut_pos _)
    hlive.kept_pos hlive.kept_lt
  · intro amount hamount
    rcases List.mem_map.mp hamount with ⟨request, hrequest, rfl⟩
    exact (hparts request hrequest).amountIn_pos
  · rwa [List.length_map]

end

/-- A sale of an amount to the sample pool. -/
def sampleSale (amountIn : ℚ) : SwapRequest :=
  { poolAddress := "pool", amountIn, direction := .A_TO_B, userKeypair := .ok "user",
    pendingSignature := "pending", invocation := .ok "signature" }

theorem sampleSale_sells {amountIn : ℚ} (h : 0 < amountIn) :
    (sampleSale amountIn).Sells "pool" .A_TO_B := ⟨rfl, rfl, h, ⟨_, rfl⟩, ⟨_, rfl⟩⟩

theorem sampleSplit_loses :
    totalPaid (answers performSwap [sampleSale 30, sampleSale 20, sampleSale 50] sampleWorld) <
      paid (performSwap sampleWorld (sampleSale 100)).1 :=
  splitting_loses (by decide +kernel : sampleWorld.pools.findOne "pool" = some samplePool)
    samplePool_live
    (List.forall_mem_cons.mpr ⟨sampleSale_sells (by norm_num), List.forall_mem_cons.mpr
      ⟨sampleSale_sells (by norm_num), List.forall_mem_singleton.mpr
        (sampleSale_sells (by norm_num))⟩⟩)
    (by decide) (sampleSale_sells (by norm_num)) (by decide +kernel)

end Dex

end Cpi

end SvmCourse
