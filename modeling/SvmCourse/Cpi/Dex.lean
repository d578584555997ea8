import Mathlib.Algebra.Order.Ring.Rat
import SvmCourse.Core.Machine
import SvmCourse.Core.Table

/-!
# Exchange Pools

Pools of two tokens, the swaps made with them and the liquidity positions in
them. A swap is priced on the reserves of the pool as it is read. It is
recorded, sent, and, once the network has accepted it, the reserves are
moved. Liquidity is not sent anywhere: a position is recorded with the share it
has of the pool as it was before, and the reserves are moved.

What the outside decides comes with the call: what reading the private key
gives, and what the network answers. Pools are referred to by their address,
swaps and positions by their place in the table. Numbers are exact, and where
the source divides by zero there is no number.

## Main definitions

* `DexPool`, `DexSwap`, `DexLiquidityPosition`: The rows.
* `calculateSwapAmount`: The price of a swap.
* `performSwap`, `addLiquidity`, `removeLiquidity`: The service.
* `DexCall`, `step`: The service as a machine.

## Theorems

* `performSwap_cases`, `addLiquidity_cases`, `removeLiquidity_cases`: What the
  calls do.
-/

namespace SvmCourse

namespace Cpi

namespace Dex

open Core

/-! ### Rows -/

/-- A row of the pools. The fee rate is a fraction of the amount, and the column may
    be null. -/
structure DexPool where
  poolAddress : String
  tokenABalance : ℚ
  tokenBBalance : ℚ
  feeRate : Option ℚ := none
  deriving DecidableEq

/-- Which token is sold for which. -/
inductive SwapDirection where
  | A_TO_B | B_TO_A
  deriving DecidableEq, Repr

/-- The statuses of a swap. -/
inductive SwapStatus where
  | pending | confirmed | failed
  deriving DecidableEq, Repr

/-- A row of the swaps. -/
structure DexSwap where
  transactionSignature : String
  poolAddress : String
  userAddress : String
  direction : SwapDirection
  amountIn : ℚ
  amountOut : ℚ
  feeAmount : ℚ
  priceImpact : Option ℚ
  slippage : ℚ
  minimumAmountOut : ℚ
  status : SwapStatus
  deriving DecidableEq

/-- The kinds of liquidity positions. -/
inductive PositionType where
  | STANDARD | CONCENTRATED
  deriving DecidableEq, Repr

/-- A row of the liquidity positions. -/
structure DexLiquidityPosition where
  poolAddress : String
  ownerAddress : String
  positionType : PositionType
  tokenAAmount : ℚ
  tokenBAmount : ℚ
  liquidityShares : ℚ
  isActive : Bool
  deriving DecidableEq

/-- The three tables of the service. -/
structure World where
  pools : Table DexPool.poolAddress := .empty
  swaps : List DexSwap := []
  positions : List DexLiquidityPosition := []

/-! ### Swaps -/

namespace DexPool

/-- A pool without a fee rate, or with one of zero, takes the default. -/
def rate (pool : DexPool) : ℚ := (pool.feeRate.filter (· ≠ 0)).getD 0.003

/-- The reserve of the token that is sold. -/
def reserveIn (pool : DexPool) : SwapDirection → ℚ
  | .A_TO_B => pool.tokenABalance
  | .B_TO_A => pool.tokenBBalance

/-- The reserve of the token that is bought. -/
def reserveOut (pool : DexPool) : SwapDirection → ℚ
  | .A_TO_B => pool.tokenBBalance
  | .B_TO_A => pool.tokenABalance

end DexPool

/-- What a swap comes to: the amount out, the fee, and what the caller is shown
    besides. -/
structure SwapParams where
  amountOut : ℚ
  feeAmount : ℚ
  priceImpact : Option ℚ
  minimumAmountOut : ℚ
  deriving DecidableEq

/-- A quotient, if it is a number. -/
def quotient (a b : ℚ) : Option ℚ := if b = 0 then none else some (a / b)

/-- The change from the spot price to the actual price, in percent. -/
def priceImpact (reserveIn reserveOut amountOut amountInAfterFee : ℚ) : Option ℚ := do
  let spotPrice ← quotient reserveOut reserveIn
  let actualPrice ← quotient amountOut amountInAfterFee
  let change ← quotient (actualPrice - spotPrice) spotPrice
  pure (change * 100)

/-- (x + dx) * (y - dy) = x * y, where the fee is not part of dx. -/
def calculateSwapAmount (pool : DexPool) (amountIn : ℚ) (direction : SwapDirection)
    (slippageTolerance : ℚ := 0.5) : SwapParams :=
  let feeAmount := amountIn * pool.rate
  let amountInAfterFee := amountIn - feeAmount
  let reserveIn := pool.reserveIn direction
  let reserveOut := pool.reserveOut direction
  -- dy = (y * dx) / (x + dx)
  let amountOut := reserveOut * amountInAfterFee / (reserveIn + amountInAfterFee)
  { amountOut
    feeAmount
    priceImpact := priceImpact reserveIn reserveOut amountOut amountInAfterFee
    minimumAmountOut := amountOut * (1 - slippageTolerance / 100) }

/-- The reserves after a swap. The fee stays in the pool. -/
def DexPool.afterSwap (pool : DexPool) (direction : SwapDirection) (amountIn amountOut : ℚ) :
    DexPool :=
  match direction with
  | .A_TO_B =>
    -- The pool keeps the whole of what comes in, the fee included.
    { pool with
      tokenABalance := pool.tokenABalance + amountIn
      tokenBBalance := pool.tokenBBalance - amountOut }
  | .B_TO_A =>
    { pool with
      tokenBBalance := pool.tokenBBalance + amountIn
      tokenABalance := pool.tokenABalance - amountOut }

/-- Besides the arguments, the address of the private key, the signature the
    swap has until it is sent, and the answer of the network. -/
structure SwapRequest where
  poolAddress : String
  amountIn : ℚ
  direction : SwapDirection
  slippageTolerance : ℚ := 0.5
  userKeypair : Except String String
  pendingSignature : String
  invocation : Except String String

/-- The swap as it is recorded before it is sent. -/
def SwapRequest.swap (request : SwapRequest) (pool : DexPool) (userAddress : String) : DexSwap :=
  let swapParams := calculateSwapAmount pool request.amountIn request.direction
    request.slippageTolerance
  -- The row is saved before anything is sent.
  { transactionSignature := request.pendingSignature
    poolAddress := pool.poolAddress
    userAddress
    direction := request.direction
    amountIn := request.amountIn
    amountOut := swapParams.amountOut
    feeAmount := swapParams.feeAmount
    priceImpact := swapParams.priceImpact
    slippage := request.slippageTolerance
    minimumAmountOut := swapParams.minimumAmountOut
    status := .pending }

/-- Swap: price and record it, send the transaction, and move the reserves. -/
def performSwap (world : World) (request : SwapRequest) : Except String DexSwap × World :=
  match world.pools.findOne request.poolAddress, request.userKeypair with
  | none, _ => (.error "Pool not found", world)
  | some _, .error message => (.error message, world)
  | some pool, .ok userAddress =>
    -- The swap is priced and recorded before anything is sent.
    let swap := request.swap pool userAddress
    match request.invocation with
    -- A failed swap keeps its record, and the reserves are not touched.
    | .error message =>
      (.error message, { world with swaps := world.swaps ++ [{ swap with status := .failed }] })
    | .ok signature =>
      -- The reserves are moved by the price computed before the sending.
      let confirmed := { swap with transactionSignature := signature, status := .confirmed }
      (.ok confirmed, { world with
        pools := world.pools.save (pool.afterSwap request.direction swap.amountIn swap.amountOut)
        swaps := world.swaps ++ [confirmed] })

/-- A swap that fails leaves the pools, and one that is made moves the reserves
    of its pool by what it was priced at. -/
theorem performSwap_cases (world : World) (request : SwapRequest) :
    (∃ message swaps,
      performSwap world request = (.error message, { world with swaps := swaps })) ∨
    ∃ pool swap swaps, world.pools.findOne request.poolAddress = some pool ∧
      swap.poolAddress = pool.poolAddress ∧ swap.direction = request.direction ∧
      swap.amountIn = request.amountIn ∧
      swap.amountOut = (calculateSwapAmount pool request.amountIn request.direction
        request.slippageTolerance).amountOut ∧
      performSwap world request = (.ok swap, { world with
        pools := world.pools.save (pool.afterSwap request.direction swap.amountIn swap.amountOut)
        swaps := swaps }) := by
  unfold performSwap
  split
  · exact .inl ⟨_, world.swaps, rfl⟩
  · exact .inl ⟨_, world.swaps, rfl⟩
  · next pool userAddress hpool hkeypair =>
      simp only
      split
      · -- The network has refused, and the swap is recorded as failed.
        exact .inl ⟨_, _, rfl⟩
      · exact .inr ⟨pool, _, _, hpool, rfl, rfl, rfl, rfl, rfl⟩

/-! ### Liquidity -/

/-- What a caller asks for when liquidity is added. -/
structure AddLiquidityRequest where
  userKeypair : Except String String
  poolAddress : String
  tokenAAmount : ℚ
  tokenBAmount : ℚ
  positionType : PositionType := .STANDARD

/-- A share of an empty pool is no number, and is not stored. -/
def addLiquidity (world : World) (request : AddLiquidityRequest) :
    Except String DexLiquidityPosition × World :=
  match world.pools.findOne request.poolAddress, request.userKeypair with
  | none, _ => (.error "Pool not found", world)
  | some _, .error message => (.error message, world)
  | some pool, .ok ownerAddress =>
    -- The share is taken of the reserves as they were, without the deposit.
    let totalLiquidity := pool.tokenABalance + pool.tokenBBalance
    match quotient (request.tokenAAmount + request.tokenBAmount) totalLiquidity with
    | none => (.error "numeric field overflow", world)
    | some share =>
      let position := {
        poolAddress := pool.poolAddress
        ownerAddress
        positionType := request.positionType
        tokenAAmount := request.tokenAAmount
        tokenBAmount := request.tokenBAmount
        liquidityShares := share * 100
        isActive := true }
      (.ok position, { world with
        pools := world.pools.save { pool with
          tokenABalance := pool.tokenABalance + request.tokenAAmount
          tokenBBalance := pool.tokenBBalance + request.tokenBAmount }
        positions := world.positions ++ [position] })

theorem addLiquidity_cases (world : World) (request : AddLiquidityRequest) :
    (∃ message, addLiquidity world request = (.error message, world)) ∨
    ∃ pool ownerAddress, world.pools.findOne request.poolAddress = some pool ∧
      request.userKeypair = .ok ownerAddress ∧ pool.tokenABalance + pool.tokenBBalance ≠ 0 ∧
      ∃ position : DexLiquidityPosition, position = {
          poolAddress := pool.poolAddress
          ownerAddress
          positionType := request.positionType
          tokenAAmount := request.tokenAAmount
          tokenBAmount := request.tokenBAmount
          liquidityShares := (request.tokenAAmount + request.tokenBAmount) /
            (pool.tokenABalance + pool.tokenBBalance) * 100
          isActive := true } ∧
        addLiquidity world request = (.ok position, { world with
          pools := world.pools.save { pool with
            tokenABalance := pool.tokenABalance + request.tokenAAmount
            tokenBBalance := pool.tokenBBalance + request.tokenBAmount }
          positions := world.positions ++ [position] }) := by
  unfold addLiquidity quotient
  split
  · exact .inl ⟨_, rfl⟩
  · exact .inl ⟨_, rfl⟩
  · next pool ownerAddress hpool hkeypair =>
      -- An empty pool gives no share.
      by_cases htotal : pool.tokenABalance + pool.tokenBBalance = 0
      · simp only [htotal, if_true]
        exact .inl ⟨_, rfl⟩
      · simp only [htotal, if_false]
        exact .inr ⟨pool, ownerAddress, hpool, hkeypair, htotal, _, rfl, rfl⟩

/-- What a caller asks for when liquidity is removed. -/
structure RemoveLiquidityRequest where
  userKeypair : Except String String
  positionId : Nat
  percentage : ℚ := 100

/-- The position without a percentage of it. -/
def DexLiquidityPosition.without (position : DexLiquidityPosition) (percentage : ℚ) :
    DexLiquidityPosition :=
  let liquidityShares := position.liquidityShares - position.liquidityShares * percentage / 100
  -- Only what is left of the share decides whether the position stays active.
  { position with
    tokenAAmount := position.tokenAAmount - position.tokenAAmount * percentage / 100
    tokenBAmount := position.tokenBAmount - position.tokenBAmount * percentage / 100
    liquidityShares
    isActive := if liquidityShares ≤ 0 then false else position.isActive }

/-- The position is read with its pool, which it refers to by a foreign key. -/
def removeLiquidity (world : World) (request : RemoveLiquidityRequest) :
    Except String DexLiquidityPosition × World :=
  match world.positions[request.positionId]?, request.userKeypair with
  | none, _ => (.error "Position not found", world)
  | some _, .error message => (.error message, world)
  | some position, .ok userAddress =>
    -- The percentage is not checked, and neither is what the pool still holds.
    if position.ownerAddress ≠ userAddress then (.error "Unauthorized", world)
    else
      match world.pools.findOne position.poolAddress with
      | none => (.error "Cannot read properties of null (reading 'tokenABalance')", world)
      | some pool =>
        -- The amounts are those that were put in, whatever swaps have done since.
        let position' := position.without request.percentage
        (.ok position', { world with
          pools := world.pools.save { pool with
            tokenABalance := pool.tokenABalance - position.tokenAAmount * request.percentage / 100
            tokenBBalance := pool.tokenBBalance - position.tokenBAmount * request.percentage / 100 }
          positions := world.positions.set request.positionId position' })

theorem removeLiquidity_cases (world : World) (request : RemoveLiquidityRequest) :
    (∃ message, removeLiquidity world request = (.error message, world)) ∨
    ∃ position pool, world.positions[request.positionId]? = some position ∧
      request.userKeypair = .ok position.ownerAddress ∧
      world.pools.findOne position.poolAddress = some pool ∧
      removeLiquidity world request = (.ok (position.without request.percentage), { world with
        pools := world.pools.save { pool with
          tokenABalance := pool.tokenABalance - position.tokenAAmount * request.percentage / 100
          tokenBBalance := pool.tokenBBalance - position.tokenBAmount * request.percentage / 100 }
        positions := world.positions.set request.positionId
          (position.without request.percentage) }) := by
  unfold removeLiquidity
  split
  · exact .inl ⟨_, rfl⟩
  · exact .inl ⟨_, rfl⟩
  · next position userAddress hposition hkeypair =>
      -- A position can be reduced by its owner only.
      by_cases howner : position.ownerAddress = userAddress
      · subst howner
        simp only [ne_eq, not_true_eq_false, if_false]
        split
        · exact .inl ⟨_, rfl⟩
        · next pool hpool =>
            exact .inr ⟨position, pool, hposition, hkeypair, hpool, rfl⟩
      · simp only [ne_eq, howner, not_false_eq_true, if_true]
        exact .inl ⟨_, rfl⟩

/-! ### Calls -/

/-- The calls of the service. -/
inductive DexCall where
  | performSwap (request : SwapRequest)
  | addLiquidity (request : AddLiquidityRequest)
  | removeLiquidity (request : RemoveLiquidityRequest)

/-- What the calls answer. -/
inductive DexAnswer where
  | swap (result : Except String DexSwap)
  | position (result : Except String DexLiquidityPosition)

/-- One call on the tables. -/
def step (world : World) (call : DexCall) : DexAnswer × World :=
  match call with
  | .performSwap request =>
    let (result, after) := performSwap world request
    (.swap result, after)
  | .addLiquidity request =>
    let (result, after) := addLiquidity world request
    (.position result, after)
  | .removeLiquidity request =>
    let (result, after) := removeLiquidity world request
    (.position result, after)

end Dex

end Cpi

end SvmCourse
