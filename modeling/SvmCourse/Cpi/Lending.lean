import Mathlib.Tactic.Ring
import SvmCourse.Cpi.Dex

/-!
# Lending Pools

Pools with a reserve for each asset, and the positions of those who supply to
them and borrow from them. A position is recorded before its call is sent, in
nobody's name. When the network has accepted the call, the position gets its
owner and the reserve is moved; when not, the position is closed, with its
amount. Repaying and withdrawing are sent first, and then taken off the position
and the reserve.

Pools are referred to by their address and positions by their place in the
table. Numbers are exact.

## Main definitions

* `Reserve`, `LendingPool`, `LendingPosition`: The rows.
* `openPosition`, `reducePosition`: What supplying and borrowing have in common,
  and what repaying and withdrawing have in common.
* `supplyToPool`, `borrowFromPool`, `repayBorrow`, `withdrawSupply`,
  `getPoolStats`: The service.
* `LendingCall`, `step`: The service as a machine.

## Theorems

* `find?_updateReserve`, `sum_updateReserve`: The reserves after one has moved.
-/

namespace SvmCourse

namespace Cpi

namespace Lending

open Core
open Dex (quotient)

/-! ### Rows -/

/-- The two sides of a position. -/
inductive PositionType where
  | SUPPLY | BORROW
  deriving DecidableEq, Repr

/-- The statuses of a position. -/
inductive PositionStatus where
  | ACTIVE | LIQUIDATED | CLOSED
  deriving DecidableEq, Repr

/-- A reserve of a pool, a part of the pool's row. -/
structure Reserve where
  assetMint : String
  liquiditySupply : ℚ
  liquidityBorrowed : ℚ
  ltvRatio : ℚ
  deriving DecidableEq

/-- A row of the pools. -/
structure LendingPool where
  poolAddress : String
  reserves : List Reserve
  deriving DecidableEq

/-- What a loan is backed by. -/
structure CollateralInfo where
  collateralMint : String
  collateralAmount : ℚ
  collateralValue : ℚ
  deriving DecidableEq

/-- A row of the positions. -/
structure LendingPosition where
  poolAddress : String
  userAddress : String
  positionType : PositionType
  assetMint : String
  amount : ℚ
  healthFactor : Option ℚ := none
  status : PositionStatus
  collateralInfo : List CollateralInfo := []
  deriving DecidableEq

/-- The two tables of the service. -/
structure World where
  pools : Table LendingPool.poolAddress := .empty
  positions : List LendingPosition := []

/-! ### Reserves -/

/-- What is supplied to a reserve, or borrowed from it. -/
def Reserve.liquidity (reserve : Reserve) : PositionType → ℚ
  | .SUPPLY => reserve.liquiditySupply
  | .BORROW => reserve.liquidityBorrowed

/-- Add the amount to the side of the reserve that the position is on. -/
def Reserve.move (reserve : Reserve) (positionType : PositionType) (amount : ℚ) : Reserve :=
  match positionType with
  | .SUPPLY => { reserve with liquiditySupply := reserve.liquiditySupply + amount }
  | .BORROW => { reserve with liquidityBorrowed := reserve.liquidityBorrowed + amount }

/-- The reserve for an asset is the first one of its mint. -/
def LendingPool.reserve (pool : LendingPool) (assetMint : String) : Option Reserve :=
  pool.reserves.find? fun r => r.assetMint = assetMint

/-- The reserve that is found is changed where it stands. -/
def updateReserve (assetMint : String) (f : Reserve → Reserve) : List Reserve → List Reserve
  | [] => []
  | reserve :: reserves =>
    if reserve.assetMint = assetMint then f reserve :: reserves
    else reserve :: updateReserve assetMint f reserves

/-- Add it to the reserve of that asset. -/
def LendingPool.move (pool : LendingPool) (assetMint : String) (positionType : PositionType)
    (amount : ℚ) : LendingPool :=
  { pool with
    reserves := updateReserve assetMint (fun r => r.move positionType amount) pool.reserves }

/-! ### Supplying and borrowing -/

/-- Besides the arguments, what the network answers, and the address of the
    private key, which is read afterwards. -/
structure SupplyRequest where
  poolAddress : String
  assetMint : String
  amount : ℚ
  invocation : Except String String
  userKeypair : Except String String

/-- A loan names its collateral besides. -/
structure BorrowRequest extends SupplyRequest where
  collateralMint : String
  collateralAmount : ℚ

/-- A position is recorded, sent, and then given to its owner, or closed. -/
def openPosition (world : World) (request : SupplyRequest) (pool : LendingPool)
    (position : LendingPosition) : Except String LendingPosition × World :=
  match request.invocation, request.userKeypair with
  -- The position is saved again with its owner, and the pool after it.
  | .ok _, .ok userAddress =>
    let opened := { position with userAddress }
    (.ok opened, {
      pools := world.pools.save
        (pool.move position.assetMint position.positionType position.amount)
      positions := world.positions ++ [opened] })
  -- The row that was saved before the call stays, closed.
  | .error message, _ | _, .error message =>
    (.error message, { world with
      positions := world.positions ++ [{ position with status := .CLOSED }] })

/-- Supply: open a position on the side of the suppliers. -/
def supplyToPool (world : World) (request : SupplyRequest) :
    Except String LendingPosition × World :=
  match world.pools.findOne request.poolAddress with
  | none => (.error "Lending pool not found", world)
  | some pool =>
    match pool.reserve request.assetMint with
    | none => (.error "Asset not supported in this pool", world)
    | some _ =>
      openPosition world request pool {
        poolAddress := pool.poolAddress
        -- The owner is filled in from the key pair when the position is opened.
        userAddress := ""
        positionType := .SUPPLY
        assetMint := request.assetMint
        amount := request.amount
        status := .ACTIVE }

/-- The collateral at the loan-to-value ratio, which is 75% where there is none,
    over what is borrowed. -/
def calculateHealthFactor (reserve : Reserve) (request : BorrowRequest) : Option ℚ :=
  let ltvRatio := if reserve.ltvRatio = 0 then 0.75 else reserve.ltvRatio
  quotient (request.collateralAmount * ltvRatio) request.amount

/-- Borrow: check the health factor, and open a position on the side of the
    borrowers. -/
def borrowFromPool (world : World) (request : BorrowRequest) :
    Except String LendingPosition × World :=
  match world.pools.findOne request.poolAddress with
  | none => (.error "Lending pool not found", world)
  | some pool =>
    match pool.reserve request.assetMint with
    | none => (.error "Asset not supported in this pool", world)
    | some reserve =>
      match calculateHealthFactor reserve request with
      -- The factor of a loan of nothing does not fit its column.
      | none => (.error "numeric field overflow", world)
      | some healthFactor =>
        if healthFactor < 1.2 then (.error "Insufficient collateral for borrow", world)
        else
          openPosition world request.toSupplyRequest pool {
            poolAddress := pool.poolAddress
            userAddress := ""
            positionType := .BORROW
            assetMint := request.assetMint
            amount := request.amount
            healthFactor := some healthFactor
            status := .ACTIVE
            collateralInfo := [{
              collateralMint := request.collateralMint
              collateralAmount := request.collateralAmount
              collateralValue := request.collateralAmount }] }

/-! ### Repaying and withdrawing -/

/-- What a caller asks for when a position is repaid or withdrawn. -/
structure ReduceRequest where
  userKeypair : Except String String
  positionId : Nat
  amount : ℚ
  invocation : Except String String

/-- The position less an amount. It is closed when nothing is left. -/
def LendingPosition.less (position : LendingPosition) (amount : ℚ) : LendingPosition :=
  { position with
    amount := position.amount - amount
    status := if position.amount - amount ≤ 0 then .CLOSED else position.status }

/-- The position is read with its pool, which it refers to by a foreign key. -/
def reducePosition (positionType : PositionType) (wrongType : String) (world : World)
    (request : ReduceRequest) : Except String LendingPosition × World :=
  match world.positions[request.positionId]? with
  | none => (.error "Position not found", world)
  | some position =>
    if position.positionType ≠ positionType then (.error wrongType, world)
    else
      match request.userKeypair with
      | .error message => (.error message, world)
      | .ok userAddress =>
        if position.userAddress ≠ userAddress then (.error "Unauthorized", world)
        else
          match world.pools.findOne position.poolAddress, request.invocation with
          -- The instruction is built from the pool, before it is sent.
          | none, _ => (.error "Cannot read properties of null (reading 'ownerAddress')", world)
          | some _, .error message => (.error message, world)
          | some pool, .ok _ =>
            let position' := position.less request.amount
            (.ok position', {
              pools :=
                -- A position whose asset the pool has dropped moves no reserve.
                if (pool.reserve position.assetMint).isSome then
                  world.pools.save (pool.move position.assetMint positionType (-request.amount))
                else world.pools
              positions := world.positions.set request.positionId position' })

/-- Repay a loan, in part or in full. -/
def repayBorrow : World → ReduceRequest → Except String LendingPosition × World :=
  reducePosition .BORROW "Position is not a borrow position"

/-- Withdraw what was supplied, in part or in full. -/
def withdrawSupply : World → ReduceRequest → Except String LendingPosition × World :=
  reducePosition .SUPPLY "Position is not a supply position"

/-! ### Statistics -/

/-- What is reported of a pool. -/
structure PoolStats where
  poolAddress : String
  totalSupplied : ℚ
  totalBorrowed : ℚ
  utilizationRate : ℚ
  reserves : List Reserve
  activePositions : Nat

/-- The amount of a position that is of a type and in a pool. -/
def LendingPosition.amountIn (poolAddress : String) (positionType : PositionType)
    (position : LendingPosition) : ℚ :=
  if position.poolAddress = poolAddress ∧ position.positionType = positionType then position.amount
  else 0

/-- The sums over all positions of a pool, whatever their status. -/
def getPoolStats (world : World) (poolAddress : String) : Except String PoolStats :=
  match world.pools.findOne poolAddress with
  | none => .error "Lending pool not found"
  | some pool =>
    -- Positions of any status are added up and counted.
    let total positionType :=
      (world.positions.map (LendingPosition.amountIn pool.poolAddress positionType)).sum
    let totalSupplied := total .SUPPLY
    let totalBorrowed := total .BORROW
    .ok {
      poolAddress := pool.poolAddress
      totalSupplied
      totalBorrowed
      utilizationRate := if totalSupplied > 0 then totalBorrowed / totalSupplied else 0
      reserves := pool.reserves
      activePositions :=
        (world.positions.filter fun p => p.poolAddress = pool.poolAddress).length }

/-! ### Calls -/

/-- The calls of the service. -/
inductive LendingCall where
  | supplyToPool (request : SupplyRequest)
  | borrowFromPool (request : BorrowRequest)
  | repayBorrow (request : ReduceRequest)
  | withdrawSupply (request : ReduceRequest)

/-- One call on the tables. -/
def step (world : World) (call : LendingCall) : Except String LendingPosition × World :=
  match call with
  | .supplyToPool request => supplyToPool world request
  | .borrowFromPool request => borrowFromPool world request
  | .repayBorrow request => repayBorrow world request
  | .withdrawSupply request => withdrawSupply world request

/-! ### Reserves that have moved -/

section

variable {assetMint : String} {f : Reserve → Reserve} {reserves : List Reserve} {reserve : Reserve}

theorem find?_updateReserve (hf : ∀ r, (f r).assetMint = r.assetMint) (mint : String) :
    (updateReserve assetMint f reserves).find? (fun r => r.assetMint = mint) =
      (reserves.find? fun r => r.assetMint = mint).map
        fun r => if mint = assetMint then f r else r := by
  -- Only the first reserve of the mint changes, which is the one found.
  induction reserves with
  | nil => rfl
  | cons head reserves ih =>
      rw [updateReserve]
      by_cases hhead : head.assetMint = assetMint
      · rw [if_pos hhead, List.find?_cons, List.find?_cons, hf]
        by_cases hmint : head.assetMint = mint
        · have hsame : mint = assetMint := hmint.symm.trans hhead
          simp only [hmint, decide_true, Option.map_some, if_pos hsame]
        · have hne : mint ≠ assetMint := fun h => hmint (hhead.trans h.symm)
          simp only [hmint, decide_false, if_neg hne, Option.map_id']
      · rw [if_neg hhead, List.find?_cons, List.find?_cons]
        by_cases hmint : head.assetMint = mint
        · have hne : mint ≠ assetMint := fun h => hhead (hmint.trans h)
          simp only [hmint, decide_true, Option.map_some, if_neg hne]
        · simp only [hmint, decide_false, ih]

theorem mem_updateReserve (h : reserves.find? (fun r => r.assetMint = assetMint) = some reserve)
    {r : Reserve} (hr : r ∈ updateReserve assetMint f reserves) : r = f reserve ∨ r ∈ reserves := by
  -- Past the reserve that is found, all are as they were.
  induction reserves with
  | nil => exact absurd hr List.not_mem_nil
  | cons head reserves ih =>
      rw [updateReserve] at hr
      rw [List.find?_cons] at h
      by_cases hhead : head.assetMint = assetMint
      · simp only [hhead, decide_true, Option.some.injEq] at h
        rw [if_pos hhead] at hr
        rcases List.mem_cons.mp hr with rfl | hr
        · exact .inl (by rw [h])
        · exact .inr (List.mem_cons_of_mem _ hr)
      · simp only [hhead, decide_false] at h
        rw [if_neg hhead] at hr
        rcases List.mem_cons.mp hr with rfl | hr
        · exact .inr (List.mem_cons_self ..)
        · exact (ih h hr).imp_right (List.mem_cons_of_mem _)

theorem sum_updateReserve
    (h : reserves.find? (fun r => r.assetMint = assetMint) = some reserve) (g : Reserve → ℚ) :
    ((updateReserve assetMint f reserves).map g).sum =
      (reserves.map g).sum - g reserve + g (f reserve) := by
  -- One summand changes, the first of the mint.
  induction reserves with
  | nil => exact nomatch h
  | cons head reserves ih =>
      rw [updateReserve]
      rw [List.find?_cons] at h
      by_cases hhead : head.assetMint = assetMint
      · simp only [hhead, decide_true, Option.some.injEq] at h
        subst h
        rw [if_pos hhead]
        simp only [List.map_cons, List.sum_cons]
        ring
      · simp only [hhead, decide_false] at h
        rw [if_neg hhead]
        simp only [List.map_cons, List.sum_cons, ih h]
        ring

end

@[simp] theorem Reserve.assetMint_move (reserve : Reserve) (positionType : PositionType)
    (amount : ℚ) : (reserve.move positionType amount).assetMint = reserve.assetMint := by
  cases positionType <;> rfl

theorem Reserve.liquidity_move (reserve : Reserve) (positionType other : PositionType)
    (amount : ℚ) : (reserve.move positionType amount).liquidity other =
      reserve.liquidity other + if other = positionType then amount else 0 := by
  cases positionType <;> cases other <;> simp [Reserve.move, Reserve.liquidity]

end Lending

end Cpi

end SvmCourse
