import Mathlib.Algebra.Order.BigOperators.Group.List
import Mathlib.Tactic.Linarith
import SvmCourse.Core.Machine
import SvmCourse.Cpi.Lending

/-!
# Reserves Are Accounted For

What was supplied to a reserve and not withdrawn is what the positions hold, and
so for what was borrowed. A call that is made moves one reserve and one position
by the same amount.

The service does not check what a position holds or whether it is closed, nor
that what is borrowed is there, nor that what is withdrawn is not borrowed. And
a position whose call was not accepted is closed with its amount, which the
statistics count. What it would have to check is exactly what the accounts need.

## Main definitions

* `liquidityOf`, `totalOf`: What is supplied to a reserve or a pool, or borrowed.
* `activeAmounts`: What the active positions in a reserve hold.
* `Balanced`: Reserves, positions and statistics are in order.
* `Faithful`: They are after a call, and no position gives more than it holds.
* `LendingCall.Backed`: What the service would have to check.

## Theorems

* `liquidityOf_move`, `totalOf_move`: The reserves after one has moved.
* `sound_step`: Calls that are backed keep the accounts.
* `backed_of_faithful`: Calls that keep the accounts are backed.
* `faithful_iff`: Calls are faithful exactly when all of them are backed.
-/

namespace SvmCourse

namespace Cpi

namespace Lending

open Core Core.Machine

/-- The table of the pools. -/
abbrev Pools := Table LendingPool.poolAddress

/-! ### What the reserves say -/

/-- The reserve of an asset in a pool. -/
def reserveOf (pools : Pools) (poolAddress assetMint : String) : Option Reserve :=
  (pools.findOne poolAddress).bind fun pool => pool.reserve assetMint

/-- What is supplied to the reserve of an asset, or borrowed from it. -/
def liquidityOf (pools : Pools) (positionType : PositionType) (poolAddress assetMint : String) :
    ℚ :=
  ((reserveOf pools poolAddress assetMint).map fun r => r.liquidity positionType).getD 0

/-- What is supplied to all the reserves of a pool, or borrowed from them. -/
def totalOf (pools : Pools) (positionType : PositionType) (poolAddress : String) : ℚ :=
  ((pools.findOne poolAddress).map fun pool =>
    (pool.reserves.map fun r => r.liquidity positionType).sum).getD 0

/-- No more is borrowed than there is. -/
def Reserve.Solvent (reserve : Reserve) : Prop :=
  0 ≤ reserve.liquidityBorrowed ∧ reserve.liquidityBorrowed ≤ reserve.liquiditySupply

/-- Every reserve is solvent. -/
def Solvent (pools : Pools) : Prop :=
  ∀ pool ∈ pools.rows, ∀ reserve ∈ pool.reserves, reserve.Solvent

section

variable {pools : Pools} {pool : LendingPool} {reserve : Reserve} {poolAddress assetMint : String}
  {positionType : PositionType} {amount : ℚ}

theorem reserveOf_eq (hpool : pools.findOne poolAddress = some pool) :
    reserveOf pools poolAddress assetMint = pool.reserve assetMint := by
  rw [reserveOf, hpool, Option.bind_some]

theorem solvent_reserveOf (poolAddress : String) (h : Solvent pools)
    (hreserve : reserveOf pools poolAddress assetMint = some reserve) : reserve.Solvent := by
  rcases Option.bind_eq_some_iff.mp hreserve with ⟨pool, hpool, hfind⟩
  exact h pool (Table.mem_of_findOne hpool) reserve (List.mem_of_find?_eq_some hfind)

theorem liquidityOf_nonneg (h : Solvent pools) (positionType : PositionType)
    (poolAddress assetMint : String) :
    0 ≤ liquidityOf pools positionType poolAddress assetMint := by
  unfold liquidityOf
  cases hreserve : reserveOf pools poolAddress assetMint with
  | none => exact le_rfl
  | some reserve =>
      have hsolvent := solvent_reserveOf poolAddress h hreserve
      cases positionType
      · exact hsolvent.1.trans hsolvent.2
      · exact hsolvent.1

/-! ### What moves in them -/

theorem poolAddress_move (pool : LendingPool) (assetMint : String) (positionType : PositionType)
    (amount : ℚ) : (pool.move assetMint positionType amount).poolAddress = pool.poolAddress := rfl

/-- The other reserves stay as they are. -/
theorem reserveOf_move (hpool : pools.findOne poolAddress = some pool) (address mint : String) :
    reserveOf (pools.save (pool.move assetMint positionType amount)) address mint =
      (reserveOf pools address mint).map fun r =>
        if address = poolAddress ∧ mint = assetMint then r.move positionType amount else r := by
  have hkey : (pool.move assetMint positionType amount).poolAddress = poolAddress :=
    (poolAddress_move ..).trans (Table.key_of_findOne hpool)
  -- Pools are told apart by address, and their reserves by mint.
  by_cases haddress : address = poolAddress
  · subst haddress
    have hsaved : (pools.save (pool.move assetMint positionType amount)).findOne address =
        some (pool.move assetMint positionType amount) := by
      rw [Table.findOne_save, if_pos hkey.symm]
    rw [reserveOf_eq hsaved, reserveOf_eq hpool]
    simp only [true_and]
    exact find?_updateReserve (fun r => Reserve.assetMint_move r positionType amount) mint
  · have hne : address ≠ (pool.move assetMint positionType amount).poolAddress :=
      fun h => haddress (h.trans hkey)
    rw [reserveOf, Table.findOne_save_of_ne hne]
    simp only [haddress, false_and, if_false, Option.map_id']
    rfl

theorem liquidityOf_move (hpool : pools.findOne poolAddress = some pool)
    (hreserve : pool.reserve assetMint = some reserve) (other : PositionType)
    (address mint : String) :
    liquidityOf (pools.save (pool.move assetMint positionType amount)) other address mint =
      liquidityOf pools other address mint +
        if address = poolAddress ∧ mint = assetMint ∧ other = positionType then amount else 0 := by
  rw [liquidityOf, reserveOf_move hpool, liquidityOf]
  by_cases hhere : address = poolAddress ∧ mint = assetMint
  · rcases hhere with ⟨rfl, rfl⟩
    rw [reserveOf_eq hpool, hreserve]
    simp only [and_self, true_and, if_true, Option.map_some, Option.getD_some,
      Reserve.liquidity_move]
  · -- Another reserve, or another pool: nothing moves.
    have hnot : ¬(address = poolAddress ∧ mint = assetMint ∧ other = positionType) :=
      fun h => hhere ⟨h.1, h.2.1⟩
    simp only [if_neg hhere, if_neg hnot, Option.map_id', add_zero]

theorem totalOf_move (hpool : pools.findOne poolAddress = some pool)
    (hreserve : pool.reserve assetMint = some reserve) (other : PositionType) (address : String) :
    totalOf (pools.save (pool.move assetMint positionType amount)) other address =
      totalOf pools other address +
        if address = poolAddress ∧ other = positionType then amount else 0 := by
  have hkey : (pool.move assetMint positionType amount).poolAddress = poolAddress :=
    (poolAddress_move ..).trans (Table.key_of_findOne hpool)
  rw [totalOf, totalOf, Table.findOne_save, hkey]
  by_cases haddress : address = poolAddress
  · subst haddress
    rw [if_pos rfl, hpool]
    simp only [Option.map_some, Option.getD_some, true_and, LendingPool.move]
    -- One summand of the pool moves, by the amount.
    rw [sum_updateReserve hreserve, Reserve.liquidity_move]
    ring
  · simp only [haddress, if_false, false_and, add_zero]

/-- Reserves stay solvent if the one that moves does. -/
theorem solvent_move (h : Solvent pools) (hpool : pools.findOne poolAddress = some pool)
    (hreserve : pool.reserve assetMint = some reserve)
    (hmoved : (reserve.move positionType amount).Solvent) :
    Solvent (pools.save (pool.move assetMint positionType amount)) := by
  intro p hp r hr
  rcases Table.mem_save.mp hp with rfl | ⟨hp, -⟩
  · rcases mem_updateReserve hreserve hr with rfl | hr
    · exact hmoved
    · exact h pool (Table.mem_of_findOne hpool) r hr
  · -- The other pools were not saved.
    exact h p hp r hr

theorem exists_reserveOf_move (hpool : pools.findOne poolAddress = some pool)
    {address mint : String}
    (h : (reserveOf pools address mint).isSome = true) :
    (reserveOf (pools.save (pool.move assetMint positionType amount)) address mint).isSome =
      true := by
  rw [reserveOf_move hpool, Option.isSome_map]
  exact h

end

/-! ### What the positions say -/

/-- What the position contributes to that side of that reserve. -/
def LendingPosition.activeAmount (positionType : PositionType) (poolAddress assetMint : String)
    (position : LendingPosition) : ℚ :=
  if position.poolAddress = poolAddress ∧ position.assetMint = assetMint ∧
    position.positionType = positionType ∧ position.status = .ACTIVE then position.amount else 0

/-- What the active positions in the reserve of an asset hold. -/
def activeAmounts (positions : List LendingPosition) (positionType : PositionType)
    (poolAddress assetMint : String) : ℚ :=
  (positions.map (LendingPosition.activeAmount positionType poolAddress assetMint)).sum

/-- What all positions in a pool hold. -/
def amounts (positions : List LendingPosition) (positionType : PositionType)
    (poolAddress : String) : ℚ :=
  (positions.map (LendingPosition.amountIn poolAddress positionType)).sum

/-- A position that is active holds something, and one that is closed nothing. -/
structure LendingPosition.Whole (position : LendingPosition) : Prop where
  held : position.status = .ACTIVE ∧ 0 < position.amount ∨
    position.status = .CLOSED ∧ position.amount = 0

namespace LendingPosition

variable {position : LendingPosition} {amount : ℚ}

theorem Whole.amount_nonneg (h : position.Whole) : 0 ≤ position.amount := by
  rcases h.held with h | h
  · exact h.2.le
  · exact h.2.ge

/-- A closed position does not count, and would not make a difference. -/
theorem Whole.activeAmount_eq (h : position.Whole) (positionType : PositionType)
    (poolAddress assetMint : String) :
    position.activeAmount positionType poolAddress assetMint =
      if poolAddress = position.poolAddress ∧ assetMint = position.assetMint ∧
        positionType = position.positionType then position.amount else 0 := by
  have hsym : (position.poolAddress = poolAddress ∧ position.assetMint = assetMint ∧
      position.positionType = positionType) ↔ (poolAddress = position.poolAddress ∧
      assetMint = position.assetMint ∧ positionType = position.positionType) := by
    simp only [eq_comm]
  unfold activeAmount
  rcases h.held with h | h
  · simp only [h.1, and_true, hsym]
  · simp only [h.2, ite_self]

theorem amountIn_eq (position : LendingPosition) (positionType : PositionType)
    (poolAddress : String) : position.amountIn poolAddress positionType =
      if poolAddress = position.poolAddress ∧ positionType = position.positionType then
        position.amount else 0 := by
  simp only [amountIn, eq_comm]

theorem whole_less (h : position.Whole) (hpos : 0 < amount) (hle : amount ≤ position.amount) :
    (position.less amount).Whole := by
  rcases h.held with h | h
  · rcases hle.eq_or_lt with heq | hlt
    · -- All of it: nothing is left, and the position is closed.
      refine ⟨.inr ⟨?_, sub_eq_zero.mpr heq.symm⟩⟩
      exact if_pos (sub_eq_zero.mpr heq.symm).le
    · refine ⟨.inl ⟨?_, sub_pos.mpr hlt⟩⟩
      rw [less, if_neg (sub_pos.mpr hlt).not_ge]
      exact h.1
  · -- A closed position has nothing to take.
    rw [h.2] at hle
    exact absurd hpos hle.not_gt

/-- What is taken off a position counts where the position does. -/
theorem activeAmount_less (h : position.Whole) (hless : (position.less amount).Whole)
    (positionType : PositionType) (poolAddress assetMint : String) :
    (position.less amount).activeAmount positionType poolAddress assetMint =
      position.activeAmount positionType poolAddress assetMint +
        if poolAddress = position.poolAddress ∧ assetMint = position.assetMint ∧
          positionType = position.positionType then -amount else 0 := by
  rw [hless.activeAmount_eq, h.activeAmount_eq]
  change (if poolAddress = position.poolAddress ∧ assetMint = position.assetMint ∧
    positionType = position.positionType then position.amount - amount else 0) = _
  split_ifs
  · ring
  · ring

theorem amountIn_less (position : LendingPosition) (amount : ℚ) (positionType : PositionType)
    (poolAddress : String) :
    (position.less amount).amountIn poolAddress positionType =
      position.amountIn poolAddress positionType +
        if poolAddress = position.poolAddress ∧ positionType = position.positionType then -amount
        else 0 := by
  rw [amountIn_eq, amountIn_eq]
  change (if poolAddress = position.poolAddress ∧ positionType = position.positionType then
    position.amount - amount else 0) = _
  split_ifs
  · ring
  · ring

end LendingPosition

theorem activeAmounts_append (positions : List LendingPosition) (position : LendingPosition)
    (positionType : PositionType) (poolAddress assetMint : String) :
    activeAmounts (positions ++ [position]) positionType poolAddress assetMint =
      activeAmounts positions positionType poolAddress assetMint +
        position.activeAmount positionType poolAddress assetMint := by
  simp only [activeAmounts, List.map_append, List.map_singleton, List.sum_append,
    List.sum_singleton]

theorem amounts_append (positions : List LendingPosition) (position : LendingPosition)
    (positionType : PositionType) (poolAddress : String) :
    amounts (positions ++ [position]) positionType poolAddress =
      amounts positions positionType poolAddress + position.amountIn poolAddress positionType := by
  simp only [amounts, List.map_append, List.map_singleton, List.sum_append, List.sum_singleton]

/-! ### Accounts -/

/-- Reserves are solvent, active positions hold what was supplied or borrowed
    since the start, and the statistics say so for the whole pool. -/
structure Balanced (start : Pools) (world : World) : Prop where
  solvent : Solvent world.pools
  held : ∀ positionType, ∀ pool ∈ world.pools.rows, ∀ reserve ∈ pool.reserves,
    activeAmounts world.positions positionType pool.poolAddress reserve.assetMint =
      liquidityOf world.pools positionType pool.poolAddress reserve.assetMint -
        liquidityOf start positionType pool.poolAddress reserve.assetMint
  stats : ∀ pool ∈ world.pools.rows, ∃ poolStats,
    getPoolStats world pool.poolAddress = .ok poolStats ∧
      poolStats.totalSupplied =
        totalOf world.pools .SUPPLY pool.poolAddress - totalOf start .SUPPLY pool.poolAddress ∧
      poolStats.totalBorrowed =
        totalOf world.pools .BORROW pool.poolAddress - totalOf start .BORROW pool.poolAddress

/-- What a call takes off a position. -/
def LendingCall.reduces : LendingCall → Option ReduceRequest
  | .supplyToPool _ | .borrowFromPool _ => none
  | .repayBorrow request | .withdrawSupply request => some request

/-- The accounts are in order after the call, and the position it takes from was
    not closed and held that much. -/
structure Faithful (start : Pools) (call : LendingCall) (before : World)
    (answer : Except String LendingPosition) (after : World) : Prop where
  balanced : Balanced start after
  reduced : ∀ request position position', call.reduces = some request → answer = .ok position' →
    before.positions[request.positionId]? = some position →
    request.amount ≤ position.amount ∧ position.status ≠ .CLOSED

/-- What keeps the accounts in order. -/
structure Sound (start : Pools) (world : World) : Prop where
  began : Solvent start
  solvent : Solvent world.pools
  whole : ∀ position ∈ world.positions, position.Whole
  reserves : ∀ position ∈ world.positions,
    (reserveOf world.pools position.poolAddress position.assetMint).isSome = true
  held : ∀ positionType poolAddress assetMint,
    activeAmounts world.positions positionType poolAddress assetMint =
      liquidityOf world.pools positionType poolAddress assetMint -
        liquidityOf start positionType poolAddress assetMint
  totals : ∀ positionType poolAddress, amounts world.positions positionType poolAddress =
    totalOf world.pools positionType poolAddress - totalOf start positionType poolAddress

section

variable {start : Pools} {world : World} {pool : LendingPool} {reserve : Reserve}

theorem getPoolStats_of_mem (hpool : pool ∈ world.pools.rows) : ∃ poolStats,
    getPoolStats world pool.poolAddress = .ok poolStats ∧
      poolStats.totalSupplied = amounts world.positions .SUPPLY pool.poolAddress ∧
      poolStats.totalBorrowed = amounts world.positions .BORROW pool.poolAddress := by
  rw [getPoolStats, Table.findOne_of_mem hpool]
  exact ⟨_, rfl, rfl, rfl⟩

theorem Sound.balanced (h : Sound start world) : Balanced start world where
  solvent := h.solvent
  held positionType pool _ reserve _ := h.held positionType pool.poolAddress reserve.assetMint
  stats pool hpool := by
    rcases getPoolStats_of_mem hpool with ⟨poolStats, hstats, hsupplied, hborrowed⟩
    exact ⟨poolStats, hstats, hsupplied.trans (h.totals ..), hborrowed.trans (h.totals ..)⟩

theorem Balanced.totals (h : Balanced start world) (hpool : pool ∈ world.pools.rows)
    (positionType : PositionType) : amounts world.positions positionType pool.poolAddress =
      totalOf world.pools positionType pool.poolAddress -
        totalOf start positionType pool.poolAddress := by
  rcases getPoolStats_of_mem hpool with ⟨poolStats, hstats, hsupplied, hborrowed⟩
  rcases h.stats pool hpool with ⟨poolStats', hstats', hsupplied', hborrowed'⟩
  rw [hstats] at hstats'
  cases hstats'
  cases positionType
  · exact hsupplied.symm.trans hsupplied'
  · exact hborrowed.symm.trans hborrowed'

/-- A reserve and a position that move by the same amount keep the accounts. -/
theorem sound_move {positions : List LendingPosition} {poolAddress assetMint : String}
    {positionType : PositionType} {amount : ℚ} (h : Sound start world)
    (hpool : world.pools.findOne poolAddress = some pool)
    (hreserve : pool.reserve assetMint = some reserve)
    (hmoved : (reserve.move positionType amount).Solvent)
    (hwhole : ∀ position ∈ positions, position.Whole)
    (hreserves : ∀ position ∈ positions,
      (reserveOf world.pools position.poolAddress position.assetMint).isSome = true)
    (hheld : ∀ other address mint, activeAmounts positions other address mint =
      activeAmounts world.positions other address mint +
        if address = poolAddress ∧ mint = assetMint ∧ other = positionType then amount else 0)
    (htotals : ∀ other address, amounts positions other address =
      amounts world.positions other address +
        if address = poolAddress ∧ other = positionType then amount else 0) :
    Sound start { pools := world.pools.save (pool.move assetMint positionType amount)
                  positions := positions } where
  began := h.began
  solvent := solvent_move h.solvent hpool hreserve hmoved
  whole := hwhole
  reserves position hposition := exists_reserveOf_move hpool (hreserves position hposition)
  held other address mint := by
    rw [hheld, h.held, liquidityOf_move hpool hreserve]
    ring
  totals other address := by
    rw [htotals, h.totals, totalOf_move hpool hreserve]
    ring

/-- An active position holds no more than was supplied or borrowed. -/
theorem Sound.amount_le (h : Sound start world) {position : LendingPosition}
    (hposition : position ∈ world.positions)
    (hreserve : reserveOf world.pools position.poolAddress position.assetMint = some reserve) :
    position.amount ≤ reserve.liquidity position.positionType := by
  have hheld := h.held position.positionType position.poolAddress position.assetMint
  have hstart := liquidityOf_nonneg h.began position.positionType position.poolAddress
    position.assetMint
  -- No summand is negative, so one of them is at most the sum.
  have hone : position.amount ≤ activeAmounts world.positions position.positionType
      position.poolAddress position.assetMint := by
    have hnonneg : ∀ amount ∈ world.positions.map (LendingPosition.activeAmount
        position.positionType position.poolAddress position.assetMint), 0 ≤ amount := by
      intro amount hamount
      rcases List.mem_map.mp hamount with ⟨p, hp, rfl⟩
      rw [(h.whole p hp).activeAmount_eq]
      split
      · exact (h.whole p hp).amount_nonneg
      · exact le_rfl
    have hsum := List.single_le_sum hnonneg _ (List.mem_map_of_mem hposition)
    rwa [(h.whole position hposition).activeAmount_eq, if_pos ⟨rfl, rfl, rfl⟩] at hsum
  have hliquidity : liquidityOf world.pools position.positionType position.poolAddress
      position.assetMint = reserve.liquidity position.positionType := by
    rw [liquidityOf, hreserve]
    rfl
  linarith

/-! ### Supplying and borrowing -/

/-- The network accepts the call, and the private key can be read. -/
def SupplyRequest.GoesThrough (request : SupplyRequest) : Prop :=
  (∃ signature, request.invocation = .ok signature) ∧
    ∃ userAddress, request.userKeypair = .ok userAddress

/-- A position as it is recorded for a request. -/
structure Opening (request : SupplyRequest) (pool : LendingPool) (positionType : PositionType)
    (position : LendingPosition) : Prop where
  poolAddress : position.poolAddress = pool.poolAddress
  positionType : position.positionType = positionType
  assetMint : position.assetMint = request.assetMint
  amount : position.amount = request.amount
  status : position.status = .ACTIVE

theorem openPosition_cases (world : World) (request : SupplyRequest) (pool : LendingPool)
    (position : LendingPosition) :
    (request.GoesThrough ∧ ∃ userAddress, openPosition world request pool position =
      (.ok { position with userAddress }, {
        pools := world.pools.save
          (pool.move position.assetMint position.positionType position.amount)
        positions := world.positions ++ [{ position with userAddress }] })) ∨
    ∃ message, openPosition world request pool position = (.error message, { world with
      positions := world.positions ++ [{ position with status := .CLOSED }] }) := by
  unfold openPosition
  split
  · next signature userAddress hinvocation hkeypair =>
      exact .inl ⟨⟨⟨_, hinvocation⟩, ⟨_, hkeypair⟩⟩, userAddress, rfl⟩
  · exact .inr ⟨_, rfl⟩
  · exact .inr ⟨_, rfl⟩

theorem openPosition_of_goesThrough {request : SupplyRequest} (h : request.GoesThrough)
    (world : World) (pool : LendingPool) (position : LendingPosition) :
    ∃ userAddress, openPosition world request pool position =
      (.ok { position with userAddress }, {
        pools := world.pools.save
          (pool.move position.assetMint position.positionType position.amount)
        positions := world.positions ++ [{ position with userAddress }] }) := by
  rcases h with ⟨⟨signature, hinvocation⟩, userAddress, hkeypair⟩
  rw [openPosition, hinvocation, hkeypair]
  exact ⟨userAddress, rfl⟩

variable {request : SupplyRequest} {positionType : PositionType} {position : LendingPosition}

/-- A position that is opened keeps the accounts, if the reserve has what is
    borrowed. -/
theorem sound_openPosition (h : Sound start world)
    (hpool : world.pools.findOne request.poolAddress = some pool)
    (hreserve : pool.reserve request.assetMint = some reserve)
    (hopening : Opening request pool positionType position) (hpos : 0 < request.amount)
    (hthrough : request.GoesThrough)
    (hmoved : (reserve.move positionType request.amount).Solvent) :
    Sound start (openPosition world request pool position).2 := by
  rcases openPosition_of_goesThrough hthrough world pool position with ⟨userAddress, hopened⟩
  have hkey := Table.key_of_findOne hpool
  -- The row as it is saved, with its owner.
  have hnew : LendingPosition.Whole { position with
      userAddress
      positionType
      assetMint := request.assetMint
      amount := request.amount } := ⟨.inl ⟨hopening.status, hpos⟩⟩
  rw [hopened]
  simp only [hopening.assetMint, hopening.positionType, hopening.amount]
  apply sound_move h hpool hreserve hmoved
  · intro p hp
    rcases List.mem_append.mp hp with hp | hp
    · exact h.whole p hp
    · rw [List.mem_singleton.mp hp]
      exact hnew
  · -- The new position is in a reserve that was found.
    intro p hp
    rcases List.mem_append.mp hp with hp | hp
    · exact h.reserves p hp
    · rw [List.mem_singleton.mp hp]
      simp only [hopening.poolAddress, hkey, reserveOf_eq hpool, hreserve, Option.isSome_some]
  · intro other address mint
    rw [activeAmounts_append, hnew.activeAmount_eq]
    simp only [hopening.poolAddress, hkey]
  · intro other address
    rw [amounts_append, LendingPosition.amountIn_eq]
    simp only [hopening.poolAddress, hkey]

/-- A position that keeps the accounts has gone through, and left the reserve
    solvent. -/
theorem goesThrough_of_balanced (h : Sound start world)
    (hpool : world.pools.findOne request.poolAddress = some pool)
    (hreserve : pool.reserve request.assetMint = some reserve)
    (hopening : Opening request pool positionType position) (hpos : 0 < request.amount)
    (hafter : Balanced start (openPosition world request pool position).2) :
    request.GoesThrough ∧ (reserve.move positionType request.amount).Solvent := by
  rcases openPosition_cases world request pool position with
    ⟨hthrough, userAddress, hopened⟩ | ⟨message, hclosed⟩
  · -- It went through, and the reserve was saved as it moved.
    refine ⟨hthrough, ?_⟩
    have hsolvent := hafter.solvent
    rw [hopened] at hsolvent
    simp only [hopening.assetMint, hopening.positionType, hopening.amount] at hsolvent
    apply solvent_reserveOf request.poolAddress hsolvent
    rw [reserveOf_move hpool, reserveOf_eq hpool, hreserve]
    simp only [and_self, if_true, Option.map_some]
  · -- The closed position counts for the statistics.
    exfalso
    rw [hclosed] at hafter
    have htotals := hafter.totals (Table.mem_of_findOne hpool) positionType
    simp only [amounts_append, h.totals, LendingPosition.amountIn_eq, hopening.poolAddress,
      hopening.positionType, hopening.amount, and_self, if_true] at htotals
    linarith

end

section

variable {start : Pools} {world : World} {pool : LendingPool} {reserve : Reserve}

theorem supplyToPool_cases (world : World) (request : SupplyRequest) :
    (∃ message, supplyToPool world request = (.error message, world)) ∨
    ∃ pool reserve, world.pools.findOne request.poolAddress = some pool ∧
      pool.reserve request.assetMint = some reserve := by
  unfold supplyToPool
  split
  · exact .inl ⟨_, rfl⟩
  · next pool hpool =>
      cases hreserve : pool.reserve request.assetMint with
      | none => exact .inl ⟨_, rfl⟩
      | some reserve => exact .inr ⟨pool, reserve, hpool, hreserve⟩

theorem supplyToPool_eq {request : SupplyRequest}
    (hpool : world.pools.findOne request.poolAddress = some pool)
    (hreserve : pool.reserve request.assetMint = some reserve) :
    ∃ position, Opening request pool .SUPPLY position ∧
      supplyToPool world request = openPosition world request pool position := by
  rw [supplyToPool, hpool]
  simp only [hreserve]
  exact ⟨_, ⟨rfl, rfl, rfl, rfl, rfl⟩, rfl⟩

theorem borrowFromPool_cases (world : World) (request : BorrowRequest) :
    (∃ message, borrowFromPool world request = (.error message, world)) ∨
    ∃ pool reserve healthFactor, world.pools.findOne request.poolAddress = some pool ∧
      pool.reserve request.assetMint = some reserve ∧
      calculateHealthFactor reserve request = some healthFactor ∧ 1.2 ≤ healthFactor := by
  unfold borrowFromPool
  split
  · exact .inl ⟨_, rfl⟩
  · next pool hpool =>
      cases hreserve : pool.reserve request.assetMint with
      | none => exact .inl ⟨_, rfl⟩
      | some reserve =>
          cases hhealth : calculateHealthFactor reserve request with
          | none =>
              simp only [hhealth]
              exact .inl ⟨_, rfl⟩
          | some healthFactor =>
              -- The one check of a loan: the health factor.
              by_cases hless : healthFactor < 1.2
              · simp only [hhealth, if_pos hless]
                exact .inl ⟨_, rfl⟩
              · exact .inr ⟨pool, reserve, healthFactor, hpool, hreserve, hhealth,
                  not_lt.mp hless⟩

theorem borrowFromPool_eq {request : BorrowRequest} {healthFactor : ℚ}
    (hpool : world.pools.findOne request.poolAddress = some pool)
    (hreserve : pool.reserve request.assetMint = some reserve)
    (hhealth : calculateHealthFactor reserve request = some healthFactor)
    (henough : 1.2 ≤ healthFactor) :
    ∃ position, Opening request.toSupplyRequest pool .BORROW position ∧
      borrowFromPool world request =
        openPosition world request.toSupplyRequest pool position := by
  rw [borrowFromPool, hpool]
  simp only [hreserve, hhealth, if_neg henough.not_gt]
  exact ⟨_, ⟨rfl, rfl, rfl, rfl, rfl⟩, rfl⟩

/-! ### Repaying and withdrawing -/

/-- What a request to take from a position finds when it is not refused. -/
structure Reducing (positionType : PositionType) (world : World) (request : ReduceRequest)
    (position : LendingPosition) (pool : LendingPool) : Prop where
  found : world.positions[request.positionId]? = some position
  ofType : position.positionType = positionType
  owned : request.userKeypair = .ok position.userAddress
  pooled : world.pools.findOne position.poolAddress = some pool
  accepted : ∃ signature, request.invocation = .ok signature

variable {positionType : PositionType} {wrongType : String} {request : ReduceRequest}
  {position : LendingPosition}

theorem reducePosition_cases (positionType : PositionType) (wrongType : String) (world : World)
    (request : ReduceRequest) :
    (∃ message, reducePosition positionType wrongType world request = (.error message, world)) ∨
    ∃ position pool, Reducing positionType world request position pool := by
  unfold reducePosition
  split
  · exact .inl ⟨_, rfl⟩
  · next position hposition =>
      -- The checks in the order the service makes them.
      by_cases htype : position.positionType = positionType
      · simp only [htype, ne_eq, not_true_eq_false, if_false]
        split
        · exact .inl ⟨_, rfl⟩
        · next userAddress hkeypair =>
            by_cases howner : position.userAddress = userAddress
            · subst howner
              simp only [not_true_eq_false, if_false]
              split
              · exact .inl ⟨_, rfl⟩
              · exact .inl ⟨_, rfl⟩
              · next pool signature hpool hinvocation =>
                  exact .inr ⟨position, pool, hposition, htype, hkeypair, hpool,
                    ⟨_, hinvocation⟩⟩
            · simp only [howner, not_false_eq_true, if_true]
              exact .inl ⟨_, rfl⟩
      · simp only [ne_eq, htype, not_false_eq_true, if_true]
        exact .inl ⟨_, rfl⟩

theorem reducePosition_eq (h : Reducing positionType world request position pool)
    (hreserve : pool.reserve position.assetMint = some reserve) :
    reducePosition positionType wrongType world request =
      (.ok (position.less request.amount), {
        pools := world.pools.save (pool.move position.assetMint positionType (-request.amount))
        positions := world.positions.set request.positionId (position.less request.amount) }) := by
  rcases h.accepted with ⟨signature, hinvocation⟩
  rw [reducePosition, h.found]
  simp only [h.ofType, h.owned, h.pooled, hinvocation, hreserve, ne_eq,
    not_true_eq_false, if_false, Option.isSome_some, if_true]

/-- The reserve of a position that is taken from. -/
theorem Sound.exists_reserve (h : Sound start world)
    (hreducing : Reducing positionType world request position pool) :
    ∃ reserve, pool.reserve position.assetMint = some reserve ∧
      position.amount ≤ reserve.liquidity positionType := by
  have hmem := List.mem_of_getElem? hreducing.found
  have hsome := h.reserves position hmem
  rcases Option.isSome_iff_exists.mp hsome with ⟨reserve, hreserve⟩
  have hle := h.amount_le hmem hreserve
  rw [reserveOf_eq hreducing.pooled] at hreserve
  exact ⟨reserve, hreserve, hreducing.ofType ▸ hle⟩

/-- Taking no more than a position holds keeps the accounts, if the reserve stays
    solvent. -/
theorem sound_reducePosition (h : Sound start world)
    (hreducing : Reducing positionType world request position pool)
    (hreserve : pool.reserve position.assetMint = some reserve) (hpos : 0 < request.amount)
    (hle : request.amount ≤ position.amount)
    (hmoved : (reserve.move positionType (-request.amount)).Solvent) :
    Sound start (reducePosition positionType wrongType world request).2 := by
  have hwhole := h.whole position (List.mem_of_getElem? hreducing.found)
  have hless := LendingPosition.whole_less hwhole hpos hle
  rw [reducePosition_eq hreducing hreserve]
  apply sound_move h hreducing.pooled hreserve hmoved
  · intro p hp
    rcases List.mem_or_eq_of_mem_set hp with hp | rfl
    · exact h.whole p hp
    · exact hless
  · intro p hp
    rcases List.mem_or_eq_of_mem_set hp with hp | rfl
    · exact h.reserves p hp
    · exact h.reserves position (List.mem_of_getElem? hreducing.found)
  · -- What leaves the position is what leaves the reserve.
    intro other address mint
    rw [activeAmounts, sum_map_set hreducing.found, LendingPosition.activeAmount_less hwhole hless,
      hreducing.ofType, activeAmounts]
    ring
  · intro other address
    rw [amounts, sum_map_set hreducing.found, LendingPosition.amountIn_less, hreducing.ofType,
      amounts]
    ring

/-- A call that takes more than the position holds, or from a closed one, is not
    faithful. -/
theorem Faithful.le (h : Sound start world) {call : LendingCall}
    (hcall : call.reduces = some request)
    (hstep : step world call = reducePosition positionType wrongType world request)
    (hreducing : Reducing positionType world request position pool)
    (hfaithful : Faithful start call world (step world call).1 (step world call).2) :
    request.amount ≤ position.amount := by
  rcases h.exists_reserve hreducing with ⟨reserve, hreserve, -⟩
  refine (hfaithful.reduced request position (position.less request.amount) hcall ?_
    hreducing.found).1
  rw [hstep, reducePosition_eq hreducing hreserve]

/-! ### Runs -/

/-- The amount of the call is positive, as its request class demands. -/
def LendingCall.Positive : LendingCall → Prop
  | .supplyToPool request => 0 < request.amount
  | .borrowFromPool request => 0 < request.amount
  | .repayBorrow request | .withdrawSupply request => 0 < request.amount

/-- A position that is recorded goes through, and no more is borrowed than is
    supplied. No more is repaid or withdrawn than the position holds, and no more
    withdrawn than is not borrowed. -/
def LendingCall.Backed (call : LendingCall) (world : World) : Prop :=
  match call with
  -- A supply that is not accepted would leave a closed position with its amount.
  | .supplyToPool request =>
    ∀ pool reserve, world.pools.findOne request.poolAddress = some pool →
      pool.reserve request.assetMint = some reserve → request.GoesThrough
  | .borrowFromPool request =>
    ∀ pool reserve healthFactor, world.pools.findOne request.poolAddress = some pool →
      pool.reserve request.assetMint = some reserve →
      calculateHealthFactor reserve request = some healthFactor → 1.2 ≤ healthFactor →
      request.GoesThrough ∧
        reserve.liquidityBorrowed + request.amount ≤ reserve.liquiditySupply
  -- What is repaid of a position was borrowed from the reserve.
  | .repayBorrow request =>
    ∀ position pool, Reducing .BORROW world request position pool →
      request.amount ≤ position.amount
  | .withdrawSupply request =>
    ∀ position pool reserve, Reducing .SUPPLY world request position pool →
      pool.reserve position.assetMint = some reserve → request.amount ≤ position.amount ∧
        reserve.liquidityBorrowed + request.amount ≤ reserve.liquiditySupply

theorem solvent_reserve {poolAddress assetMint : String} (h : Sound start world)
    (hpool : world.pools.findOne poolAddress = some pool)
    (hreserve : pool.reserve assetMint = some reserve) : reserve.Solvent :=
  h.solvent pool (Table.mem_of_findOne hpool) reserve (List.mem_of_find?_eq_some hreserve)

/-- Calls that are backed keep the accounts. -/
theorem sound_step {call : LendingCall} (hpos : call.Positive) (h : Sound start world)
    (hbacked : call.Backed world) : Sound start (step world call).2 := by
  cases call with
  | supplyToPool request =>
      rcases supplyToPool_cases world request with ⟨message, hrefused⟩
        | ⟨pool, reserve, hpool, hreserve⟩
      · simp only [step, hrefused]
        exact h
      · rcases supplyToPool_eq hpool hreserve with ⟨position, hopening, hsupply⟩
        have hsolvent := solvent_reserve h hpool hreserve
        rw [step, hsupply]
        refine sound_openPosition h hpool hreserve hopening hpos
          (hbacked pool reserve hpool hreserve)
          ⟨hsolvent.1, ?_⟩
        -- Supplying makes room.
        exact hsolvent.2.trans (le_add_of_nonneg_right (le_of_lt hpos))
  | borrowFromPool request =>
      rcases borrowFromPool_cases world request with
        ⟨message, hrefused⟩ | ⟨pool, reserve, healthFactor, hpool, hreserve, hhealth, henough⟩
      · simp only [step, hrefused]
        exact h
      · rcases borrowFromPool_eq hpool hreserve hhealth henough with ⟨position, hopening, hborrow⟩
        have hcover := hbacked pool reserve healthFactor hpool hreserve hhealth henough
        have hsolvent := solvent_reserve h hpool hreserve
        rw [step, hborrow]
        exact sound_openPosition h hpool hreserve hopening hpos hcover.1
          ⟨add_nonneg hsolvent.1 (le_of_lt hpos), hcover.2⟩
  | repayBorrow request =>
      rcases reducePosition_cases .BORROW "Position is not a borrow position" world request with
        ⟨message, hrefused⟩ | ⟨position, pool, hreducing⟩
      · simp only [step, repayBorrow, hrefused]
        exact h
      · have hle := hbacked position pool hreducing
        rcases h.exists_reserve hreducing with ⟨reserve, hreserve, hheld⟩
        have hsolvent := solvent_reserve h hreducing.pooled hreserve
        refine sound_reducePosition h hreducing hreserve hpos hle ⟨?_, ?_⟩
        · -- A position is part of what was borrowed.
          have : request.amount ≤ reserve.liquidityBorrowed := hle.trans hheld
          simp only [Reserve.move]
          linarith
        · have : 0 < request.amount := hpos
          have := hsolvent.2
          simp only [Reserve.move]
          linarith
  | withdrawSupply request =>
      rcases reducePosition_cases .SUPPLY "Position is not a supply position" world request with
        ⟨message, hrefused⟩ | ⟨position, pool, hreducing⟩
      · simp only [step, withdrawSupply, hrefused]
        exact h
      · rcases h.exists_reserve hreducing with ⟨reserve, hreserve, -⟩
        have hcover := hbacked position pool reserve hreducing hreserve
        have hsolvent := solvent_reserve h hreducing.pooled hreserve
        refine sound_reducePosition h hreducing hreserve hpos hcover.1 ⟨hsolvent.1, ?_⟩
        have := hcover.2
        simp only [Reserve.move]
        linarith

/-- Positions are given no more than they hold by calls that are backed. -/
theorem reduced_of_backed {call : LendingCall} (hpos : call.Positive) (h : Sound start world)
    (hbacked : call.Backed world) (position' : LendingPosition)
    (hcall : call.reduces = some request) (hanswer : (step world call).1 = .ok position')
    (hposition : world.positions[request.positionId]? = some position) :
    request.amount ≤ position.amount ∧ position.status ≠ .CLOSED := by
  -- A closed position holds nothing, so nothing positive is taken from it.
  have hopen : 0 < request.amount → request.amount ≤ position.amount →
      position.status ≠ .CLOSED := by
    intro hpos hle hclosed
    rcases (h.whole position (List.mem_of_getElem? hposition)).held with hactive | hnone
    · rw [hactive.1] at hclosed
      exact PositionStatus.noConfusion hclosed
    · exact absurd (hpos.trans_le hle) hnone.2.not_gt
  cases call with
  | supplyToPool => exact nomatch hcall
  | borrowFromPool => exact nomatch hcall
  | repayBorrow request' =>
      cases hcall
      rcases reducePosition_cases .BORROW "Position is not a borrow position" world request with
        ⟨message, hrefused⟩ | ⟨position₁, pool, hreducing⟩
      · simp only [step, repayBorrow, hrefused] at hanswer
        exact nomatch hanswer
      · cases hreducing.found.symm.trans hposition
        have hle := hbacked position pool hreducing
        exact ⟨hle, hopen hpos hle⟩
  | withdrawSupply request' =>
      cases hcall
      rcases reducePosition_cases .SUPPLY "Position is not a supply position" world request with
        ⟨message, hrefused⟩ | ⟨position₁, pool, hreducing⟩
      · simp only [step, withdrawSupply, hrefused] at hanswer
        exact nomatch hanswer
      · cases hreducing.found.symm.trans hposition
        rcases h.exists_reserve hreducing with ⟨reserve, hreserve, -⟩
        have hle := (hbacked position pool reserve hreducing hreserve).1
        exact ⟨hle, hopen hpos hle⟩

/-- Calls that keep the accounts are backed. -/
theorem backed_of_faithful {call : LendingCall} (hpos : call.Positive) (h : Sound start world)
    (hfaithful : Faithful start call world (step world call).1 (step world call).2) :
    call.Backed world := by
  have hbalanced := hfaithful.balanced
  cases call with
  | supplyToPool request =>
      intro pool reserve hpool hreserve
      rcases supplyToPool_eq hpool hreserve with ⟨position, hopening, hsupply⟩
      rw [step, hsupply] at hbalanced
      exact (goesThrough_of_balanced h hpool hreserve hopening hpos hbalanced).1
  | borrowFromPool request =>
      intro pool reserve healthFactor hpool hreserve hhealth henough
      rcases borrowFromPool_eq hpool hreserve hhealth henough with ⟨position, hopening, hborrow⟩
      rw [step, hborrow] at hbalanced
      have hthrough := goesThrough_of_balanced h hpool hreserve hopening hpos hbalanced
      exact ⟨hthrough.1, hthrough.2.2⟩
  | repayBorrow request =>
      intro position pool hreducing
      exact hfaithful.le h rfl rfl hreducing
  | withdrawSupply request =>
      intro position pool reserve hreducing hreserve
      refine ⟨hfaithful.le h rfl rfl hreducing, ?_⟩
      have hsolvent := hbalanced.solvent
      rw [step, withdrawSupply, reducePosition_eq hreducing hreserve] at hsolvent
      -- The reserve as it was saved is solvent.
      have hmoved : (reserve.move .SUPPLY (-request.amount)).Solvent := by
        apply solvent_reserveOf position.poolAddress hsolvent
        rw [reserveOf_move hreducing.pooled, reserveOf_eq hreducing.pooled, hreserve]
        simp only [and_self, if_true, Option.map_some]
      have := hmoved.2
      simp only [Reserve.move] at this
      linarith

/-- Solvent reserves, and no positions. -/
structure World.Fresh (world : World) : Prop where
  solvent : Solvent world.pools
  positions : world.positions = []

theorem World.Fresh.sound (h : world.Fresh) : Sound world.pools world where
  began := h.solvent
  solvent := h.solvent
  whole position hposition := by
    rw [h.positions] at hposition
    exact absurd hposition List.not_mem_nil
  reserves position hposition := by
    rw [h.positions] at hposition
    exact absurd hposition List.not_mem_nil
  held positionType poolAddress assetMint := by
    rw [h.positions, sub_self]
    rfl
  totals positionType poolAddress := by
    rw [h.positions, sub_self]
    rfl

/-- All calls of a run are faithful exactly when all of them are backed. -/
theorem faithful_iff {calls : List LendingCall} (hworld : world.Fresh)
    (hcalls : ∀ call ∈ calls, call.Positive) :
    Along step (Faithful world.pools) calls world ↔
      Along step (fun call before _ _ => call.Backed before) calls world := by
  apply along_iff_of_mem (I := Sound world.pools) _ _ hworld.sound hcalls
  · intro call before hpos h
    constructor
    · exact backed_of_faithful hpos h
    · intro hbacked
      exact ⟨(sound_step hpos h hbacked).balanced,
        fun _ _ position' hcall hanswer hposition =>
          reduced_of_backed hpos h hbacked position' hcall hanswer hposition⟩
  · intro call before hpos h hbacked
    exact sound_step hpos h hbacked

end

/-- A pool with one reserve, of which a quarter is borrowed. -/
def sampleWorld : World :=
  { pools := Table.empty.save
      { poolAddress := "pool"
        reserves := [{ assetMint := "usdc", liquiditySupply := 1000, liquidityBorrowed := 250,
                       ltvRatio := 0 }] } }

theorem sampleWorld_fresh : sampleWorld.Fresh where
  solvent := by
    have hall : ∀ pool ∈ sampleWorld.pools.rows, ∀ reserve ∈ pool.reserves,
        0 ≤ reserve.liquidityBorrowed ∧ reserve.liquidityBorrowed ≤ reserve.liquiditySupply := by
      decide +kernel
    exact hall
  positions := rfl

/-- What is supplied, and what is then withdrawn. -/
def sampleCalls (supplied withdrawn : ℚ) : List LendingCall :=
  [.supplyToPool
    { poolAddress := "pool", assetMint := "usdc", amount := supplied,
      invocation := .ok "signature", userKeypair := .ok "user" },
   .withdrawSupply
    { userKeypair := .ok "user", positionId := 0, amount := withdrawn,
      invocation := .ok "signature" }]

theorem sampleCalls_positive {supplied withdrawn : ℚ} (hsupplied : 0 < supplied)
    (hwithdrawn : 0 < withdrawn) : ∀ call ∈ sampleCalls supplied withdrawn, call.Positive := by
  intro call hcall
  rcases List.mem_pair.mp hcall with rfl | rfl
  · exact hsupplied
  · exact hwithdrawn

theorem sampleCalls_faithful_iff :
    Along step (Faithful sampleWorld.pools) (sampleCalls 100 100) sampleWorld ↔
      Along step (fun call before _ _ => call.Backed before) (sampleCalls 100 100) sampleWorld :=
  faithful_iff sampleWorld_fresh (sampleCalls_positive (by norm_num) (by norm_num))

/-- The position that is supplied. -/
def samplePosition : LendingPosition :=
  { poolAddress := "pool", userAddress := "user", positionType := .SUPPLY, assetMint := "usdc",
    amount := 100, status := .ACTIVE }

/-- Twice what was supplied can be withdrawn. -/
theorem not_faithful :
    ¬Along step (Faithful sampleWorld.pools) (sampleCalls 100 200) sampleWorld := by
  intro h
  have hle := (h.2.1.reduced _ samplePosition (samplePosition.less 200) rfl (by decide +kernel)
    (by decide +kernel)).1
  revert hle
  decide +kernel

end Lending

end Cpi

end SvmCourse
