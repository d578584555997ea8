import Mathlib.Algebra.BigOperators.Group.List.Basic
import SvmCourse.Cpi.Swaps

/-!
# Liquidity Is Accounted For

A position holds a share of its pool and the amounts it may still take out. All
three shrink by the same factor when a percentage is removed, so a position that
never removed more than all of it holds either some of everything, or nothing
and is no longer active.

The service checks neither that a percentage is at most a hundred, nor that the
pool still has what a position once put in, nor that the shares leave room for a
deposit. What it would have to check is exactly what the accounts need.

## Main definitions

* `Flow`, `Book`, `record`: The service, with what went in and came out.
* `activeShares`: The shares of the active positions in a pool.
* `Accounted`: Reserves, shares, positions and flows are in order.
* `DexCall.Positive`: What is put in, taken out or sold is positive.
* `DexCall.Covered`: What the service would have to check.

## Theorems

* `whole_without`: A position without a percentage of it.
* `sound_record`: Calls that are covered keep the books.
* `covered_of_accounted`: Calls that keep the books are covered.
* `accounted_iff`: The books are in order exactly when all calls are covered.
-/

namespace SvmCourse

namespace Cpi

namespace Dex

open Core Core.Machine

/-! ### Books -/

/-- What a position put into a token's reserve, and what it took out. -/
structure Flow where
  put : ℚ := 0
  taken : ℚ := 0

/-- What went in and out, position by position and token by token. -/
abbrev Flows := Nat → PoolToken → Flow

/-- The balance of a token in a pool, and nothing where there is no pool. -/
def World.balanceAt (world : World) (poolAddress : String) (token : PoolToken) : ℚ :=
  ((world.pools.findOne poolAddress).map fun pool => pool.balance token).getD 0

/-- The flows after a call, read off the reserves before and after it. -/
def Flows.noted (flows : Flows) (call : DexCall) (s t : World) : Flows :=
  match call with
  -- A swap is no flow of a position.
  | .performSwap _ => flows
  -- A deposit flows into the position that is saved next.
  | .addLiquidity request =>
    Function.update flows s.positions.length fun token =>
      { flows s.positions.length token with
        put := (flows s.positions.length token).put +
          (t.balanceAt request.poolAddress token - s.balanceAt request.poolAddress token) }
  | .removeLiquidity request =>
    match s.positions[request.positionId]? with
    | none => flows
    | some position =>
      Function.update flows request.positionId fun token =>
        { flows request.positionId token with
          taken := (flows request.positionId token).taken +
            (s.balanceAt position.poolAddress token - t.balanceAt position.poolAddress token) }

/-- The tables, and what went in and out of every position. -/
structure Book where
  world : World
  flows : Flows := fun _ _ => {}

/-- The service, with the flows. -/
def record (book : Book) (call : DexCall) : DexAnswer × Book :=
  let (answer, world) := step book.world call
  (answer, { world, flows := book.flows.noted call book.world world })

/-- A call that changes nothing moves nothing. -/
theorem Flows.noted_self (flows : Flows) (call : DexCall) (s : World) :
    flows.noted call s s = flows := by
  cases call with
  | performSwap => rfl
  | addLiquidity request =>
      simp only [noted, sub_self, add_zero]
      exact Function.update_eq_self ..
  | removeLiquidity request =>
      simp only [noted]
      -- A withdrawal from a position that there is none of notes nothing.
      cases s.positions[request.positionId]? with
      | none => rfl
      | some position =>
          simp only [sub_self, add_zero]
          exact Function.update_eq_self ..

/-! ### Positions -/

namespace DexLiquidityPosition

/-- The amount of a token in a position. -/
def amount (position : DexLiquidityPosition) : PoolToken → ℚ
  | .A => position.tokenAAmount
  | .B => position.tokenBAmount

/-- The share of a position in a pool, if it is active there. -/
def shareIn (poolAddress : String) (position : DexLiquidityPosition) : ℚ :=
  if position.poolAddress = poolAddress ∧ position.isActive = true then position.liquidityShares
  else 0

/-- A position that is active holds some of everything, and one that is not
    holds nothing. -/
structure Whole (position : DexLiquidityPosition) : Prop where
  active : position.isActive = true →
    0 < position.tokenAAmount ∧ 0 < position.tokenBAmount ∧ 0 < position.liquidityShares
  inactive : position.isActive = false →
    position.tokenAAmount = 0 ∧ position.tokenBAmount = 0 ∧ position.liquidityShares = 0

variable {position : DexLiquidityPosition} {percentage : ℚ}

theorem Whole.active_iff (h : position.Whole) :
    position.isActive = true ↔ 0 < position.liquidityShares := by
  constructor
  · exact fun hactive => (h.active hactive).2.2
  · intro hpos
    by_contra hnot
    exact hpos.ne' (h.inactive (Bool.eq_false_iff.mpr hnot)).2.2

theorem Whole.amount_nonneg (h : position.Whole) (token : PoolToken) :
    0 ≤ position.amount token := by
  cases hactive : position.isActive with
  | true =>
      have := h.active hactive
      cases token
      · exact this.1.le
      · exact this.2.1.le
  | false =>
      have := h.inactive hactive
      cases token
      · exact this.1.ge
      · exact this.2.1.ge

theorem Whole.share_nonneg (h : position.Whole) : 0 ≤ position.liquidityShares := by
  cases hactive : position.isActive with
  | true => exact (h.active hactive).2.2.le
  | false => exact (h.inactive hactive).2.2.ge

theorem amount_without (position : DexLiquidityPosition) (percentage : ℚ) (token : PoolToken) :
    (position.without percentage).amount token =
      position.amount token - position.amount token * percentage / 100 := by
  cases token <;> rfl

theorem sub_percentage (a percentage : ℚ) :
    a - a * percentage / 100 = a * (1 - percentage / 100) := by ring

/-- Less than all of it leaves some. -/
theorem part_pos {a : ℚ} (ha : 0 < a) (hpart : percentage < 100) :
    0 < a - a * percentage / 100 := by
  have hfactor : 0 < 1 - percentage / 100 := by linarith
  rw [sub_percentage]
  exact mul_pos ha hfactor

/-- Of nothing, or without all of it, nothing is left. -/
theorem part_zero {a : ℚ} (h : a = 0 ∨ percentage = 100) : a - a * percentage / 100 = 0 := by
  rcases h with rfl | rfl
  · ring
  · ring

/-- A position without anything in it is not active. -/
theorem whole_of_zero (hA : position.tokenAAmount = 0) (hB : position.tokenBAmount = 0)
    (hshares : position.liquidityShares = 0) (hactive : position.isActive = false) :
    position.Whole where
  active h := absurd (h.symm.trans hactive) (Ne.symm Bool.false_ne_true)
  inactive _ := ⟨hA, hB, hshares⟩

theorem whole_of_pos (hA : 0 < position.tokenAAmount) (hB : 0 < position.tokenBAmount)
    (hshares : 0 < position.liquidityShares) (hactive : position.isActive = true) :
    position.Whole where
  active _ := ⟨hA, hB, hshares⟩
  inactive h := absurd (h.symm.trans hactive) Bool.false_ne_true

/-- Without at most all of it, a position is active as long as some is left. -/
theorem whole_without (h : position.Whole)
    (hpercentage : position.isActive = true → percentage ≤ 100) :
    (position.without percentage).Whole := by
  cases hactive : position.isActive with
  | false =>
      have hnone := h.inactive hactive
      refine whole_of_zero (part_zero (.inl hnone.1)) (part_zero (.inl hnone.2.1))
        (part_zero (.inl hnone.2.2)) ?_
      simp only [without, hactive, ite_self]
  | true =>
      have hsome := h.active hactive
      rcases (hpercentage hactive).eq_or_lt with hall | hpart
      · -- Everything is removed.
        refine whole_of_zero (part_zero (.inr hall)) (part_zero (.inr hall))
          (part_zero (.inr hall)) ?_
        simp only [without, part_zero (.inr hall), le_refl, if_true]
      · -- Something is left of all three.
        have hshares := part_pos hsome.2.2 hpart
        refine whole_of_pos (part_pos hsome.1 hpart) (part_pos hsome.2.1 hpart) hshares ?_
        simp only [without, if_neg hshares.not_ge, hactive]

/-- Removing does not make a share larger. -/
theorem shareIn_without_le (h : position.Whole) (hpos : 0 < percentage) (poolAddress : String) :
    (position.without percentage).shareIn poolAddress ≤ position.shareIn poolAddress := by
  have hless : position.liquidityShares - position.liquidityShares * percentage / 100 ≤
      position.liquidityShares := by
    have := mul_nonneg h.share_nonneg hpos.le
    linarith
  unfold shareIn
  -- A share in another pool is zero before and after.
  by_cases hhere : position.poolAddress = poolAddress
  · cases hactive : position.isActive with
    | true =>
        rw [if_pos (⟨hhere, rfl⟩ : _ ∧ true = true)]
        split
        · exact hless
        · exact h.share_nonneg
    | false =>
        have hstill : ¬((position.without percentage).poolAddress = poolAddress ∧
            (position.without percentage).isActive = true) := by
          simp only [without, hactive, ite_self, Bool.false_eq_true, and_false, not_false_eq_true]
        rw [if_neg hstill]
        simp only [Bool.false_eq_true, and_false, if_false, le_refl]
  · rw [if_neg fun hc => hhere hc.1, if_neg fun hc => hhere hc.1]

end DexLiquidityPosition

/-- The shares of all active positions in a pool. -/
def activeShares (positions : List DexLiquidityPosition) (poolAddress : String) : ℚ :=
  (positions.map (DexLiquidityPosition.shareIn poolAddress)).sum

theorem activeShares_append (positions : List DexLiquidityPosition)
    (position : DexLiquidityPosition) (poolAddress : String) :
    activeShares (positions ++ [position]) poolAddress =
      activeShares positions poolAddress + position.shareIn poolAddress := by
  simp only [activeShares, List.map_append, List.map_singleton, List.sum_append,
    List.sum_singleton]

theorem activeShares_set {positions : List DexLiquidityPosition} {id : Nat}
    {position : DexLiquidityPosition} (h : positions[id]? = some position)
    (position' : DexLiquidityPosition) (poolAddress : String) :
    activeShares (positions.set id position') poolAddress =
      activeShares positions poolAddress - position.shareIn poolAddress +
        position'.shareIn poolAddress :=
  sum_map_set h position' _

/-- A position changes the shares in its own pool only. -/
theorem activeShares_append_of_ne (positions : List DexLiquidityPosition)
    {position : DexLiquidityPosition} {poolAddress : String}
    (hne : position.poolAddress ≠ poolAddress) :
    activeShares (positions ++ [position]) poolAddress = activeShares positions poolAddress := by
  rw [activeShares_append, DexLiquidityPosition.shareIn, if_neg fun h => hne h.1, add_zero]

/-! ### Accounts -/

/-- Reserves, shares, positions and flows are in order. -/
structure Accounted (book : Book) : Prop where
  reserves : ∀ pool ∈ book.world.pools.rows, ∀ token, 0 ≤ pool.balance token
  shares : ∀ pool ∈ book.world.pools.rows,
    activeShares book.world.positions pool.poolAddress ≤ 100
  active : ∀ position ∈ book.world.positions,
    position.isActive = true ↔ 0 < position.liquidityShares
  taken : ∀ id token, (book.flows id token).taken ≤ (book.flows id token).put

/-- What keeps the books in order: a position can take out what it put in, less
    what it took. -/
structure Sound (book : Book) : Prop where
  reserves : ∀ pool ∈ book.world.pools.rows, ∀ token, 0 ≤ pool.balance token
  rates : ∀ pool ∈ book.world.pools.rows, 0 < pool.rate ∧ pool.rate < 1
  shares : ∀ pool ∈ book.world.pools.rows,
    activeShares book.world.positions pool.poolAddress ≤ 100
  whole : ∀ position ∈ book.world.positions, position.Whole
  flows : ∀ id position, book.world.positions[id]? = some position → ∀ token,
    (book.flows id token).put - (book.flows id token).taken = position.amount token
  rest : ∀ id, book.world.positions[id]? = none → book.flows id = fun _ => {}

/-- A new position starts with flows of its own. -/
theorem flows_append {positions : List DexLiquidityPosition} {flows : Flows}
    (h : ∀ id position, positions[id]? = some position → ∀ token,
      (flows id token).put - (flows id token).taken = position.amount token)
    {position : DexLiquidityPosition} {flow : PoolToken → Flow}
    (hnew : ∀ token, (flow token).put - (flow token).taken = position.amount token) (id : Nat)
    (p : DexLiquidityPosition) (hp : (positions ++ [position])[id]? = some p) (token : PoolToken) :
    (Function.update flows positions.length flow id token).put -
      (Function.update flows positions.length flow id token).taken = p.amount token := by
  by_cases hid : id = positions.length
  · subst hid
    rw [List.getElem?_concat_length] at hp
    cases hp
    rw [Function.update_self]
    exact hnew token
  · -- An older position keeps its place, and its flows.
    have hlt : id < positions.length := by
      have := (List.getElem?_eq_some_iff.mp hp).1
      rw [List.length_append, List.length_singleton] at this
      omega
    rw [List.getElem?_append_left hlt] at hp
    rw [Function.update_of_ne hid]
    exact h id p hp token

/-- A position that changes changes its own flows. -/
theorem flows_set {positions : List DexLiquidityPosition} {flows : Flows}
    (h : ∀ id position, positions[id]? = some position → ∀ token,
      (flows id token).put - (flows id token).taken = position.amount token)
    {i : Nat} {position : DexLiquidityPosition} {flow : PoolToken → Flow}
    (hlt : i < positions.length)
    (hnew : ∀ token, (flow token).put - (flow token).taken = position.amount token) (id : Nat)
    (p : DexLiquidityPosition) (hp : (positions.set i position)[id]? = some p)
    (token : PoolToken) :
    (Function.update flows i flow id token).put - (Function.update flows i flow id token).taken =
      p.amount token := by
  by_cases hid : id = i
  · subst hid
    rw [List.getElem?_set_self hlt] at hp
    cases hp
    rw [Function.update_self]
    exact hnew token
  · -- Another position keeps its flows.
    rw [List.getElem?_set_ne (Ne.symm hid)] at hp
    rw [Function.update_of_ne hid]
    exact h id p hp token

theorem Sound.accounted {book : Book} (h : Sound book) : Accounted book where
  reserves := h.reserves
  shares := h.shares
  active position hposition := (h.whole position hposition).active_iff
  taken id token := by
    cases hid : book.world.positions[id]? with
    | none => rw [h.rest id hid]
    | some position =>
        have hleft := (h.whole position (List.mem_of_getElem? hid)).amount_nonneg token
        rw [← h.flows id position hid token] at hleft
        exact sub_nonneg.mp hleft

/-- What a call puts in, takes out or sells is positive. -/
def DexCall.Positive : DexCall → Prop
  | .performSwap request => 0 < request.amountIn
  | .addLiquidity request => 0 < request.tokenAAmount ∧ 0 < request.tokenBAmount
  | .removeLiquidity request => 0 < request.percentage

/-- The shares leave room for what is added. What is removed is at most all of
    the position, if it is active, and is still in the reserves. -/
def DexCall.Covered (call : DexCall) (world : World) : Prop :=
  match call with
  -- Swaps need no condition.
  | .performSwap _ => True
  | .addLiquidity request =>
    ∀ pool ownerAddress, world.pools.findOne request.poolAddress = some pool →
      request.userKeypair = .ok ownerAddress → pool.tokenABalance + pool.tokenBBalance ≠ 0 →
      activeShares world.positions pool.poolAddress +
        (request.tokenAAmount + request.tokenBAmount) /
          (pool.tokenABalance + pool.tokenBBalance) * 100 ≤ 100
  | .removeLiquidity request =>
    ∀ position pool, world.positions[request.positionId]? = some position →
      request.userKeypair = .ok position.ownerAddress →
      world.pools.findOne position.poolAddress = some pool →
      (position.isActive = true → request.percentage ≤ 100) ∧
        ∀ token, position.amount token * request.percentage / 100 ≤ pool.balance token

theorem balanceAt_of_findOne {world : World} {poolAddress : String} {pool : DexPool}
    (h : world.pools.findOne poolAddress = some pool) (token : PoolToken) :
    world.balanceAt poolAddress token = pool.balance token := by
  rw [World.balanceAt, h]
  rfl

/-- The reserve of a pool that was saved under its address. -/
theorem balanceAt_save {world : World} {pool : DexPool} {poolAddress : String}
    {positions : List DexLiquidityPosition} (h : pool.poolAddress = poolAddress)
    (token : PoolToken) :
    World.balanceAt { world with pools := world.pools.save pool, positions := positions }
      poolAddress token = pool.balance token := by
  subst h
  exact balanceAt_of_findOne (Table.findOne_save_self ..) token

/-- What a save puts in order. -/
theorem forall_mem_save {P : DexPool → Prop} {pools : Table DexPool.poolAddress} {pool : DexPool}
    (h : ∀ p ∈ pools.rows, P p) (hpool : P pool) : ∀ p ∈ (pools.save pool).rows, P p := by
  intro p hp
  rcases Table.mem_save.mp hp with rfl | ⟨hmem, -⟩
  · exact hpool
  · exact h p hmem

/-! ### Swaps -/

section

variable {book : Book}

theorem balance_afterSwap_nonneg {pool : DexPool} {amountIn amountOut slippage : ℚ}
    {direction : SwapDirection} (hpool : ∀ token, 0 ≤ pool.balance token)
    (hrate : 0 < pool.rate ∧ pool.rate < 1) (ha : 0 < amountIn)
    (hout : amountOut = (calculateSwapAmount pool amountIn direction slippage).amountOut)
    (token : PoolToken) :
    0 ≤ (pool.afterSwap direction amountIn amountOut).balance token := by
  rw [amountOut_eq] at hout
  have hkept : 0 < 1 - pool.rate := sub_pos.mpr hrate.2
  have hA := hpool .A
  have hB := hpool .B
  -- What goes out is less than what there is, in either direction.
  cases direction
  · have hle := ConstantProduct.output_le hA hB hkept ha
    cases token
    · exact add_nonneg hA ha.le
    · exact sub_nonneg.mpr (hout.trans_le hle)
  · have hle := ConstantProduct.output_le hB hA hkept ha
    cases token
    · exact sub_nonneg.mpr (hout.trans_le hle)
    · exact add_nonneg hB ha.le

/-- A swap keeps the books, whatever comes of it. -/
theorem sound_performSwap {request : SwapRequest} (h : Sound book)
    (hpos : (DexCall.performSwap request).Positive) :
    Sound (record book (.performSwap request)).2 := by
  rcases performSwap_cases book.world request with
    ⟨message, swaps, hfailed⟩ | ⟨pool, swap, swaps, hpool, haddress, hdir, hin, hout, hmade⟩
  · -- A failed swap saves rows of swaps only.
    simp only [record, step, hfailed, Flows.noted]
    exact ⟨h.reserves, h.rates, h.shares, h.whole, h.flows, h.rest⟩
  · -- A swap changes the reserves, and no position.
    simp only [record, step, hmade, Flows.noted]
    have hmem := Table.mem_of_findOne hpool
    refine ⟨?_, ?_, ?_, h.whole, h.flows, h.rest⟩
    · rw [hin]
      exact forall_mem_save h.reserves
        (balance_afterSwap_nonneg (h.reserves pool hmem) (h.rates pool hmem) hpos hout)
    · refine forall_mem_save h.rates ?_
      rw [DexPool.afterSwap_rate]
      exact h.rates pool hmem
    · refine forall_mem_save h.shares ?_
      rw [DexPool.afterSwap_poolAddress]
      exact h.shares pool hmem

/-! ### Adding -/

/-- A deposit that the shares leave room for keeps the books. -/
theorem sound_addLiquidity {request : AddLiquidityRequest} (h : Sound book)
    (hpos : (DexCall.addLiquidity request).Positive)
    (hcovered : (DexCall.addLiquidity request).Covered book.world) :
    Sound (record book (.addLiquidity request)).2 := by
  rcases addLiquidity_cases book.world request with
    ⟨message, hfailed⟩ | ⟨pool, owner, hpool, hkeypair, htotal, position, hposition, hadded⟩
  · simp only [record, step, hfailed, Flows.noted_self]
    exact h
  · have hroom := hcovered pool owner hpool hkeypair htotal
    have hmem := Table.mem_of_findOne hpool
    have hkey := Table.key_of_findOne hpool
    have hA := h.reserves pool hmem .A
    have hB := h.reserves pool hmem .B
    -- The new share is of a total that is not zero.
    have hshare : 0 < position.liquidityShares := by
      have hsum : 0 < pool.tokenABalance + pool.tokenBBalance :=
        lt_of_le_of_ne (add_nonneg hA hB) (Ne.symm htotal)
      rw [hposition]
      have := add_pos hpos.1 hpos.2
      positivity
    simp only [record, step, hadded]
    -- In the order of `Sound`: what is new is the pool and the last position.
    refine ⟨?_, forall_mem_save h.rates (h.rates pool hmem), fun p hp => ?_,
      List.forall_mem_append.mpr ⟨h.whole, List.forall_mem_singleton.mpr ?_⟩, ?_,
      fun id hnone => ?_⟩
    · refine forall_mem_save h.reserves fun token => ?_
      cases token
      · exact add_nonneg hA hpos.1.le
      · exact add_nonneg hB hpos.2.le
    · -- The pool of the deposit has the room, another one has no new share.
      rcases Table.mem_save.mp hp with rfl | ⟨hp, hne⟩
      · rw [activeShares_append, hposition]
        simpa [DexLiquidityPosition.shareIn] using hroom
      · rw [activeShares_append_of_ne _ (by rw [hposition]; exact hne.symm)]
        exact h.shares p hp
    · rw [hposition] at hshare ⊢
      exact DexLiquidityPosition.whole_of_pos hpos.1 hpos.2 hshare rfl
    · refine flows_append h.flows fun token => ?_
      have hnew := h.rest book.world.positions.length (List.getElem?_eq_none le_rfl)
      rw [balanceAt_save (by exact hkey), balanceAt_of_findOne hpool, hnew, hposition]
      cases token <;> simp [DexPool.balance, DexLiquidityPosition.amount]
    · -- Beyond the last position nothing has flowed yet.
      rw [List.getElem?_eq_none_iff, List.length_append, List.length_singleton] at hnone
      have hid : id ≠ book.world.positions.length := by omega
      simp only [Flows.noted, Function.update_of_ne hid]
      exact h.rest id (List.getElem?_eq_none (by omega))

/-! ### Removing -/

/-- A removal that is covered keeps the books. -/
theorem sound_removeLiquidity {request : RemoveLiquidityRequest} (h : Sound book)
    (hpos : (DexCall.removeLiquidity request).Positive)
    (hcovered : (DexCall.removeLiquidity request).Covered book.world) :
    Sound (record book (.removeLiquidity request)).2 := by
  rcases removeLiquidity_cases book.world request with
    ⟨message, hfailed⟩ | ⟨position, pool, hposition, hkeypair, hpool, hremoved⟩
  · simp only [record, step, hfailed, Flows.noted_self]
    exact h
  · have hcover := hcovered position pool hposition hkeypair hpool
    have hmem := Table.mem_of_findOne hpool
    have hkey := Table.key_of_findOne hpool
    have hwhole := h.whole position (List.mem_of_getElem? hposition)
    simp only [record, step, hremoved]
    -- In the order of `Sound`: what is new is the pool and one position.
    refine ⟨?_, ?_, ?_, ?_, ?_, ?_⟩
    · refine forall_mem_save h.reserves fun token => ?_
      cases token
      · exact sub_nonneg.mpr (hcover.2 .A)
      · exact sub_nonneg.mpr (hcover.2 .B)
    · exact forall_mem_save h.rates (h.rates pool hmem)
    · -- No share gets larger, in whichever pool.
      have hless : ∀ p ∈ book.world.pools.rows, activeShares (book.world.positions.set
          request.positionId (position.without request.percentage)) p.poolAddress ≤ 100 := by
        intro p hp
        rw [activeShares_set hposition]
        have hshare := position.shareIn_without_le hwhole hpos p.poolAddress
        have hold := h.shares p hp
        linarith
      exact forall_mem_save hless (hless pool hmem)
    · intro p hp
      rcases List.mem_or_eq_of_mem_set hp with hp | rfl
      · exact h.whole p hp
      · exact position.whole_without hwhole hcover.1
    · -- What leaves the reserve is what leaves the position.
      simp only [Flows.noted, hposition]
      refine flows_set h.flows (List.getElem?_eq_some_iff.mp hposition).1 fun token => ?_
      have hflow := h.flows request.positionId position hposition token
      rw [balanceAt_save (by exact hkey), balanceAt_of_findOne hpool,
        DexLiquidityPosition.amount_without]
      cases token
      · simp only [DexPool.balance, DexLiquidityPosition.amount] at hflow ⊢
        linarith
      · simp only [DexPool.balance, DexLiquidityPosition.amount] at hflow ⊢
        linarith
    · intro id hnone
      rw [List.getElem?_eq_none_iff, List.length_set, ← List.getElem?_eq_none_iff] at hnone
      have hid : id ≠ request.positionId := by
        rintro rfl
        rw [hposition] at hnone
        cases hnone
      simp only [Flows.noted, hposition, Function.update_of_ne hid]
      exact h.rest id hnone

/-! ### Runs -/

/-- Calls that are covered keep the books. -/
theorem sound_record {call : DexCall} (hpos : call.Positive) (h : Sound book)
    (hcovered : call.Covered book.world) : Sound (record book call).2 := by
  cases call with
  | performSwap request => exact sound_performSwap h hpos
  | addLiquidity request => exact sound_addLiquidity h hpos hcovered
  | removeLiquidity request => exact sound_removeLiquidity h hpos hcovered

/-- A deposit that leaves the shares in order had room. -/
theorem covered_addLiquidity {request : AddLiquidityRequest}
    (hafter : Accounted (record book (.addLiquidity request)).2) :
    (DexCall.addLiquidity request).Covered book.world := by
  intro pool owner hpool hkeypair htotal
  rcases addLiquidity_cases book.world request with
    ⟨message, hfailed⟩ | ⟨pool', owner', hpool', hkeypair', -, position, hposition, hadded⟩
  · -- Nothing that is left to check can fail.
    simp only [addLiquidity, hpool, hkeypair, quotient, if_neg htotal] at hfailed
    cases (Prod.ext_iff.mp hfailed).1
  · rw [hpool] at hpool'
    cases hpool'
    have hshares := hafter.shares
    simp only [record, step, hadded] at hshares
    have hroom := hshares _ (Table.mem_save.mpr (Or.inl rfl))
    rw [activeShares_append, hposition] at hroom
    simpa [DexLiquidityPosition.shareIn] using hroom

/-- A removal that leaves the reserves and the flows in order was covered. -/
theorem covered_removeLiquidity {request : RemoveLiquidityRequest} (h : Sound book)
    (hafter : Accounted (record book (.removeLiquidity request)).2) :
    (DexCall.removeLiquidity request).Covered book.world := by
  intro position pool hposition hkeypair hpool
  -- Nothing that the service checks can fail any more.
  have hremoved : removeLiquidity book.world request =
      (.ok (position.without request.percentage), { book.world with
        pools := book.world.pools.save { pool with
          tokenABalance := pool.tokenABalance - position.tokenAAmount * request.percentage / 100
          tokenBBalance := pool.tokenBBalance - position.tokenBAmount * request.percentage / 100 }
        positions := book.world.positions.set request.positionId
          (position.without request.percentage) }) := by
    simp only [removeLiquidity, hposition, hkeypair, hpool, ne_eq, not_true_eq_false, if_false]
  constructor
  · intro hactive
    -- More than all of an amount is more than what was put in.
    have hamount := ((h.whole position (List.mem_of_getElem? hposition)).active hactive).1
    have hflow := h.flows request.positionId position hposition .A
    have htaken := hafter.taken request.positionId .A
    simp only [record, step, hremoved, Flows.noted, hposition, Function.update_self] at htaken
    have hkey := Table.key_of_findOne hpool
    rw [balanceAt_save (by exact hkey), balanceAt_of_findOne hpool] at htaken
    simp only [DexPool.balance, DexLiquidityPosition.amount] at htaken hflow
    have hle : position.tokenAAmount * (request.percentage / 100) ≤
        position.tokenAAmount * 1 := by linarith
    have := le_of_mul_le_mul_left hle hamount
    linarith
  · intro token
    have hreserves := hafter.reserves
    simp only [record, step, hremoved] at hreserves
    -- The reserve that was saved is not negative.
    have hleft := hreserves _ (Table.mem_save.mpr (Or.inl rfl)) token
    cases token
    · exact sub_nonneg.mp hleft
    · exact sub_nonneg.mp hleft

/-- Calls that keep the books are covered. -/
theorem covered_of_accounted {call : DexCall} (h : Sound book)
    (hafter : Accounted (record book call).2) : call.Covered book.world := by
  cases call with
  | performSwap request => exact trivial
  | addLiquidity request => exact covered_addLiquidity hafter
  | removeLiquidity request => exact covered_removeLiquidity h hafter

/-- Pools to trade with, in which nobody has a position. -/
structure World.Fresh (world : World) : Prop where
  live : ∀ pool ∈ world.pools.rows, pool.Live
  positions : world.positions = []

theorem World.Fresh.sound {world : World} (h : world.Fresh) : Sound { world } where
  reserves pool hpool token := by
    -- A fresh pool is live, and nobody holds a share of it.
    cases token
    · exact (h.live pool hpool).tokenA.le
    · exact (h.live pool hpool).tokenB.le
  rates pool hpool := ⟨(h.live pool hpool).rate_pos, (h.live pool hpool).rate_lt⟩
  shares pool _ := by
    simp only [h.positions, activeShares, List.map_nil, List.sum_nil]
    norm_num
  whole position hposition := by
    rw [h.positions] at hposition
    exact absurd hposition List.not_mem_nil
  flows id position hposition := by
    rw [h.positions] at hposition
    exact nomatch hposition
  rest _ _ := rfl

/-- The books are in order after every call exactly when every call is
    covered. -/
theorem accounted_iff {world : World} {calls : List DexCall} (hworld : world.Fresh)
    (hcalls : ∀ call ∈ calls, call.Positive) :
    Along record (fun _ _ _ after => Accounted after) calls { world } ↔
      Along record (fun call before _ _ => call.Covered before.world) calls { world } := by
  -- The books are sound up to the first call that is not covered.
  apply along_iff_of_mem (I := Sound) _ _ hworld.sound hcalls
  · intro call before hpos h
    exact ⟨covered_of_accounted h, fun hcovered => (sound_record hpos h hcovered).accounted⟩
  · intro call before hpos h hcovered
    exact sound_record hpos h hcovered

end

theorem sampleWorld_fresh : sampleWorld.Fresh where
  live := by decide +kernel
  positions := rfl

/-- What is put in, and a percentage of it taken out. -/
def sampleLiquidity (percentage : ℚ) : List DexCall :=
  [.addLiquidity
    { poolAddress := "pool", userKeypair := .ok "user", tokenAAmount := 100, tokenBAmount := 200 },
   .removeLiquidity { positionId := 0, userKeypair := .ok "user", percentage }]

theorem sampleLiquidity_positive {percentage : ℚ} (h : 0 < percentage) :
    ∀ call ∈ sampleLiquidity percentage, call.Positive := by
  intro call hcall
  rcases List.mem_pair.mp hcall with rfl | rfl
  · exact ⟨by norm_num, by norm_num⟩
  · exact h

theorem sampleLiquidity_accounted_iff :
    Along record (fun _ _ _ after => Accounted after) (sampleLiquidity 50)
        { world := sampleWorld } ↔
      Along record (fun call before _ _ => call.Covered before.world) (sampleLiquidity 50)
        { world := sampleWorld } :=
  accounted_iff sampleWorld_fresh (sampleLiquidity_positive (by norm_num))

/-- Twice a hundred percent of a position can be taken out. -/
theorem not_accounted : ¬Along record (fun _ _ _ after => Accounted after) (sampleLiquidity 200)
    { world := sampleWorld } := by
  intro h
  have htaken := h.2.1.taken 0 .A
  revert htaken
  decide +kernel

end Dex

end Cpi

end SvmCourse
