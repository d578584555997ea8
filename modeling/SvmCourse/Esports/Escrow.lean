import SvmCourse.Esports.Store

/-!
# Escrows

The escrow service. Deposits and locking are one check and at most two
writes. Releasing and refunding are longer: both first save the escrow in a
transitional status, then write one row per payment, then save the balances,
and both catch every exception after the first save to put the status back.

The catch blocks act on the escrow object in memory. An exception among the
rows leaves it with its old balances; an exception at the last save leaves it
with the new ones, so the handler stores the new balances under the old
status. The two segments of a release or refund therefore carry two handlers.

## Main definitions

* `createEscrow`, `getEscrowById`, `getEscrowBySource`, `getEscrowBalance`:
  Creating and reading.
* `depositToEscrow`, `lockEscrow`, `closeEscrow`: Deposits and status.
* `releaseEscrow`, `refundEscrow`: Paying out and paying back.
* `platformFeeOf`: The share of a balance that the platform keeps.

## Theorems

* `platformFeeOf_nonneg`, `platformFeeOf_le`: The fee is a share.
* `depositToEscrow_ensures`, `lockEscrow_ensures`, `releaseEscrow_ensures`,
  `refundEscrow_ensures`: How each operation can end.
* `depositToEscrow_run_failAt`: How a deposit ends when one access is refused.
-/

namespace SvmCourse

namespace Esports

open Core Core.Prog

/-- The platform's share of a balance: the percentage in whole basis points,
    the division rounding towards zero. -/
def platformFeeOf (balance : Int) (platformFeePercent : ℚ) : Int :=
  (balance * mathRound (platformFeePercent * 100)).tdiv 10000

/-- What a caller asks for when an escrow is created. -/
structure CreateEscrowRequest where
  source : SourceId
  platformFeePercent : ℚ := 5
  tokenType : SupportedToken := .SOL

/-- An escrow without any money. -/
def newEscrow (request : CreateEscrowRequest) : EscrowAccount where
  escrowId := request.source
  tokenType := request.tokenType
  platformFeePercent := request.platformFeePercent
  status := .CREATED
  totalDeposited := 0
  totalReleased := 0
  totalRefunded := 0
  platformFeeCollected := 0
  currentBalance := 0

/-- Create the escrow of a match or tournament, unless it has one. -/
def createEscrow (request : CreateEscrowRequest) : Service EscrowAccount := do
  let existing ← escrowRepository.findOne request.source
  require existing.isNone (.BadRequestException
    s!"Escrow already exists for {request.source.sourceType} {request.source}")
  escrowRepository.save (newEscrow request)
  pure (newEscrow request)

/-- Find an escrow, or say that there is none. -/
def getEscrowById (escrowId : SourceId) : Service EscrowAccount := do
  let escrow ← escrowRepository.findOne escrowId
  demand escrow (.NotFoundException s!"Escrow {escrowId} not found")

/-- Find the escrow of a match or tournament, or say that there is none. -/
def getEscrowBySource (source : SourceId) : Service EscrowAccount := do
  let escrow ← escrowRepository.findOne source
  demand escrow (.NotFoundException s!"Escrow not found for {source.sourceType} {source}")

/-- The balance report is the escrow row itself. -/
def getEscrowBalance (escrowId : SourceId) : Service EscrowAccount := getEscrowById escrowId

/-- What a caller asks for when money is deposited. -/
structure DepositToEscrowRequest where
  escrowId : SourceId
  walletId : Nat
  amount : Int

/-- The row of a deposit. -/
def depositTx (request : DepositToEscrowRequest) : EscrowTransaction where
  escrowId := request.escrowId
  type := .DEPOSIT
  participantWalletId := some request.walletId
  amount := request.amount

/-- The escrow once a deposit is booked. The first deposit activates it. -/
def EscrowAccount.afterDeposit (escrow : EscrowAccount) (amount : Int) : EscrowAccount :=
  { escrow with
    totalDeposited := escrow.totalDeposited + amount
    currentBalance := escrow.currentBalance + amount
    status := if escrow.status = .CREATED then .ACTIVE else escrow.status }

/-- Deposit money: save the row, and the escrow with its new balance. -/
def depositToEscrow (request : DepositToEscrowRequest) : Service EscrowTransaction := do
  let escrow ← getEscrowById request.escrowId
  require escrow.canDeposit
    (.BadRequestException s!"Escrow {request.escrowId} cannot accept deposits")
  escrowTxRepository.save (depositTx request)
  escrowRepository.save (escrow.afterDeposit request.amount)
  pure (depositTx request)

/-- Lock an escrow that is active. -/
def lockEscrow (escrowId : SourceId) : Service EscrowAccount := do
  let escrow ← getEscrowById escrowId
  require (escrow.status = .ACTIVE)
    (.BadRequestException s!"Escrow {escrowId} is not active, cannot lock")
  escrowRepository.save { escrow with status := .LOCKED }
  pure { escrow with status := .LOCKED }

/-- Close an escrow that is empty. -/
def closeEscrow (escrowId : SourceId) : Service Unit := do
  let escrow ← getEscrowById escrowId
  require (escrow.currentBalance ≤ 0)
    (.BadRequestException "Cannot close escrow with remaining balance")
  escrowRepository.save { escrow with status := .CLOSED }

/-! ### Releasing -/

/-- The handler of a release or refund that failed halfway: the escrow as it
    is in memory goes back under the given status. -/
def reopenEscrow (escrow : EscrowAccount) (status : EscrowStatus) (_ : ServiceError) :
    Service Unit :=
  escrowRepository.save { escrow with status := status }

/-- The writes of a release or refund: the transitional status, the rows, the
    settled escrow, the last two under a handler that goes `back`. -/
def settleEscrow (escrow : EscrowAccount) (transitional back : EscrowStatus)
    (txs : List EscrowTransaction) (settled : EscrowAccount) : Service Unit := do
  escrowRepository.save { escrow with status := transitional }
  (each txs escrowTxRepository.save).onError (reopenEscrow escrow back)
  (escrowRepository.save settled).onError (reopenEscrow settled back)

/-- A payment out of an escrow. -/
structure EscrowPayment where
  walletId : Nat
  amount : Int
  placement : Option ℚ := none

/-- What a caller asks for when an escrow is released. -/
structure ReleaseEscrowRequest where
  escrowId : SourceId
  distributions : List EscrowPayment

/-- What the payments come to. -/
def ReleaseEscrowRequest.total (request : ReleaseEscrowRequest) : Int :=
  (request.distributions.map EscrowPayment.amount).sum

/-- One row for a positive platform fee, then one per distribution. -/
def releaseTxs (request : ReleaseEscrowRequest) (platformFee : Int) : List EscrowTransaction :=
  -- No row is written for a fee of zero.
  (if 0 < platformFee then
    [{ escrowId := request.escrowId, type := .PLATFORM_FEE, amount := platformFee }]
  else []) ++
    request.distributions.map fun dist =>
      { escrowId := request.escrowId
        type := .RELEASE
        participantWalletId := some dist.walletId
        amount := dist.amount
        placement := dist.placement }

/-- The escrow after all payments and the fee. -/
def EscrowAccount.afterRelease (escrow : EscrowAccount) (total platformFee : Int) :
    EscrowAccount :=
  { escrow with
    totalReleased := escrow.totalReleased + total
    platformFeeCollected := escrow.platformFeeCollected + platformFee
    currentBalance := escrow.currentBalance - total - platformFee
    status := .RELEASED }

/-- Release an escrow: pay what was asked, keep the fee, and save all rows. -/
def releaseEscrow (request : ReleaseEscrowRequest) : Service (List EscrowTransaction) := do
  let escrow ← getEscrowById request.escrowId
  require escrow.canRelease (.BadRequestException s!"Escrow {request.escrowId} cannot be released")
  -- The fee is taken by the percentage of the escrow, not of the match.
  let platformFee := platformFeeOf escrow.currentBalance escrow.platformFeePercent
  let availableForDistribution := escrow.currentBalance - platformFee
  require (request.total ≤ availableForDistribution) (.BadRequestException
    (s!"Distribution amount {request.total} exceeds available balance " ++
      s!"{availableForDistribution}"))
  settleEscrow escrow .RELEASING .LOCKED (releaseTxs request platformFee)
    (escrow.afterRelease request.total platformFee)
  pure (releaseTxs request platformFee)

/-! ### Refunding -/

/-- What a caller asks for when an escrow is refunded. -/
structure RefundEscrowRequest where
  escrowId : SourceId
  walletIds : Option (List Nat) := none

/-- The deposits a request asks back: all of them, or those of some wallets. -/
def RefundEscrowRequest.covers (request : RefundEscrowRequest) (tx : EscrowTransaction) : Bool :=
  tx.escrowId = request.escrowId && tx.type = .DEPOSIT &&
    match request.walletIds with
    | some walletIds => tx.participantWalletId.any walletIds.contains
    | none => true

/-- One row for each deposit that is paid back. -/
def refundTxs (request : RefundEscrowRequest) (deposits : List EscrowTransaction) :
    List EscrowTransaction :=
  deposits.map fun deposit =>
    { escrowId := request.escrowId
      type := .REFUND
      participantWalletId := deposit.participantWalletId
      amount := deposit.amount }

/-- The escrow after the deposits are paid back. -/
def EscrowAccount.afterRefund (escrow : EscrowAccount) (totalRefunded : Int) : EscrowAccount :=
  { escrow with
    totalRefunded := escrow.totalRefunded + totalRefunded
    currentBalance := escrow.currentBalance - totalRefunded
    status := if escrow.currentBalance - totalRefunded = 0 then .REFUNDED else .ACTIVE }

/-- Refund an escrow: pay the deposits back, and save all rows. -/
def refundEscrow (request : RefundEscrowRequest) : Service (List EscrowTransaction) := do
  let escrow ← getEscrowById request.escrowId
  require escrow.canRefund (.BadRequestException s!"Escrow {request.escrowId} cannot be refunded")
  let deposits ← escrowTxRepository.find request.covers
  require (!deposits.isEmpty) (.BadRequestException "No deposits found to refund")
  settleEscrow escrow .REFUNDING .ACTIVE (refundTxs request deposits)
    (escrow.afterRefund (deposits.map EscrowTransaction.amount).sum)
  pure (refundTxs request deposits)

/-! ### The fee is a share -/

theorem platformFeeOf_nonneg {balance : Int} {percent : ℚ} (hb : 0 ≤ balance)
    (h0 : 0 ≤ percent) (h1 : percent ≤ 100) : 0 ≤ platformFeeOf balance percent := by
  have hround := mathRound_mem_Icc h0 h1
  exact Int.tdiv_nonneg (Int.mul_nonneg hb hround.1) (by omega)

theorem platformFeeOf_le {balance : Int} {percent : ℚ} (hb : 0 ≤ balance)
    (h0 : 0 ≤ percent) (h1 : percent ≤ 100) : platformFeeOf balance percent ≤ balance := by
  have hround := mathRound_mem_Icc h0 h1
  have hmul : balance * mathRound (percent * 100) ≤ balance * 10000 :=
    Int.mul_le_mul_of_nonneg_left hround.2 hb
  have hnonneg := Int.mul_nonneg hb hround.1
  unfold platformFeeOf
  rw [Int.tdiv_eq_ediv_of_nonneg hnonneg]
  omega

/-! ### The rows of a settlement are no deposits -/

theorem releaseTxs_kind (request : ReleaseEscrowRequest) (platformFee : Int) :
    ∀ tx ∈ releaseTxs request platformFee, tx.type = .PLATFORM_FEE ∨ tx.type = .RELEASE := by
  intro tx htx
  rcases List.mem_append.mp htx with hfee | hdist
  · split at hfee
    · rw [List.mem_singleton] at hfee
      rw [hfee]
      exact Or.inl rfl
    · exact absurd hfee List.not_mem_nil
  · rcases List.mem_map.mp hdist with ⟨dist, -, rfl⟩
    exact Or.inr rfl

theorem releaseTxs_type (request : ReleaseEscrowRequest) (platformFee : Int) :
    ∀ tx ∈ releaseTxs request platformFee, tx.type ≠ .DEPOSIT := by
  intro tx htx
  rcases releaseTxs_kind request platformFee tx htx with htype | htype
  · rw [htype]
    exact nofun
  · rw [htype]
    exact nofun

theorem refundTxs_type (request : RefundEscrowRequest) (deposits : List EscrowTransaction) :
    ∀ tx ∈ refundTxs request deposits, tx.type ≠ .DEPOSIT := by
  intro tx htx
  rcases List.mem_map.mp htx with ⟨deposit, -, rfl⟩
  exact nofun

/-! ### How the operations end -/

/-- Saving an escrow, as a change of the store. -/
def Db.withEscrow (db : Db) (escrow : EscrowAccount) : Db :=
  { db with escrows := db.escrows.save escrow }

/-- Writing escrow rows, as a change of the store. -/
def Db.withEscrowTxs (db : Db) (txs : List EscrowTransaction) : Db :=
  { db with escrowTxs := db.escrowTxs ++ txs }

theorem Db.withEscrow_withEscrow (db : Db) {a b : EscrowAccount} (h : a.escrowId = b.escrowId) :
    (db.withEscrow a).withEscrow b = db.withEscrow b := by
  unfold Db.withEscrow
  simp only [Table.save_save h]

section Specifications

variable {C : Prop}

theorem findOneEscrow_ensures (escrowId : SourceId) (s : Db) :
    (escrowRepository.findOne escrowId).Ensures C s fun r t =>
      t = s ∧ match r with
        | .ok found => s.escrows.findOne escrowId = found
        | .error _ => C :=
  ensures_perform ⟨rfl, rfl⟩ fun hc => ⟨rfl, hc⟩

theorem demandEscrow_ensures (escrowId : SourceId) (refusal : ServiceError) (s : Db) :
    ((escrowRepository.findOne escrowId).bind fun escrow => demand escrow refusal).Ensures C s
      fun r t => t = s ∧ match r with
        | .ok escrow => s.escrows.findOne escrowId = some escrow
        | .error _ => C ∨ s.escrows.findOne escrowId = none := by
  refine ensures_bind (ensures_mono (findOneEscrow_ensures escrowId s) fun r t h => ?_)
  rcases h with ⟨rfl, hr⟩
  cases r with
  | ok found =>
      refine ensures_demand (fun escrow he => ?_) (fun hnone => ?_)
      · exact ⟨rfl, hr.trans he⟩
      · exact ⟨rfl, Or.inr (hr.trans hnone)⟩
  | error e => exact ⟨rfl, Or.inl hr⟩

theorem getEscrowById_ensures (escrowId : SourceId) (s : Db) :
    (getEscrowById escrowId).Ensures C s fun r t => t = s ∧ match r with
      | .ok escrow => s.escrows.findOne escrowId = some escrow
      | .error _ => C ∨ s.escrows.findOne escrowId = none :=
  demandEscrow_ensures escrowId _ s

theorem getEscrowBySource_ensures (source : SourceId) (s : Db) :
    (getEscrowBySource source).Ensures C s fun r t => t = s ∧ match r with
      | .ok escrow => s.escrows.findOne source = some escrow
      | .error _ => C ∨ s.escrows.findOne source = none :=
  demandEscrow_ensures source _ s

theorem createEscrow_ensures (request : CreateEscrowRequest) (s : Db) :
    (createEscrow request).Ensures C s fun r t => match r with
      | .ok escrow => s.escrows.findOne request.source = none ∧ escrow = newEscrow request ∧
          t = s.withEscrow (newEscrow request)
      | .error _ => t = s ∧ (C ∨ ∃ escrow, s.escrows.findOne request.source = some escrow) := by
  unfold createEscrow
  refine ensures_bind (ensures_mono (findOneEscrow_ensures request.source s) fun r t h => ?_)
  rcases h with ⟨rfl, hr⟩
  cases r with
  | error e => exact ⟨rfl, Or.inl hr⟩
  | ok existing =>
      refine ensures_bind (ensures_require (fun hok => ?_) (fun hno => ?_))
      · refine ensures_bind (ensures_perform ?_ fun hc => ⟨rfl, Or.inl hc⟩)
        exact ⟨hr.trans (Option.isNone_iff_eq_none.mp hok), rfl, rfl⟩
      · rcases Option.isSome_iff_exists.mp (Option.isNone_eq_false_iff.mp hno) with ⟨escrow, he⟩
        exact ⟨rfl, Or.inr ⟨escrow, hr.trans he⟩⟩

/-- Without a refused access an escrow is created, or there is one already. -/
theorem createEscrow_calm {request : CreateEscrowRequest} {s : Db}
    {Q : Except ServiceError EscrowAccount → Db → Prop}
    (hexists : ∀ e escrow, s.escrows.findOne request.source = some escrow → Q (.error e) s)
    (hnew : s.escrows.findOne request.source = none →
      Q (.ok (newEscrow request)) (s.withEscrow (newEscrow request))) :
    (createEscrow request).Ensures False s Q := by
  refine ensures_mono (createEscrow_ensures request s) fun r t ht => ?_
  cases r with
  | error e =>
      rcases ht with ⟨rfl, hfalse | ⟨escrow, hfind⟩⟩
      · exact hfalse.elim
      · exact hexists e escrow hfind
  | ok escrow =>
      rcases ht with ⟨hnone, rfl, rfl⟩
      exact hnew hnone

/-- Without a refused access an escrow is read, unless there is none. -/
theorem getEscrowBySource_calm {source : SourceId} {s : Db}
    {Q : Except ServiceError EscrowAccount → Db → Prop}
    (hnone : ∀ e, s.escrows.findOne source = none → Q (.error e) s)
    (hfind : ∀ escrow, s.escrows.findOne source = some escrow → Q (.ok escrow) s) :
    (getEscrowBySource source).Ensures False s Q := by
  refine ensures_mono (getEscrowBySource_ensures source s) fun r t ht => ?_
  rcases ht with ⟨rfl, hr⟩
  cases r with
  | error e => exact hnone e (hr.resolve_left id)
  | ok escrow => exact hfind escrow hr

/-- An escrow that takes deposits is active after one. -/
theorem afterDeposit_active {escrow : EscrowAccount} (h : escrow.canDeposit = true)
    (amount : Int) : (escrow.afterDeposit amount).status = .ACTIVE := by
  unfold EscrowAccount.canDeposit EscrowAccount.isActive at h
  unfold EscrowAccount.afterDeposit
  by_cases hcreated : escrow.status = .CREATED
  · rw [if_pos hcreated]
  · -- It was active before, since it is not new.
    rw [if_neg hcreated]
    simpa [hcreated] using h

/-- A deposit adds to what was deposited in its escrow. -/
theorem deposited_append {s t : Db} {request : DepositToEscrowRequest}
    (htxs : t.escrowTxs = s.escrowTxs ++ [depositTx request]) (source : SourceId) :
    t.deposited source =
      s.deposited source + if source = request.escrowId then request.amount else 0 := by
  unfold Db.deposited Db.depositRows
  rw [htxs, List.filter_append, List.map_append, List.sum_append]
  by_cases hsource : source = request.escrowId
  · simp [depositTx, hsource]
  · have hne : ¬request.escrowId = source := fun h => hsource h.symm
    simp [depositTx, hsource, hne]

/-- A deposit ends with row and balance written, or with neither, or, when the
    escrow could not be saved, with the row alone. -/
theorem depositToEscrow_ensures (request : DepositToEscrowRequest) (s : Db) :
    (depositToEscrow request).Ensures C s fun r t => match r with
      | .ok _ => ∃ escrow, s.escrows.findOne request.escrowId = some escrow ∧
          escrow.canDeposit = true ∧
          t = (s.withEscrowTxs [depositTx request]).withEscrow (escrow.afterDeposit request.amount)
      | .error _ => (t = s ∨ C ∧ t = s.withEscrowTxs [depositTx request]) ∧
          (C ∨ s.escrows.findOne request.escrowId = none ∨
            ∃ escrow, s.escrows.findOne request.escrowId = some escrow ∧
              escrow.canDeposit = false) := by
  unfold depositToEscrow
  refine ensures_bind (ensures_mono (getEscrowById_ensures request.escrowId s) fun r t h => ?_)
  rcases h with ⟨rfl, hr⟩
  cases r with
  | error e =>
      rcases hr with hc | hnone
      · exact ⟨Or.inl rfl, Or.inl hc⟩
      · exact ⟨Or.inl rfl, Or.inr (Or.inl hnone)⟩
  | ok escrow =>
      -- The row is written before the balance, so a refusal in between leaves the
      -- row.
      refine ensures_bind (ensures_require (fun hok => ?_) (fun hno => ?_))
      · refine ensures_bind (ensures_perform ?_ fun hc => ⟨Or.inl rfl, Or.inl hc⟩)
        refine ensures_bind (ensures_perform ?_ fun hc => ⟨Or.inr ⟨hc, rfl⟩, Or.inl hc⟩)
        exact ⟨escrow, hr, hok, rfl⟩
      · exact ⟨Or.inl rfl, Or.inr (Or.inr ⟨escrow, hr, hno⟩)⟩

/-- The accesses of a deposit that is accepted are the read, the row and the
    balance, in this order. -/
theorem depositToEscrow_run_failAt {request : DepositToEscrowRequest} {s : Db}
    {escrow : EscrowAccount} (hfind : s.escrows.findOne request.escrowId = some escrow)
    (hok : escrow.canDeposit = true) (k : Nat) :
    (depositToEscrow request).run (failAt k) s = match k with
      | 0 | 1 => (.error .StoreError, s, calm)
      | 2 => (.error .StoreError, s.withEscrowTxs [depositTx request], calm)
      | k + 3 => (.ok (depositTx request),
          (s.withEscrowTxs [depositTx request]).withEscrow (escrow.afterDeposit request.amount),
          failAt k) := by
  unfold depositToEscrow getEscrowById escrowRepository.findOne escrowRepository.save
    escrowTxRepository.save query
  simp only [bind_eq, pure_eq, perform, Prog.bind]
  -- Each access in turn is the one that is refused.
  cases k with
  | zero => rw [run_access_failAt_zero]; rfl
  | succ k =>
      rw [run_access_failAt_succ, hfind]
      simp only [demand, Prog.bind, hok, require, if_true]
      cases k with
      | zero => rw [run_access_failAt_zero]; rfl
      | succ k =>
          rw [run_access_failAt_succ]
          cases k with
          | zero => rw [run_access_failAt_zero]; rfl
          | succ k => rw [run_access_failAt_succ]; rfl

theorem lockEscrow_ensures (escrowId : SourceId) (s : Db) :
    (lockEscrow escrowId).Ensures C s fun r t => match r with
      | .ok _ => ∃ escrow, s.escrows.findOne escrowId = some escrow ∧ escrow.status = .ACTIVE ∧
          t = s.withEscrow { escrow with status := .LOCKED }
      | .error _ => t = s ∧ (C ∨ s.escrows.findOne escrowId = none ∨
          ∃ escrow, s.escrows.findOne escrowId = some escrow ∧ escrow.status ≠ .ACTIVE) := by
  unfold lockEscrow
  refine ensures_bind (ensures_mono (getEscrowById_ensures escrowId s) fun r t h => ?_)
  rcases h with ⟨rfl, hr⟩
  cases r with
  | error e =>
      rcases hr with hc | hnone
      · exact ⟨rfl, Or.inl hc⟩
      · exact ⟨rfl, Or.inr (Or.inl hnone)⟩
  | ok escrow =>
      -- Nothing is written before the status has been checked.
      refine ensures_bind (ensures_require (fun hok => ?_) (fun hno => ?_))
      · refine ensures_bind (ensures_perform ?_ fun hc => ⟨rfl, Or.inl hc⟩)
        exact ⟨escrow, hr, of_decide_eq_true hok, rfl⟩
      · exact ⟨rfl, Or.inr (Or.inr ⟨escrow, hr, of_decide_eq_false hno⟩)⟩

/-- The escrow of a source is looked up and locked. What follows finds it locked, and an
    escrow that cannot be locked is left as it is. -/
theorem lockBySource_ensures {α : Type} {rest : Service α} {Q : Except ServiceError α → Db → Prop}
    (source : SourceId) (s : Db)
    (hlocked : ∀ escrow, s.escrows.findOne source = some escrow → escrow.status = .ACTIVE →
      rest.Ensures C (s.withEscrow { escrow with status := .LOCKED }) Q)
    (hrefused : (C ∨ ∀ escrow, s.escrows.findOne source = some escrow →
      escrow.status ≠ .ACTIVE) → ∀ e, Q (.error e) s) :
    ((getEscrowBySource source).bind fun escrow =>
      (lockEscrow escrow.escrowId).bind fun _ => rest).Ensures C s Q := by
  refine ensures_bind (ensures_mono (getEscrowBySource_ensures source s) fun r t h => ?_)
  rcases h with ⟨rfl, hr⟩
  cases r with
  | error e =>
      refine hrefused (hr.imp_right fun hnone escrow hfound => ?_) e
      exact nomatch hnone.symm.trans hfound
  | ok escrow =>
      -- The escrow is looked up twice, by its source and by its own id.
      have hkey : escrow.escrowId = source := Table.key_of_findOne hr
      rw [← hkey] at hlocked hrefused
      refine ensures_bind (ensures_mono (lockEscrow_ensures escrow.escrowId t) fun r u hu => ?_)
      cases r with
      | ok _ =>
          rcases hu with ⟨found, hfound, hactive, rfl⟩
          exact hlocked found hfound hactive
      | error e =>
          rcases hu with ⟨rfl, hc | hnone | ⟨found, hfound, hnot⟩⟩
          · exact hrefused (Or.inl hc) e
          · refine hrefused (Or.inr fun other hother => ?_) e
            exact nomatch hnone.symm.trans hother
          · refine hrefused (Or.inr fun other hother => ?_) e
            rw [Option.some.inj (hother.symm.trans hfound)]
            exact hnot

theorem closeEscrow_ensures (escrowId : SourceId) (s : Db) :
    (closeEscrow escrowId).Ensures C s fun _ t =>
      t = s ∨ ∃ escrow, s.escrows.findOne escrowId = some escrow ∧
        t = s.withEscrow { escrow with status := .CLOSED } := by
  unfold closeEscrow
  refine ensures_bind (ensures_mono (getEscrowById_ensures escrowId s) fun r t h => ?_)
  rcases h with ⟨rfl, hr⟩
  cases r with
  | error e => exact Or.inl rfl
  | ok escrow =>
      refine ensures_bind (ensures_require (fun _ => ?_) (fun _ => Or.inl rfl))
      exact ensures_perform (Or.inr ⟨escrow, hr, rfl⟩) fun _ => Or.inl rfl

/-- Writing rows one by one writes them all, or stops at a refusal with some
    of them written. -/
theorem saveTxs_ensures (txs : List EscrowTransaction) (s : Db) :
    (each txs escrowTxRepository.save).Ensures C s fun r t => match r with
      | .ok _ => t = s.withEscrowTxs txs
      | .error _ => C ∧ ∃ written, (∀ tx ∈ written, tx ∈ txs) ∧ t = s.withEscrowTxs written := by
  -- On the rows: a refused save leaves those before it.
  induction txs generalizing s with
  | nil =>
      have hnil : s = s.withEscrowTxs [] := by simp only [Db.withEscrowTxs, List.append_nil]
      exact hnil
  | cons tx txs ih =>
      have happend : ∀ l, (s.withEscrowTxs [tx]).withEscrowTxs l = s.withEscrowTxs (tx :: l) := by
        intro l
        simp only [Db.withEscrowTxs, List.append_assoc, List.singleton_append]
      refine ensures_bind (ensures_perform ?_ fun hc => ?_)
      · refine ensures_mono (ih (s.withEscrowTxs [tx])) fun r t ht => ?_
        cases r with
        | ok _ => exact ht.trans (happend txs)
        | error e =>
            rcases ht with ⟨hc, written, hw, rfl⟩
            refine ⟨hc, tx :: written, ?_, happend written⟩
            intro tx' htx'
            rcases List.mem_cons.mp htx' with rfl | hmem
            · exact List.mem_cons_self
            · exact List.mem_cons_of_mem _ (hw tx' hmem)
      · refine ⟨hc, [], fun tx' h => absurd h List.not_mem_nil, ?_⟩
        simp only [Db.withEscrowTxs, List.append_nil]

/-- An escrow whose settlement was interrupted: some of the rows are written,
    and the escrow holds its old balances under some status or its new
    balances under the status the handler goes back to. -/
def SettlementInterrupted (s t : Db) (escrow : EscrowAccount) (back : EscrowStatus)
    (txs : List EscrowTransaction) (settled : EscrowAccount) : Prop :=
  t = s ∨ ∃ (left : EscrowAccount) (written : List EscrowTransaction),
    ((∃ status, left = { escrow with status := status }) ∨
      left = { settled with status := back }) ∧
    (∀ tx ∈ written, tx ∈ txs) ∧ t = (s.withEscrowTxs written).withEscrow left

theorem settleEscrow_ensures (escrow : EscrowAccount) (transitional back : EscrowStatus)
    (txs : List EscrowTransaction) (settled : EscrowAccount)
    (hkey : escrow.escrowId = settled.escrowId) (s : Db) :
    (settleEscrow escrow transitional back txs settled).Ensures C s fun r t => match r with
      | .ok _ => t = (s.withEscrowTxs txs).withEscrow settled
      | .error _ => C ∧ SettlementInterrupted s t escrow back txs settled := by
  unfold settleEscrow
  refine ensures_bind (ensures_perform ?_ fun hc => ⟨hc, Or.inl rfl⟩)
  -- The three saves of the escrow are under one key, so only the last counts.
  have hlast : ∀ (a b : EscrowAccount) (l : List EscrowTransaction), a.escrowId = b.escrowId →
      ((s.withEscrow a).withEscrowTxs l).withEscrow b = (s.withEscrowTxs l).withEscrow b :=
    fun a b l h => (s.withEscrowTxs l).withEscrow_withEscrow h
  refine ensures_bind (ensures_onError (ensures_mono (saveTxs_ensures txs _) fun r u hu => ?_))
  cases r with
  | error e =>
      rcases hu with ⟨hc, written, hw, rfl⟩
      refine ensures_perform ⟨hc, Or.inr ⟨_, written, Or.inl ⟨back, rfl⟩, hw, ?_⟩⟩ fun _ =>
        ⟨hc, Or.inr ⟨_, written, Or.inl ⟨transitional, rfl⟩, hw, rfl⟩⟩
      exact hlast _ _ _ rfl
  | ok _ =>
      refine ensures_onError (ensures_perform ?_ fun hc => ?_)
      · rw [show u = _ from hu]
        exact hlast _ _ _ hkey
      · rw [show u = _ from hu]
        refine ensures_perform ⟨hc, Or.inr ⟨_, txs, Or.inr rfl, fun _ h => h, ?_⟩⟩ fun _ =>
          ⟨hc, Or.inr ⟨_, txs, Or.inl ⟨transitional, rfl⟩, fun _ h => h, rfl⟩⟩
        exact hlast _ _ _ hkey

/-- Besides a refusal, a release fails only when the escrow cannot be released
    or holds too little, and then nothing has been written. -/
theorem releaseEscrow_ensures (request : ReleaseEscrowRequest) (s : Db) :
    (releaseEscrow request).Ensures C s fun r t => match r with
      | .ok _ => ∃ escrow fee, s.escrows.findOne request.escrowId = some escrow ∧
          fee = platformFeeOf escrow.currentBalance escrow.platformFeePercent ∧
          escrow.canRelease = true ∧ request.total ≤ escrow.currentBalance - fee ∧
          t = (s.withEscrowTxs (releaseTxs request fee)).withEscrow
            (escrow.afterRelease request.total fee)
      | .error _ =>
          (t = s ∧ (C ∨ s.escrows.findOne request.escrowId = none ∨
            ∃ escrow, s.escrows.findOne request.escrowId = some escrow ∧
              (escrow.canRelease = false ∨ escrow.currentBalance -
                platformFeeOf escrow.currentBalance escrow.platformFeePercent <
                  request.total))) ∨
          C ∧ ∃ escrow fee, s.escrows.findOne request.escrowId = some escrow ∧
            fee = platformFeeOf escrow.currentBalance escrow.platformFeePercent ∧
            escrow.canRelease = true ∧ request.total ≤ escrow.currentBalance - fee ∧
            SettlementInterrupted s t escrow .LOCKED (releaseTxs request fee)
              (escrow.afterRelease request.total fee) := by
  unfold releaseEscrow
  refine ensures_bind (ensures_mono (getEscrowById_ensures request.escrowId s) fun r t h => ?_)
  rcases h with ⟨rfl, hr⟩
  cases r with
  | error e =>
      rcases hr with hc | hnone
      · exact Or.inl ⟨rfl, Or.inl hc⟩
      · exact Or.inl ⟨rfl, Or.inr (Or.inl hnone)⟩
  | ok escrow =>
      refine ensures_bind (ensures_require (fun hcan => ?_)
        (fun hno => Or.inl ⟨rfl, Or.inr (Or.inr ⟨escrow, hr, Or.inl hno⟩)⟩))
      refine ensures_bind (ensures_require (fun htotal => ?_)
        (fun hno => Or.inl ⟨rfl, Or.inr (Or.inr ⟨escrow, hr, Or.inr ?_⟩)⟩))
      swap
      · -- The escrow holds too little for what is distributed.
        exact not_le.mp (of_decide_eq_false hno)
      -- All checks are passed, and from here on only a refusal can stop the
      -- settlement.
      refine ensures_bind (ensures_mono (settleEscrow_ensures _ _ _ _ _ (by rfl) t)
        fun r u hu => ?_)
      cases r with
      | error e =>
          exact Or.inr ⟨hu.1, escrow, _, hr, rfl, hcan, of_decide_eq_true htotal, hu.2⟩
      | ok _ => exact ⟨escrow, _, hr, rfl, hcan, of_decide_eq_true htotal, hu⟩

/-- Besides a refusal, a refund fails only when the escrow cannot be refunded
    or no deposit is covered, and then nothing has been written. -/
theorem refundEscrow_ensures (request : RefundEscrowRequest) (s : Db) :
    (refundEscrow request).Ensures C s fun r t => match r with
      | .ok _ => ∃ escrow deposits, s.escrows.findOne request.escrowId = some escrow ∧
          deposits = s.escrowTxs.filter request.covers ∧
          escrow.canRefund = true ∧ deposits ≠ [] ∧
          t = (s.withEscrowTxs (refundTxs request deposits)).withEscrow
            (escrow.afterRefund (deposits.map EscrowTransaction.amount).sum)
      | .error _ => (t = s ∨ C ∧ ∃ escrow deposits,
            s.escrows.findOne request.escrowId = some escrow ∧
            deposits = s.escrowTxs.filter request.covers ∧ escrow.canRefund = true ∧
            SettlementInterrupted s t escrow .ACTIVE (refundTxs request deposits)
              (escrow.afterRefund (deposits.map EscrowTransaction.amount).sum)) ∧
          (C ∨ s.escrows.findOne request.escrowId = none ∨
            ∃ escrow, s.escrows.findOne request.escrowId = some escrow ∧
              (escrow.canRefund = false ∨ s.escrowTxs.filter request.covers = [])) := by
  unfold refundEscrow
  refine ensures_bind (ensures_mono (getEscrowById_ensures request.escrowId s) fun r t h => ?_)
  rcases h with ⟨rfl, hr⟩
  cases r with
  | error e =>
      rcases hr with hc | hnone
      · exact ⟨Or.inl rfl, Or.inl hc⟩
      · exact ⟨Or.inl rfl, Or.inr (Or.inl hnone)⟩
  | ok escrow =>
      refine ensures_bind (ensures_require (fun hcan => ?_) (fun hno => ?_))
      · refine ensures_bind (ensures_perform ?_ fun hc => ⟨Or.inl rfl, Or.inl hc⟩)
        refine ensures_bind (ensures_require (fun hsome => ?_) (fun hnone => ?_))
        · -- There are deposits to pay back, and only a refusal can stop that.
          refine ensures_bind (ensures_mono (settleEscrow_ensures _ _ _ _ _ (by rfl) t)
            fun r u hu => ?_)
          cases r with
          | error e =>
              exact ⟨Or.inr ⟨hu.1, escrow, _, hr, rfl, hcan, hu.2⟩, Or.inl hu.1⟩
          | ok _ =>
              refine ⟨escrow, _, hr, rfl, hcan, ?_, hu⟩
              simpa only [Bool.not_eq_true', List.isEmpty_eq_false_iff] using hsome
        · refine ⟨Or.inl rfl, Or.inr (Or.inr ⟨escrow, hr, Or.inr ?_⟩)⟩
          simpa only [Bool.not_eq_false', List.isEmpty_iff] using hnone
      · exact ⟨Or.inl rfl, Or.inr (Or.inr ⟨escrow, hr, Or.inl hno⟩)⟩

end Specifications

end Esports

end SvmCourse
