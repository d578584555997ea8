import SvmCourse.Esports.System

/-!
# The Books of an Escrow

An escrow row keeps a balance and four totals, and the log keeps a row for
every payment. Here the two are compared. The balance is what was deposited
less what was released, refunded and taken as the fee, and no refused access
breaks this, since every save of an escrow writes all five fields from one
object and the handlers save such an object as well. The totals are the sums of
the log as long as nothing is refused: a refusal between a log row and the
escrow row leaves the log ahead.

The calls are those of the escrow service, with any amounts, on any number of
escrows.

## Main definitions

* `Call.isEscrow`, `Call.FeeIsShare`: The calls and what is known of them.
* `EscrowStep`: What a call can make of the database.
* `EscrowAccount.Balanced`: The balance follows from the totals.
* `txSum`, `EscrowAccount.Logged`: The totals follow from the log.

## Theorems

* `escrowCall_steps`: Every call makes one of the steps.
* `escrowCall_balances`: Every call keeps the escrows balanced.
* `escrowCall_books`: Every calm call keeps the totals and the log together.
* `escrow_books`: The books of every run.
-/

namespace SvmCourse

namespace Esports

open Core Core.Prog

/-- The calls of the escrow service. -/
def Call.isEscrow : Call → Bool
  | .createEscrow _ | .depositToEscrow _ | .lockEscrow _ | .releaseEscrow _ | .refundEscrow _
  | .closeEscrow _ => true
  | _ => false

/-- An escrow is created with a fee between nothing and everything. -/
def Call.FeeIsShare : Call → Prop
  | .createEscrow request => 0 ≤ request.platformFeePercent ∧ request.platformFeePercent ≤ 100
  | _ => True

instance : DecidablePred Call.FeeIsShare
  | .createEscrow request => inferInstanceAs (Decidable
      (0 ≤ request.platformFeePercent ∧ request.platformFeePercent ≤ 100))
  | .createWallet _ | .deposit _ | .withdraw _ | .createMatch _ | .joinMatch _ | .startMatch _ _
  | .submitResult _ | .cancelMatch _ _ | .createTournament _ | .openRegistration _
  | .registerPlayer _ | .closeRegistration _ | .generateBracket _ | .startTournament _
  | .advanceRound _ | .cancelTournament _ _ | .depositToEscrow _ | .lockEscrow _
  | .releaseEscrow _ | .refundEscrow _ | .closeEscrow _ | .lockFunds _ | .unlockFunds _
  | .deductEntryFee _ _ => isTrue trivial

/-! ### Steps -/

/-- What a call of the escrow service can make of the database. Where an access can be
    refused, a deposit may be logged only, and a settlement may be interrupted. -/
inductive EscrowStep (C : Prop) (s : Db) : Call → Db → Prop
  | unchanged (call : Call) : EscrowStep C s call s
  | created (request : CreateEscrowRequest) (hnew : s.escrows.findOne request.source = none) :
      EscrowStep C s (.createEscrow request) (s.withEscrow (newEscrow request))
  | logged (request : DepositToEscrowRequest) (hC : C) :
      EscrowStep C s (.depositToEscrow request) (s.withEscrowTxs [depositTx request])
  | deposited (request : DepositToEscrowRequest) (escrow : EscrowAccount)
      (hfind : s.escrows.findOne request.escrowId = some escrow)
      (hopen : escrow.canDeposit = true) :
      EscrowStep C s (.depositToEscrow request)
        ((s.withEscrowTxs [depositTx request]).withEscrow (escrow.afterDeposit request.amount))
  | locked (escrowId : SourceId) (escrow : EscrowAccount)
      (hfind : s.escrows.findOne escrowId = some escrow) (hactive : escrow.status = .ACTIVE) :
      EscrowStep C s (.lockEscrow escrowId) (s.withEscrow { escrow with status := .LOCKED })
  | closed (escrowId : SourceId) (escrow : EscrowAccount)
      (hfind : s.escrows.findOne escrowId = some escrow) :
      EscrowStep C s (.closeEscrow escrowId) (s.withEscrow { escrow with status := .CLOSED })
  | released (request : ReleaseEscrowRequest) (escrow : EscrowAccount) (fee : Int)
      (hfind : s.escrows.findOne request.escrowId = some escrow)
      (hfee : fee = platformFeeOf escrow.currentBalance escrow.platformFeePercent)
      (hcan : escrow.canRelease = true) (htotal : request.total ≤ escrow.currentBalance - fee) :
      EscrowStep C s (.releaseEscrow request)
        ((s.withEscrowTxs (releaseTxs request fee)).withEscrow
          (escrow.afterRelease request.total fee))
  | releaseInterrupted (request : ReleaseEscrowRequest) (escrow : EscrowAccount) (fee : Int)
      {t : Db} (hC : C) (hfind : s.escrows.findOne request.escrowId = some escrow)
      (hstopped : SettlementInterrupted s t escrow .LOCKED (releaseTxs request fee)
        (escrow.afterRelease request.total fee)) : EscrowStep C s (.releaseEscrow request) t
  | refunded (request : RefundEscrowRequest) (escrow : EscrowAccount)
      (hfind : s.escrows.findOne request.escrowId = some escrow) (hcan : escrow.canRefund = true)
      (hsome : s.escrowTxs.filter request.covers ≠ []) :
      EscrowStep C s (.refundEscrow request)
        ((s.withEscrowTxs (refundTxs request (s.escrowTxs.filter request.covers))).withEscrow
          (escrow.afterRefund
            ((s.escrowTxs.filter request.covers).map EscrowTransaction.amount).sum))
  | refundInterrupted (request : RefundEscrowRequest) (escrow : EscrowAccount) {t : Db} (hC : C)
      (hfind : s.escrows.findOne request.escrowId = some escrow)
      (hstopped : SettlementInterrupted s t escrow .ACTIVE
        (refundTxs request (s.escrowTxs.filter request.covers))
        (escrow.afterRefund
          ((s.escrowTxs.filter request.covers).map EscrowTransaction.amount).sum)) :
      EscrowStep C s (.refundEscrow request) t

/-- Every call of the escrow service makes one of the steps. -/
theorem escrowCall_steps {C : Prop} (call : Call) (hcall : call.isEscrow = true) (s : Db) :
    call.program.Ensures C s fun _ t => EscrowStep C s call t := by
  -- Each call has its own step, with the lemma that says how it ends.
  cases call with
  | createEscrow request =>
      refine discard_ensures (ensures_mono (createEscrow_ensures request s) fun r t ht => ?_)
      cases r with
      | error e => exact ht.1 ▸ .unchanged _
      | ok escrow =>
          rcases ht with ⟨hnew, -, rfl⟩
          exact .created request hnew
  | depositToEscrow request =>
      refine discard_ensures (ensures_mono (depositToEscrow_ensures request s) fun r t ht => ?_)
      cases r with
      | error e =>
          rcases ht.1 with rfl | ⟨hC, rfl⟩
          · exact .unchanged _
          · exact .logged request hC
      | ok tx =>
          rcases ht with ⟨escrow, hfind, hopen, rfl⟩
          exact .deposited request escrow hfind hopen
  | lockEscrow escrowId =>
      refine discard_ensures (ensures_mono (lockEscrow_ensures escrowId s) fun r t ht => ?_)
      cases r with
      | error e => exact ht.1 ▸ .unchanged _
      | ok escrow =>
          rcases ht with ⟨found, hfind, hactive, rfl⟩
          exact .locked escrowId found hfind hactive
  | closeEscrow escrowId =>
      refine discard_ensures (ensures_mono (closeEscrow_ensures escrowId s) fun r t ht => ?_)
      rcases ht with rfl | ⟨found, hfind, rfl⟩
      · exact .unchanged _
      · exact .closed escrowId found hfind
  | releaseEscrow request =>
      refine discard_ensures (ensures_mono (releaseEscrow_ensures request s) fun r t ht => ?_)
      cases r with
      | error e =>
          rcases ht with ⟨rfl, -⟩ | ⟨hC, escrow, fee, hfind, -, -, -, hstopped⟩
          · exact .unchanged _
          · exact .releaseInterrupted request escrow fee hC hfind hstopped
      | ok txs =>
          rcases ht with ⟨escrow, fee, hfind, hfee, hcan, htotal, rfl⟩
          exact .released request escrow fee hfind hfee hcan htotal
  | refundEscrow request =>
      refine discard_ensures (ensures_mono (refundEscrow_ensures request s) fun r t ht => ?_)
      cases r with
      | error e =>
          rcases ht.1 with rfl | ⟨hC, escrow, deposits, hfind, rfl, -, hstopped⟩
          · exact .unchanged _
          · exact .refundInterrupted request escrow hC hfind hstopped
      | ok txs =>
          rcases ht with ⟨escrow, deposits, hfind, rfl, hcan, hsome, rfl⟩
          exact .refunded request escrow hfind hcan hsome
  | _ => exact nomatch hcall

/-- The balance is what came in less what went out. -/
def EscrowAccount.Balanced (escrow : EscrowAccount) : Prop :=
  escrow.currentBalance = escrow.totalDeposited - escrow.totalReleased - escrow.totalRefunded -
    escrow.platformFeeCollected

/-- The amounts of one kind of row of one escrow. -/
def txSum (txs : List EscrowTransaction) (source : SourceId) (type : EscrowTransactionType) :
    Int :=
  ((txs.filter fun tx => tx.escrowId = source && tx.type = type).map EscrowTransaction.amount).sum

/-- The totals of the escrow are the sums of its rows in the log. -/
structure EscrowAccount.Logged (txs : List EscrowTransaction) (escrow : EscrowAccount) : Prop where
  deposited : escrow.totalDeposited = txSum txs escrow.escrowId .DEPOSIT
  released : escrow.totalReleased = txSum txs escrow.escrowId .RELEASE
  refunded : escrow.totalRefunded = txSum txs escrow.escrowId .REFUND
  fee : escrow.platformFeeCollected = txSum txs escrow.escrowId .PLATFORM_FEE

/-- Every escrow is balanced. -/
def Db.EscrowsBalanced (db : Db) : Prop := ∀ escrow ∈ db.escrows.rows, escrow.Balanced

/-- Every escrow agrees with the log and takes a share as its fee, and the log
    is about escrows that exist. -/
structure Db.EscrowsLogged (db : Db) : Prop where
  logged : ∀ escrow ∈ db.escrows.rows, escrow.Logged db.escrowTxs
  fee : ∀ escrow ∈ db.escrows.rows,
    0 ≤ escrow.platformFeePercent ∧ escrow.platformFeePercent ≤ 100
  known : ∀ tx ∈ db.escrowTxs, ∃ escrow, db.escrows.findOne tx.escrowId = some escrow

/-! ### Sums of the log -/

section Sums

variable {txs txs' : List EscrowTransaction} {source : SourceId} {type : EscrowTransactionType}

theorem txSum_append :
    txSum (txs ++ txs') source type = txSum txs source type + txSum txs' source type := by
  unfold txSum
  rw [List.filter_append, List.map_append, List.sum_append]

/-- Rows of other escrows or of another kind do not count. -/
theorem txSum_eq_zero (h : ∀ tx ∈ txs, tx.escrowId = source → tx.type ≠ type) :
    txSum txs source type = 0 := by
  have hnil : (txs.filter fun tx => tx.escrowId = source && tx.type = type) = [] := by
    rw [List.filter_eq_nil_iff]
    intro tx htx hboth
    simp only [Bool.and_eq_true, decide_eq_true_eq] at hboth
    exact h tx htx hboth.1 hboth.2
  unfold txSum
  rw [hnil]
  rfl

/-- Rows of this kind of this escrow all count. -/
theorem txSum_eq_sum (h : ∀ tx ∈ txs, tx.escrowId = source ∧ tx.type = type) :
    txSum txs source type = (txs.map EscrowTransaction.amount).sum := by
  have hall : (txs.filter fun tx => tx.escrowId = source && tx.type = type) = txs := by
    rw [List.filter_eq_self]
    intro tx htx
    simp only [Bool.and_eq_true, decide_eq_true_eq]
    exact h tx htx
  unfold txSum
  rw [hall]

end Sums

/-- A release logs the fee and the distributions. -/
theorem txSum_releaseTxs (request : ReleaseEscrowRequest) {fee : Int} (hfee : 0 ≤ fee) :
    txSum (releaseTxs request fee) request.escrowId .DEPOSIT = 0 ∧
      txSum (releaseTxs request fee) request.escrowId .RELEASE = request.total ∧
      txSum (releaseTxs request fee) request.escrowId .REFUND = 0 ∧
      txSum (releaseTxs request fee) request.escrowId .PLATFORM_FEE = fee := by
  -- The distributions are all of one type.
  have hdists : ∀ type, txSum (request.distributions.map fun dist =>
      ({ escrowId := request.escrowId
         type := .RELEASE
         participantWalletId := some dist.walletId
         amount := dist.amount
         placement := dist.placement } : EscrowTransaction)) request.escrowId type =
        if type = .RELEASE then request.total else 0 := by
    intro type
    by_cases htype : type = .RELEASE
    · rw [if_pos htype, txSum_eq_sum, List.map_map]
      · rfl
      · intro tx htx
        rcases List.mem_map.mp htx with ⟨dist, -, rfl⟩
        exact ⟨rfl, htype.symm⟩
    · rw [if_neg htype, txSum_eq_zero]
      intro tx htx _ hsame
      rcases List.mem_map.mp htx with ⟨dist, -, rfl⟩
      exact htype hsame.symm
  unfold releaseTxs
  by_cases hpos : 0 < fee
  · simp only [if_pos hpos, txSum_append, hdists]
    simp [txSum]
  · -- A fee of zero has no row, and needs none.
    have hzero : fee = 0 := by omega
    simp only [if_neg hpos, txSum_append, hdists]
    simp [txSum, hzero]

theorem releaseTxs_escrowId (request : ReleaseEscrowRequest) (fee : Int) :
    ∀ tx ∈ releaseTxs request fee, tx.escrowId = request.escrowId := by
  intro tx htx
  rcases List.mem_append.mp htx with hfee | hdist
  · by_cases hpos : 0 < fee
    · rw [if_pos hpos, List.mem_singleton] at hfee
      rw [hfee]
    · rw [if_neg hpos] at hfee
      exact absurd hfee List.not_mem_nil
  · rcases List.mem_map.mp hdist with ⟨dist, -, rfl⟩
    rfl

/-- A refund logs what it pays back. -/
theorem txSum_refundTxs (request : RefundEscrowRequest) (deposits : List EscrowTransaction)
    (type : EscrowTransactionType) :
    txSum (refundTxs request deposits) request.escrowId type =
      if type = .REFUND then (deposits.map EscrowTransaction.amount).sum else 0 := by
  unfold refundTxs
  by_cases htype : type = .REFUND
  · rw [if_pos htype, txSum_eq_sum, List.map_map]
    · rfl
    · intro tx htx
      rcases List.mem_map.mp htx with ⟨deposit, -, rfl⟩
      exact ⟨rfl, htype.symm⟩
  · rw [if_neg htype, txSum_eq_zero]
    intro tx htx _ hsame
    rcases List.mem_map.mp htx with ⟨deposit, -, rfl⟩
    exact htype hsame.symm

/-! ### The balance -/

section Balance

variable {C : Prop} {s t : Db}

theorem escrowsBalanced_save (h : s.EscrowsBalanced) {escrow : EscrowAccount}
    (hescrow : escrow.Balanced) (ht : t.escrows = s.escrows.save escrow) :
    t.EscrowsBalanced := by
  intro e he
  rw [ht] at he
  rcases Table.mem_save.mp he with rfl | ⟨hold, -⟩
  · exact hescrow
  · exact h e hold

theorem balanced_newEscrowRow (request : CreateEscrowRequest) : (newEscrow request).Balanced := rfl

theorem balanced_status {escrow : EscrowAccount} (h : escrow.Balanced) (status : EscrowStatus) :
    ({ escrow with status := status } : EscrowAccount).Balanced := h

theorem balanced_afterRelease {escrow : EscrowAccount} (h : escrow.Balanced) (total fee : Int) :
    (escrow.afterRelease total fee).Balanced := by
  unfold EscrowAccount.Balanced EscrowAccount.afterRelease at *
  simp only
  omega

theorem balanced_afterRefund {escrow : EscrowAccount} (h : escrow.Balanced) (total : Int) :
    (escrow.afterRefund total).Balanced := by
  unfold EscrowAccount.Balanced EscrowAccount.afterRefund at *
  simp only
  omega

theorem balanced_afterDeposit {escrow : EscrowAccount} (h : escrow.Balanced) (amount : Int) :
    (escrow.afterDeposit amount).Balanced := by
  unfold EscrowAccount.Balanced EscrowAccount.afterDeposit at *
  simp only
  omega

/-- A settlement that is interrupted leaves the escrow before or after it. -/
theorem interrupted_balanced (h : s.EscrowsBalanced) {escrow settled : EscrowAccount}
    {back : EscrowStatus} {txs : List EscrowTransaction} (hescrow : escrow.Balanced)
    (hsettled : settled.Balanced) (hint : SettlementInterrupted s t escrow back txs settled) :
    t.EscrowsBalanced := by
  rcases hint with rfl | ⟨left, written, hleft, -, rfl⟩
  · exact h
  · rcases hleft with ⟨status, rfl⟩ | rfl
    · exact escrowsBalanced_save h (balanced_status hescrow status) rfl
    · exact escrowsBalanced_save h (balanced_status hsettled back) rfl

/-- Every call of the escrow service keeps the escrows balanced, whatever is
    refused. -/
theorem escrowCall_balances (call : Call) (hcall : call.isEscrow = true) (s : Db)
    (hs : s.EscrowsBalanced) : call.program.Ensures C s fun _ t => t.EscrowsBalanced := by
  have hfound : ∀ source escrow, s.escrows.findOne source = some escrow → escrow.Balanced :=
    fun source escrow hfind => hs escrow (Table.mem_of_findOne hfind)
  refine ensures_mono (escrowCall_steps call hcall s) fun _ t ht => ?_
  -- A step saves one escrow, and its books balance as they did before.
  cases ht with
  | unchanged => exact hs
  | created request hnew => exact escrowsBalanced_save hs (balanced_newEscrowRow request) rfl
  | logged request hC => exact hs
  | deposited request escrow hfind hopen =>
      exact escrowsBalanced_save hs (balanced_afterDeposit (hfound _ _ hfind) _) rfl
  | locked escrowId escrow hfind hactive =>
      exact escrowsBalanced_save hs (balanced_status (hfound _ _ hfind) _) rfl
  | closed escrowId escrow hfind =>
      exact escrowsBalanced_save hs (balanced_status (hfound _ _ hfind) _) rfl
  | released request escrow fee hfind hfee hcan htotal =>
      exact escrowsBalanced_save hs (balanced_afterRelease (hfound _ _ hfind) _ _) rfl
  | releaseInterrupted request escrow fee hC hfind hstopped =>
      exact interrupted_balanced hs (hfound _ _ hfind)
        (balanced_afterRelease (hfound _ _ hfind) _ _) hstopped
  | refunded request escrow hfind hcan hsome =>
      exact escrowsBalanced_save hs (balanced_afterRefund (hfound _ _ hfind) _) rfl
  | refundInterrupted request escrow hC hfind hstopped =>
      exact interrupted_balanced hs (hfound _ _ hfind)
        (balanced_afterRefund (hfound _ _ hfind) _) hstopped

end Balance

/-! ### The log -/

section Log

variable {s : Db}

/-- Booking rows of one escrow together with its row: the other escrows do not
    notice. -/
theorem escrowsLogged_book (escrow : EscrowAccount) (txs : List EscrowTransaction)
    (hs : s.EscrowsLogged) (hlogged : escrow.Logged (s.escrowTxs ++ txs))
    (hfee : 0 ≤ escrow.platformFeePercent ∧ escrow.platformFeePercent ≤ 100)
    (htxs : ∀ tx ∈ txs, tx.escrowId = escrow.escrowId) :
    ((s.withEscrowTxs txs).withEscrow escrow).EscrowsLogged := by
  refine ⟨fun e he => ?_, fun e he => ?_, fun tx htx => ?_⟩
  · rcases Table.mem_save.mp he with rfl | ⟨hold, hother⟩
    · exact hlogged
    · -- None of the new rows is of another escrow.
      have hnone : ∀ type, txSum (s.escrowTxs ++ txs) e.escrowId type =
          txSum s.escrowTxs e.escrowId type := by
        intro type
        rw [txSum_append, txSum_eq_zero fun tx htx hsame _ =>
          hother (hsame.symm.trans (htxs tx htx)), Int.add_zero]
      have hbefore := hs.logged e hold
      exact ⟨hbefore.deposited.trans (hnone _).symm, hbefore.released.trans (hnone _).symm,
        hbefore.refunded.trans (hnone _).symm, hbefore.fee.trans (hnone _).symm⟩
  · rcases Table.mem_save.mp he with rfl | ⟨hold, -⟩
    · exact hfee
    · exact hs.fee e hold
  · rcases List.mem_append.mp htx with hold | hnew
    · rcases hs.known tx hold with ⟨e, he⟩
      exact Table.exists_findOne_save he escrow
    · rw [htxs tx hnew]
      exact ⟨escrow, Table.findOne_save_self _ _⟩

/-- Changing the status of an escrow changes no books. -/
theorem escrowsLogged_status (hs : s.EscrowsLogged) {escrow : EscrowAccount} {source : SourceId}
    (hfind : s.escrows.findOne source = some escrow) (status : EscrowStatus) :
    (s.withEscrow { escrow with status := status }).EscrowsLogged := by
  have hmem := Table.mem_of_findOne hfind
  have hbefore := hs.logged escrow hmem
  have hbook := escrowsLogged_book { escrow with status := status } [] hs
    (by
      rw [List.append_nil]
      exact ⟨hbefore.deposited, hbefore.released, hbefore.refunded, hbefore.fee⟩)
    (hs.fee escrow hmem) fun tx htx => absurd htx List.not_mem_nil
  have hsame : s.withEscrowTxs [] = s := by
    unfold Db.withEscrowTxs
    rw [List.append_nil]
  rwa [hsame] at hbook

/-- What is known of an escrow that was found. -/
theorem Db.EscrowsLogged.found (hs : s.EscrowsLogged) {source : SourceId} {escrow : EscrowAccount}
    (hfind : s.escrows.findOne source = some escrow) :
    escrow.escrowId = source ∧ escrow.Logged s.escrowTxs ∧
      0 ≤ escrow.platformFeePercent ∧ escrow.platformFeePercent ≤ 100 := by
  have hmem := Table.mem_of_findOne hfind
  exact ⟨Table.key_of_findOne hfind, hs.logged escrow hmem, hs.fee escrow hmem⟩

/-- There is nothing in the log about an escrow that did not exist. -/
theorem escrowsLogged_created (hs : s.EscrowsLogged) {request : CreateEscrowRequest}
    (hnew : s.escrows.findOne request.source = none)
    (hfee : 0 ≤ (newEscrow request).platformFeePercent ∧
      (newEscrow request).platformFeePercent ≤ 100) :
    (s.withEscrow (newEscrow request)).EscrowsLogged := by
  have hzero : ∀ type, txSum s.escrowTxs request.source type = 0 := by
    intro type
    refine txSum_eq_zero fun tx htx hsame _ => ?_
    rcases hs.known tx htx with ⟨e, he⟩
    rw [hsame, hnew] at he
    cases he
  have hbook := escrowsLogged_book (newEscrow request) [] hs
    (by
      rw [List.append_nil]
      exact ⟨(hzero _).symm, (hzero _).symm, (hzero _).symm, (hzero _).symm⟩)
    hfee fun tx htx => absurd htx List.not_mem_nil
  unfold Db.withEscrowTxs at hbook
  rwa [List.append_nil] at hbook

/-- A deposit adds its amount to what was deposited, in the total and in the log. -/
theorem escrowsLogged_deposited (hs : s.EscrowsLogged) {request : DepositToEscrowRequest}
    {escrow : EscrowAccount} (hfind : s.escrows.findOne request.escrowId = some escrow) :
    ((s.withEscrowTxs [depositTx request]).withEscrow
      (escrow.afterDeposit request.amount)).EscrowsLogged := by
  rcases hs.found hfind with ⟨hkey, hbefore, hfee⟩
  have hsum : ∀ type, txSum (s.escrowTxs ++ [depositTx request]) escrow.escrowId type =
      txSum s.escrowTxs escrow.escrowId type + if type = .DEPOSIT then request.amount else 0 := by
    intro type
    rw [txSum_append, hkey]
    cases type <;> simp [txSum, depositTx]
  refine escrowsLogged_book _ _ hs ⟨?_, ?_, ?_, ?_⟩ hfee fun tx htx => ?_
  · exact (congrArg (· + request.amount) hbefore.deposited).trans (hsum _).symm
  · exact (hbefore.released.trans (Int.add_zero _).symm).trans (hsum _).symm
  · exact (hbefore.refunded.trans (Int.add_zero _).symm).trans (hsum _).symm
  · exact (hbefore.fee.trans (Int.add_zero _).symm).trans (hsum _).symm
  · rw [List.mem_singleton.mp htx]
    exact hkey.symm

/-- A release adds the prizes and the fee. -/
theorem escrowsLogged_released (hs : s.EscrowsLogged) {request : ReleaseEscrowRequest}
    {escrow : EscrowAccount} {fee : Int}
    (hfind : s.escrows.findOne request.escrowId = some escrow)
    (hfeeIs : fee = platformFeeOf escrow.currentBalance escrow.platformFeePercent)
    (hcan : escrow.canRelease = true) :
    ((s.withEscrowTxs (releaseTxs request fee)).withEscrow
      (escrow.afterRelease request.total fee)).EscrowsLogged := by
  rcases hs.found hfind with ⟨hkey, hbefore, hpercent⟩
  have hpositive : 0 < escrow.currentBalance := by
    unfold EscrowAccount.canRelease at hcan
    simp only [Bool.and_eq_true, decide_eq_true_eq] at hcan
    exact hcan.2
  have hfee : 0 ≤ fee := by
    rw [hfeeIs]
    exact platformFeeOf_nonneg (Int.le_of_lt hpositive) hpercent.1 hpercent.2
  have hsums := txSum_releaseTxs request hfee
  rw [← hkey] at hsums
  refine escrowsLogged_book _ _ hs ⟨?_, ?_, ?_, ?_⟩ hpercent fun tx htx => ?_
  · change escrow.totalDeposited = txSum _ escrow.escrowId _
    rw [txSum_append, hsums.1, ← hbefore.deposited, Int.add_zero]
  · change escrow.totalReleased + request.total = txSum _ escrow.escrowId _
    rw [txSum_append, hsums.2.1, ← hbefore.released]
  · change escrow.totalRefunded = txSum _ escrow.escrowId _
    rw [txSum_append, hsums.2.2.1, ← hbefore.refunded, Int.add_zero]
  · change escrow.platformFeeCollected + fee = txSum _ escrow.escrowId _
    rw [txSum_append, hsums.2.2.2, ← hbefore.fee]
  · exact (releaseTxs_escrowId request fee tx htx).trans hkey.symm

/-- A refund adds the deposits that it pays back. -/
theorem escrowsLogged_refunded (hs : s.EscrowsLogged) {request : RefundEscrowRequest}
    {escrow : EscrowAccount} (hfind : s.escrows.findOne request.escrowId = some escrow) :
    ((s.withEscrowTxs (refundTxs request (s.escrowTxs.filter request.covers))).withEscrow
      (escrow.afterRefund
        ((s.escrowTxs.filter request.covers).map EscrowTransaction.amount).sum)).EscrowsLogged := by
  rcases hs.found hfind with ⟨hkey, hbefore, hpercent⟩
  have hsums := txSum_refundTxs request (s.escrowTxs.filter request.covers)
  rw [← hkey] at hsums
  refine escrowsLogged_book _ _ hs ⟨?_, ?_, ?_, ?_⟩ hpercent fun tx htx => ?_
  · change escrow.totalDeposited = txSum _ escrow.escrowId _
    rw [txSum_append, hsums, ← hbefore.deposited, if_neg (fun h => by cases h), Int.add_zero]
  · change escrow.totalReleased = txSum _ escrow.escrowId _
    rw [txSum_append, hsums, ← hbefore.released, if_neg (fun h => by cases h), Int.add_zero]
  · change escrow.totalRefunded + _ = txSum _ escrow.escrowId _
    rw [txSum_append, hsums, ← hbefore.refunded, if_pos rfl]
  · change escrow.platformFeeCollected = txSum _ escrow.escrowId _
    rw [txSum_append, hsums, ← hbefore.fee, if_neg (fun h => by cases h), Int.add_zero]
  · rcases List.mem_map.mp htx with ⟨deposit, -, rfl⟩
    exact hkey.symm

/-- Every calm call of the escrow service keeps the totals and the log
    together. -/
theorem escrowCall_books (call : Call)
    (hcall : call.isEscrow = true ∧ call.FeeIsShare) (s : Db) (hs : s.EscrowsLogged) :
    call.program.Ensures False s fun _ t => t.EscrowsLogged := by
  refine ensures_mono (escrowCall_steps call hcall.1 s) fun _ t ht => ?_
  cases ht with
  | unchanged => exact hs
  -- A calm call is not interrupted.
  | logged request hC => exact hC.elim
  | releaseInterrupted request escrow fee hC => exact hC.elim
  | refundInterrupted request escrow hC => exact hC.elim
  | created request hnew => exact escrowsLogged_created hs hnew hcall.2
  | deposited request escrow hfind hopen => exact escrowsLogged_deposited hs hfind
  | locked escrowId escrow hfind hactive => exact escrowsLogged_status hs hfind .LOCKED
  | closed escrowId escrow hfind => exact escrowsLogged_status hs hfind .CLOSED
  | released request escrow fee hfind hfeeIs hcan htotal =>
      exact escrowsLogged_released hs hfind hfeeIs hcan
  | refunded request escrow hfind hcan hsome => exact escrowsLogged_refunded hs hfind

end Log

/-- In every run of the escrow service, whatever is refused, every escrow is
    balanced, and in a calm one its totals are the sums of the log. -/
theorem escrow_books (run : Run)
    (hrun : ∀ call ∈ run, call.1.isEscrow = true ∧ call.1.FeeIsShare) :
    (∀ escrow ∈ (Db.empty.after run).escrows.rows, escrow.Balanced) ∧
      (run.Calm → ∀ escrow ∈ (Db.empty.after run).escrows.rows,
        escrow.Logged (Db.empty.after run).escrowTxs) := by
  constructor
  · exact after_invariant (C := True) (P := fun call => call.isEscrow = true)
      (fun call s hcall hs => escrowCall_balances call hcall s hs)
      (fun escrow h => absurd h List.not_mem_nil) (fun call hcall => (hrun call hcall).1)
      fun h => absurd trivial h
  · -- Only without refusals does the log have a row for everything.
    intro hcalm
    have hstart : Db.empty.EscrowsLogged :=
      ⟨fun _ h => absurd h List.not_mem_nil, fun _ h => absurd h List.not_mem_nil,
        fun _ h => absurd h List.not_mem_nil⟩
    exact (after_invariant (C := False)
      (fun call s hcall hs => escrowCall_books call hcall s hs) hstart hrun
      fun _ => hcalm).logged

/-- Two wallets pay into an escrow, one gets what the fee leaves. -/
def releasedEscrow : Run :=
  Run.calmly
    [.createEscrow { source := matchSource "m" },
     .depositToEscrow { escrowId := matchSource "m", walletId := 0, amount := 1000 },
     .depositToEscrow { escrowId := matchSource "m", walletId := 1, amount := 1000 },
     .lockEscrow (matchSource "m"),
     .releaseEscrow { escrowId := matchSource "m", distributions := [⟨0, 1900, some 1⟩] }]

theorem escrow_books_releasedEscrow :
    (Db.empty.after releasedEscrow).escrows.rows.length = 1 ∧
      ∀ escrow ∈ (Db.empty.after releasedEscrow).escrows.rows,
        escrow.Balanced ∧ escrow.Logged (Db.empty.after releasedEscrow).escrowTxs := by
  have hbooks := escrow_books releasedEscrow (by decide +kernel)
  refine ⟨by decide +kernel, fun escrow hmem => ?_⟩
  exact ⟨hbooks.1 escrow hmem, hbooks.2 (Run.calmly_calm _) escrow hmem⟩

end Esports

end SvmCourse
