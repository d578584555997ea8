import SvmCourse.Esports.Books

/-!
# Refunding Some Wallets

A refund pays back every deposit of the wallets it names. Nothing remembers
which deposits were paid back before, and what is left of the escrow is open
again unless nothing is left. So a wallet that is refunded twice gets more than
it paid in, and refunding one wallet of a locked escrow opens the escrow for
deposits.

When no wallet is refunded twice and a locked escrow is only refunded as a
whole, this cannot happen. The argument compares sums over sets of wallets: for
every set, what was refunded to its wallets is at most what they deposited. A
refund splits the set into the wallets it covers, which had no refund so far,
and the others, which do not notice.

## Main definitions

* `sumWhere`: The rows of one kind of some wallets of an escrow.
* `RefundsOnce`, `RefundingOnce`: The refunds that do no harm, and runs of
  them.
* `Refunding`: The invariant of such runs.

## Theorems

* `escrowCall_refunding`: Every call keeps the invariant.
* `escrowCall_shut`: An escrow that takes no deposits takes none later.
* `refunds_covered`: Refunds stay within deposits in every such run.
-/

namespace SvmCourse

namespace Esports

open Core Core.Prog

/-- The amounts of one kind of row of an escrow, of the wallets in `p`. -/
def sumWhere (txs : List EscrowTransaction) (source : SourceId) (type : EscrowTransactionType)
    (p : Option Nat → Bool) : Int :=
  ((txs.filter fun tx => tx.escrowId = source && tx.type = type && p tx.participantWalletId).map
    EscrowTransaction.amount).sum

/-- The amounts of one kind of row of one wallet. -/
def walletSum (txs : List EscrowTransaction) (source : SourceId) (type : EscrowTransactionType)
    (walletId : Nat) : Int :=
  sumWhere txs source type fun w => w = some walletId

/-- The wallets a request asks back. -/
def RefundEscrowRequest.coversWallet (request : RefundEscrowRequest) (w : Option Nat) : Bool :=
  match request.walletIds with
  | some walletIds => w.any walletIds.contains
  | none => true

/-- A deposit is positive. -/
def Call.DepositIsPositive : Call → Prop
  | .depositToEscrow request => 0 < request.amount
  | _ => True

/-- A refund that goes through covers no wallet that was refunded before, and
    a refund of a locked escrow pays back all that is in it. -/
def RefundsOnce (s : Db) : Call → Prop
  | .refundEscrow request => ∀ escrow, s.escrows.findOne request.escrowId = some escrow →
      escrow.canRefund = true → s.escrowTxs.filter request.covers ≠ [] →
        (∀ tx ∈ s.escrowTxs, tx.escrowId = request.escrowId → tx.type = .REFUND →
          request.coversWallet tx.participantWalletId = false) ∧
        (escrow.status = .LOCKED →
          ((s.escrowTxs.filter request.covers).map EscrowTransaction.amount).sum =
            escrow.currentBalance)
  | _ => True

/-- Every call of a calm run meets the condition when it is made. -/
def RefundingOnce : Db → List Call → Prop
  | _, [] => True
  | s, call :: rest => RefundsOnce s call ∧ RefundingOnce (call.program.eval s).2 rest

instance (s : Db) : (call : Call) → Decidable (RefundsOnce s call)
  | .refundEscrow request =>
    decidable_of_iff (∀ escrow ∈ (s.escrows.findOne request.escrowId).toList,
      escrow.canRefund = true → s.escrowTxs.filter request.covers ≠ [] →
        (∀ tx ∈ s.escrowTxs, tx.escrowId = request.escrowId → tx.type = .REFUND →
          request.coversWallet tx.participantWalletId = false) ∧
        (escrow.status = .LOCKED →
          ((s.escrowTxs.filter request.covers).map EscrowTransaction.amount).sum =
            escrow.currentBalance))
      (by simp only [Option.mem_toList]; rfl)
  | .createWallet _ | .deposit _ | .withdraw _ | .createMatch _ | .joinMatch _ | .startMatch _ _
  | .submitResult _ | .cancelMatch _ _ | .createTournament _ | .openRegistration _
  | .registerPlayer _ | .closeRegistration _ | .generateBracket _ | .startTournament _
  | .advanceRound _ | .cancelTournament _ _ | .createEscrow _ | .depositToEscrow _
  | .lockEscrow _ | .releaseEscrow _ | .closeEscrow _ | .lockFunds _ | .unlockFunds _
  | .deductEntryFee _ _ => isTrue trivial

instance RefundingOnce.decidable : (s : Db) → (calls : List Call) →
    Decidable (RefundingOnce s calls)
  | _, [] => isTrue trivial
  | s, call :: rest =>
    have := RefundingOnce.decidable (call.program.eval s).2 rest
    inferInstanceAs (Decidable (RefundsOnce s call ∧ RefundingOnce (call.program.eval s).2 rest))

/-- What the refunds of an escrow have to do with its deposits and its balance. -/
structure Refunding (s : Db) : Prop where
  covered : ∀ source p,
    sumWhere s.escrowTxs source .REFUND p ≤ sumWhere s.escrowTxs source .DEPOSIT p
  balance : ∀ escrow ∈ s.escrows.rows, 0 ≤ escrow.currentBalance
  held : ∀ escrow ∈ s.escrows.rows, escrow.canDeposit = true ∨ escrow.status = .LOCKED →
    escrow.currentBalance = sumWhere s.escrowTxs escrow.escrowId .DEPOSIT (fun _ => true) -
      sumWhere s.escrowTxs escrow.escrowId .REFUND fun _ => true
  known : ∀ tx ∈ s.escrowTxs, ∃ escrow, s.escrows.findOne tx.escrowId = some escrow

/-! ### Sums over wallets -/

section Sums

variable {txs txs' : List EscrowTransaction} {source : SourceId} {type : EscrowTransactionType}
  {p : Option Nat → Bool}

theorem sumWhere_append :
    sumWhere (txs ++ txs') source type p = sumWhere txs source type p +
      sumWhere txs' source type p := by
  unfold sumWhere
  rw [List.filter_append, List.map_append, List.sum_append]

/-- Rows of other escrows, of another kind or of other wallets do not count. -/
theorem sumWhere_eq_zero (txs : List EscrowTransaction)
    (h : ∀ tx ∈ txs, tx.escrowId = source → tx.type = type → p tx.participantWalletId = false) :
    sumWhere txs source type p = 0 := by
  have hnil : (txs.filter fun tx =>
      tx.escrowId = source && tx.type = type && p tx.participantWalletId) = [] := by
    rw [List.filter_eq_nil_iff]
    intro tx htx hall
    simp only [Bool.and_eq_true, decide_eq_true_eq] at hall
    exact Bool.false_ne_true ((h tx htx hall.1.1 hall.1.2).symm.trans hall.2)
  unfold sumWhere
  rw [hnil]
  rfl

/-- The wallets of a set, those in another set first. -/
theorem sumWhere_split (txs : List EscrowTransaction) (source : SourceId)
    (type : EscrowTransactionType) (p c : Option Nat → Bool) :
    sumWhere txs source type p = sumWhere txs source type (fun w => c w && p w) +
      sumWhere txs source type fun w => !c w && p w := by
  unfold sumWhere
  induction txs with
  | nil => rfl
  | cons tx txs ih =>
      simp only [List.filter_cons]
      cases hc : c tx.participantWalletId <;> cases hp : p tx.participantWalletId <;>
        by_cases h : tx.escrowId = source ∧ tx.type = type
      all_goals simp [h, ih]
      all_goals omega

/-- The rows of a release are neither deposits nor refunds. -/
theorem releaseTxs_no_deposit_refund (request : ReleaseEscrowRequest) (fee : Int) :
    ∀ tx ∈ releaseTxs request fee, tx.type ≠ .DEPOSIT ∧ tx.type ≠ .REFUND := by
  intro tx htx
  rcases List.mem_append.mp htx with hfee | hdist
  · by_cases hpos : 0 < fee
    · rw [if_pos hpos, List.mem_singleton] at hfee
      rw [hfee]
      exact ⟨nofun, nofun⟩
    · rw [if_neg hpos] at hfee
      exact absurd hfee List.not_mem_nil
  · rcases List.mem_map.mp hdist with ⟨dist, -, rfl⟩
    exact ⟨nofun, nofun⟩

/-- The rows of a refund are the deposits it covers. -/
theorem sumWhere_refundTxs (request : RefundEscrowRequest) (txs : List EscrowTransaction) :
    sumWhere (refundTxs request (txs.filter request.covers)) request.escrowId .REFUND p =
      sumWhere txs request.escrowId .DEPOSIT fun w => request.coversWallet w && p w := by
  unfold sumWhere refundTxs
  -- On the rows: each covered deposit has a refund of the same wallet and amount.
  induction txs with
  | nil => rfl
  | cons tx txs ih =>
      have hcovers : request.covers tx = (tx.escrowId = request.escrowId && tx.type = .DEPOSIT &&
          request.coversWallet tx.participantWalletId) := rfl
      simp only [List.filter_cons]
      by_cases h : request.covers tx = true
      · have h' := h
        rw [hcovers] at h'
        simp only [Bool.and_eq_true, decide_eq_true_eq] at h'
        cases hp : p tx.participantWalletId
        all_goals simp [h, h', hp, ih]
      · have h' := h
        rw [hcovers] at h'
        simp only [Bool.and_eq_true, decide_eq_true_eq] at h'
        have hnot : ¬((tx.escrowId = request.escrowId ∧ tx.type = .DEPOSIT) ∧
            request.coversWallet tx.participantWalletId = true ∧
              p tx.participantWalletId = true) := fun hall => h' ⟨hall.1, hall.2.1⟩
        simp [h, hnot, ih]

end Sums

/-! ### One call -/

section Steps

variable {s : Db}

theorem coversWallet_sum (request : RefundEscrowRequest) (txs : List EscrowTransaction) :
    ((txs.filter request.covers).map EscrowTransaction.amount).sum =
      sumWhere txs request.escrowId .DEPOSIT request.coversWallet := rfl

/-- Booking rows of one escrow that deposit or refund nothing. -/
theorem refunding_book (escrow : EscrowAccount) (txs : List EscrowTransaction) (hs : Refunding s)
    (hbalance : 0 ≤ escrow.currentBalance)
    (hheld : escrow.canDeposit = true ∨ escrow.status = .LOCKED → escrow.currentBalance =
      sumWhere (s.escrowTxs ++ txs) escrow.escrowId .DEPOSIT (fun _ => true) -
        sumWhere (s.escrowTxs ++ txs) escrow.escrowId .REFUND fun _ => true)
    (hcovered : ∀ p, sumWhere (s.escrowTxs ++ txs) escrow.escrowId .REFUND p ≤
      sumWhere (s.escrowTxs ++ txs) escrow.escrowId .DEPOSIT p)
    (htxs : ∀ tx ∈ txs, tx.escrowId = escrow.escrowId) :
    Refunding ((s.withEscrowTxs txs).withEscrow escrow) := by
  -- The sums of the other escrows stay as they were.
  have hother : ∀ source, source ≠ escrow.escrowId → ∀ type p,
      sumWhere (s.escrowTxs ++ txs) source type p = sumWhere s.escrowTxs source type p := by
    intro source hne type p
    rw [sumWhere_append, sumWhere_eq_zero _ fun tx htx hsame _ =>
      absurd (hsame.symm.trans (htxs tx htx)) hne, Int.add_zero]
  refine ⟨fun source p => ?_, fun e he => ?_, fun e he hopen => ?_, fun tx htx => ?_⟩
  · change sumWhere (s.escrowTxs ++ txs) source .REFUND p ≤ _
    by_cases hsource : source = escrow.escrowId
    · rw [hsource]
      exact hcovered p
    · change _ ≤ sumWhere (s.escrowTxs ++ txs) source .DEPOSIT p
      rw [hother source hsource, hother source hsource]
      exact hs.covered source p
  · rcases Table.mem_save.mp he with rfl | ⟨hold, -⟩
    · exact hbalance
    · exact hs.balance e hold
  · rcases Table.mem_save.mp he with rfl | ⟨hold, hne⟩
    · exact hheld hopen
    · change e.currentBalance = sumWhere (s.escrowTxs ++ txs) _ _ _ -
        sumWhere (s.escrowTxs ++ txs) _ _ _
      rw [hother e.escrowId hne, hother e.escrowId hne]
      exact hs.held e hold hopen
  · rcases List.mem_append.mp htx with hold | hnew
    · rcases hs.known tx hold with ⟨e, he⟩
      exact Table.exists_findOne_save he escrow
    · rw [htxs tx hnew]
      exact ⟨escrow, Table.findOne_save_self _ _⟩

/-- Saving an escrow whose balance is as it was, when it is open only if it was
    before. -/
theorem refunding_status (hs : Refunding s) {escrow : EscrowAccount} {source : SourceId}
    (hfind : s.escrows.findOne source = some escrow) (status : EscrowStatus)
    (hopen : escrow.canDeposit = true ∨ escrow.status = .LOCKED ∨ status = .CLOSED) :
    Refunding (s.withEscrow { escrow with status := status }) := by
  have hmem := Table.mem_of_findOne hfind
  have hbook := refunding_book { escrow with status := status } [] hs (hs.balance escrow hmem)
    (fun hafter => ?_) (fun p => ?_) fun tx htx => absurd htx List.not_mem_nil
  · unfold Db.withEscrowTxs at hbook
    rwa [List.append_nil] at hbook
  · rw [List.append_nil]
    refine hs.held escrow hmem ?_
    -- An escrow that is closed has to hold nothing.
    rcases hopen with h | h | h
    · exact Or.inl h
    · exact Or.inr h
    · rw [h] at hafter
      exact hafter.elim (fun h => nomatch h) fun h => nomatch h
  · rw [List.append_nil]
    exact hs.covered _ p

/-- A deposit adds to the deposits of its wallet. -/
theorem sumWhere_depositTx (txs : List EscrowTransaction) (request : DepositToEscrowRequest)
    (p : Option Nat → Bool) :
    sumWhere (txs ++ [depositTx request]) request.escrowId .DEPOSIT p =
        sumWhere txs request.escrowId .DEPOSIT p +
          (if p (some request.walletId) then request.amount else 0) ∧
      sumWhere (txs ++ [depositTx request]) request.escrowId .REFUND p =
        sumWhere txs request.escrowId .REFUND p := by
  constructor
  · rw [sumWhere_append]
    cases hp : p (some request.walletId) <;> simp [sumWhere, depositTx, hp]
  · rw [sumWhere_append]
    simp [sumWhere, depositTx]

/-- A release adds neither to the deposits nor to the refunds. -/
theorem sumWhere_releaseTxs (txs : List EscrowTransaction) (request : ReleaseEscrowRequest)
    (fee : Int) {type : EscrowTransactionType} (htype : type = .DEPOSIT ∨ type = .REFUND)
    (source : SourceId) (p : Option Nat → Bool) :
    sumWhere (txs ++ releaseTxs request fee) source type p = sumWhere txs source type p := by
  have hno := releaseTxs_no_deposit_refund request fee
  rw [sumWhere_append, sumWhere_eq_zero (releaseTxs request fee), Int.add_zero]
  intro tx htx _ hsame
  rcases htype with rfl | rfl
  · exact absurd hsame (hno tx htx).1
  · exact absurd hsame (hno tx htx).2

/-- A refund adds to the refunds what the wallets it covers have deposited. -/
theorem sumWhere_refunded (txs : List EscrowTransaction) (request : RefundEscrowRequest)
    (p : Option Nat → Bool) :
    sumWhere (txs ++ refundTxs request (txs.filter request.covers)) request.escrowId .DEPOSIT p =
        sumWhere txs request.escrowId .DEPOSIT p ∧
      sumWhere (txs ++ refundTxs request (txs.filter request.covers)) request.escrowId .REFUND p =
        sumWhere txs request.escrowId .REFUND p +
          sumWhere txs request.escrowId .DEPOSIT fun w => request.coversWallet w && p w := by
  constructor
  · rw [sumWhere_append, sumWhere_eq_zero (refundTxs request _), Int.add_zero]
    intro tx htx _ hsame
    exact absurd hsame (refundTxs_type request _ tx htx)
  · rw [sumWhere_append, sumWhere_refundTxs]

/-- The wallets a refund covers had none before, so the others had it all. -/
theorem refunds_le_deposits (hs : Refunding s) {request : RefundEscrowRequest}
    (hnew : ∀ tx ∈ s.escrowTxs, tx.escrowId = request.escrowId → tx.type = .REFUND →
      request.coversWallet tx.participantWalletId = false) (p : Option Nat → Bool) :
    sumWhere s.escrowTxs request.escrowId .REFUND p +
        sumWhere s.escrowTxs request.escrowId .DEPOSIT (fun w => request.coversWallet w && p w) ≤
      sumWhere s.escrowTxs request.escrowId .DEPOSIT p := by
  have hzero : sumWhere s.escrowTxs request.escrowId .REFUND
      (fun w => request.coversWallet w && p w) = 0 := by
    refine sumWhere_eq_zero _ fun tx htx hsame htype => ?_
    rw [hnew tx htx hsame htype, Bool.false_and]
  have hsplit := sumWhere_split s.escrowTxs request.escrowId .REFUND p request.coversWallet
  have hsplit' := sumWhere_split s.escrowTxs request.escrowId .DEPOSIT p request.coversWallet
  have hrest := hs.covered request.escrowId fun w => !request.coversWallet w && p w
  omega

/-- An escrow that did not exist has no rows. -/
theorem refunding_created (hs : Refunding s) {request : CreateEscrowRequest}
    (hnew : s.escrows.findOne request.source = none) :
    Refunding (s.withEscrow (newEscrow request)) := by
  -- Every row is of an escrow there is.
  have hzero : ∀ type p, sumWhere s.escrowTxs request.source type p = 0 := by
    intro type p
    refine sumWhere_eq_zero _ fun tx htx hsame _ => ?_
    rcases hs.known tx htx with ⟨e, he⟩
    rw [hsame, hnew] at he
    exact nomatch he
  have hbook := refunding_book (newEscrow request) [] hs (le_refl 0)
    (fun _ => by rw [List.append_nil, show (newEscrow request).escrowId = request.source
      from rfl, hzero, hzero]; rfl)
    (fun p => by rw [List.append_nil]; exact hs.covered _ p)
    fun tx htx => absurd htx List.not_mem_nil
  unfold Db.withEscrowTxs at hbook
  rwa [List.append_nil] at hbook

theorem refunding_deposited (hs : Refunding s) {request : DepositToEscrowRequest}
    {escrow : EscrowAccount} (hamount : 0 < request.amount)
    (hfind : s.escrows.findOne request.escrowId = some escrow) (hopen : escrow.canDeposit = true) :
    Refunding ((s.withEscrowTxs [depositTx request]).withEscrow
      (escrow.afterDeposit request.amount)) := by
  have hmem := Table.mem_of_findOne hfind
  have hkey : escrow.escrowId = request.escrowId := Table.key_of_findOne hfind
  have hbefore := hs.held escrow hmem (Or.inl hopen)
  have hnonneg := hs.balance escrow hmem
  have hsums := sumWhere_depositTx s.escrowTxs request
  rw [← hkey] at hsums
  refine refunding_book _ _ hs ?_ (fun _ => ?_) (fun p => ?_) fun tx htx => ?_
  · -- The balance and the deposits grow by the same amount.
    change 0 ≤ escrow.currentBalance + request.amount
    omega
  · change escrow.currentBalance + request.amount = sumWhere _ escrow.escrowId _ _ -
      sumWhere _ escrow.escrowId _ _
    rw [(hsums _).1, (hsums _).2, if_pos rfl]
    omega
  · change sumWhere _ escrow.escrowId _ _ ≤ sumWhere _ escrow.escrowId _ _
    rw [(hsums p).1, (hsums p).2]
    have hcovered := hs.covered escrow.escrowId p
    split <;> omega
  · rw [List.mem_singleton.mp htx]
    exact hkey.symm

theorem refunding_released (hs : Refunding s) {request : ReleaseEscrowRequest}
    {escrow : EscrowAccount} {fee : Int}
    (hfind : s.escrows.findOne request.escrowId = some escrow)
    (htotal : request.total ≤ escrow.currentBalance - fee) :
    Refunding ((s.withEscrowTxs (releaseTxs request fee)).withEscrow
      (escrow.afterRelease request.total fee)) := by
  have hkey : escrow.escrowId = request.escrowId := Table.key_of_findOne hfind
  refine refunding_book _ _ hs ?_ (fun hopen => ?_) (fun p => ?_) fun tx htx => ?_
  · change 0 ≤ escrow.currentBalance - request.total - fee
    omega
  · exact hopen.elim (fun h => nomatch h) fun h => nomatch h
  · rw [sumWhere_releaseTxs _ _ _ (Or.inl rfl), sumWhere_releaseTxs _ _ _ (Or.inr rfl)]
    exact hs.covered _ p
  · exact (releaseTxs_escrowId request fee tx htx).trans hkey.symm

theorem refunding_refunded (hs : Refunding s) {request : RefundEscrowRequest}
    {escrow : EscrowAccount} (hfind : s.escrows.findOne request.escrowId = some escrow)
    (hcan : escrow.canRefund = true)
    (hnew : ∀ tx ∈ s.escrowTxs, tx.escrowId = request.escrowId → tx.type = .REFUND →
      request.coversWallet tx.participantWalletId = false) :
    Refunding ((s.withEscrowTxs (refundTxs request
      (s.escrowTxs.filter request.covers))).withEscrow (escrow.afterRefund
        ((s.escrowTxs.filter request.covers).map EscrowTransaction.amount).sum)) := by
  have hkey : escrow.escrowId = request.escrowId := Table.key_of_findOne hfind
  have hsums := sumWhere_refunded s.escrowTxs request
  have hothers := refunds_le_deposits hs hnew
  have hall := hothers fun _ => true
  have hsum : ((s.escrowTxs.filter request.covers).map EscrowTransaction.amount).sum =
      sumWhere s.escrowTxs request.escrowId .DEPOSIT fun w => request.coversWallet w && true := by
    simp only [Bool.and_true]
    exact coversWallet_sum request s.escrowTxs
  -- What can be refunded still holds its deposits, less the earlier refunds.
  have hopen : escrow.canDeposit = true ∨ escrow.status = .LOCKED := by
    unfold EscrowAccount.canRefund at hcan
    unfold EscrowAccount.canDeposit EscrowAccount.isActive
    cases hstatus : escrow.status <;> rw [hstatus] at hcan <;> simp_all
  have hbefore := hs.held escrow (Table.mem_of_findOne hfind) hopen
  rw [hkey] at hbefore
  refine refunding_book _ _ hs ?_ (fun _ => ?_) (fun p => ?_) fun tx htx => ?_
  · change 0 ≤ escrow.currentBalance - _
    omega
  · change escrow.currentBalance - _ = sumWhere _ escrow.escrowId _ _ -
      sumWhere _ escrow.escrowId _ _
    rw [hkey, (hsums _).1, (hsums _).2]
    omega
  · change sumWhere _ escrow.escrowId _ _ ≤ sumWhere _ escrow.escrowId _ _
    rw [hkey, (hsums p).1, (hsums p).2]
    exact hothers p
  · rcases List.mem_map.mp htx with ⟨deposit, -, rfl⟩
    exact hkey.symm

/-- Every calm call that refunds nobody twice keeps the invariant. -/
theorem escrowCall_refunding (call : Call)
    (hcall : call.isEscrow = true ∧ call.DepositIsPositive) (hs : Refunding s)
    (honce : RefundsOnce s call) : call.program.Ensures False s fun _ t => Refunding t := by
  refine ensures_mono (escrowCall_steps call hcall.1 s) fun _ t ht => ?_
  cases ht with
  | unchanged => exact hs
  -- In a calm run no access is refused, so no settlement is interrupted.
  | logged request hC => exact hC.elim
  | releaseInterrupted request escrow fee hC => exact hC.elim
  | refundInterrupted request escrow hC => exact hC.elim
  | created request hnew => exact refunding_created hs hnew
  | deposited request escrow hfind hopen => exact refunding_deposited hs hcall.2 hfind hopen
  | locked escrowId escrow hfind hactive =>
      refine refunding_status hs hfind .LOCKED (Or.inl ?_)
      unfold EscrowAccount.canDeposit EscrowAccount.isActive
      rw [hactive]
      rfl
  | closed escrowId escrow hfind =>
      exact refunding_status hs hfind .CLOSED (Or.inr (Or.inr rfl))
  | released request escrow fee hfind hfee hcan htotal => exact refunding_released hs hfind htotal
  | refunded request escrow hfind hcan hsome =>
      exact refunding_refunded hs hfind hcan (honce escrow hfind hcan hsome).1

end Steps

/-! ### Closed to deposits -/

/-- The escrow exists and takes no deposits. -/
def Db.shut (db : Db) (source : SourceId) : Prop :=
  ∃ escrow, db.escrows.findOne source = some escrow ∧ escrow.canDeposit = false

section Shut

variable {s t : Db} {source : SourceId}

/-- Saving an escrow does not open another one. -/
theorem shut_save (h : s.shut source) {escrow : EscrowAccount}
    (ht : t.escrows = s.escrows.save escrow)
    (hsame : escrow.escrowId = source → escrow.canDeposit = false) : t.shut source := by
  unfold Db.shut
  rw [ht]
  by_cases hkey : source = escrow.escrowId
  · rw [hkey]
    exact ⟨escrow, Table.findOne_save_self _ _, hsame hkey.symm⟩
  · rw [Table.findOne_save_of_ne hkey]
    exact h

/-- An escrow that takes no deposits takes none after a call either. -/
theorem escrowCall_shut (call : Call) (hcall : call.isEscrow = true) (honce : RefundsOnce s call)
    (h : s.shut source) : call.program.Ensures False s fun _ t => t.shut source := by
  have hfound : ∀ escrow, s.escrows.findOne source = some escrow → escrow.canDeposit = false := by
    intro escrow hfind
    rcases h with ⟨found, hfind', hshut⟩
    rwa [Option.some.inj (hfind.symm.trans hfind')]
  refine ensures_mono (escrowCall_steps call hcall s) fun _ t ht => ?_
  cases ht with
  | unchanged => exact h
  | logged request hC => exact hC.elim
  | releaseInterrupted request escrow fee hC => exact hC.elim
  | refundInterrupted request escrow hC => exact hC.elim
  | created request hnew =>
      refine shut_save h rfl fun hsame => ?_
      rcases h with ⟨found, hfind, -⟩
      rw [← hsame, show (newEscrow request).escrowId = request.source from rfl, hnew] at hfind
      exact nomatch hfind
  | deposited request escrow hfind hopen =>
      refine shut_save h rfl fun hsame => ?_
      have hkey : escrow.escrowId = request.escrowId := Table.key_of_findOne hfind
      have hsame' : request.escrowId = source := hkey.symm.trans hsame
      exact absurd hopen (Bool.eq_false_iff.mp (hfound escrow (hsame' ▸ hfind)))
  | locked escrowId escrow hfind hactive => exact shut_save h rfl fun _ => rfl
  | closed escrowId escrow hfind => exact shut_save h rfl fun _ => rfl
  | released request escrow fee hfind hfee hcan htotal => exact shut_save h rfl fun _ => rfl
  | refunded request escrow hfind hcan hsome =>
      refine shut_save h rfl fun hsame => ?_
      have hkey : escrow.escrowId = request.escrowId := Table.key_of_findOne hfind
      have hsame' : request.escrowId = source := hkey.symm.trans hsame
      have hshut := hfound escrow (hsame' ▸ hfind)
      -- The escrow can be refunded and takes no deposits, so it is locked.
      have hlocked : escrow.status = .LOCKED := by
        unfold EscrowAccount.canRefund at hcan
        unfold EscrowAccount.canDeposit EscrowAccount.isActive at hshut
        cases hstatus : escrow.status <;> rw [hstatus] at hcan hshut <;> simp_all
      have hall := (honce escrow hfind hcan hsome).2 hlocked
      have hzero : escrow.currentBalance -
          ((s.escrowTxs.filter request.covers).map EscrowTransaction.amount).sum = 0 := by
        omega
      unfold EscrowAccount.afterRefund EscrowAccount.canDeposit EscrowAccount.isActive
      simp only
      rw [if_pos hzero]
      rfl

end Shut

/-! ### Runs -/

section Runs

variable {s : Db} {calls rest : List Call}

theorem refundingOnce_append : RefundingOnce s (calls ++ rest) ↔
    RefundingOnce s calls ∧ RefundingOnce (s.after (Run.calmly calls)) rest := by
  induction calls generalizing s with
  | nil => exact ⟨fun h => ⟨trivial, h⟩, fun h => h.2⟩
  | cons call calls ih =>
      rw [List.cons_append, after_calmly_cons, RefundingOnce, RefundingOnce, ih, and_assoc]

/-- What every call keeps that refunds nobody twice, a run of them keeps. -/
theorem refundingOnce_invariant {I : Db → Prop}
    (hstep : ∀ call ∈ calls, ∀ s, RefundsOnce s call → I s →
      call.program.Ensures False s fun _ t => I t)
    (hrun : RefundingOnce s calls) (hs : I s) : I (s.after (Run.calmly calls)) := by
  induction calls generalizing s with
  | nil => exact hs
  | cons call calls ih =>
      rw [after_calmly_cons]
      refine ih (fun c hc => hstep c (List.mem_cons_of_mem _ hc)) hrun.2 ?_
      exact (ensures_false_iff ..).mp (hstep call List.mem_cons_self s hrun.1 hs)

end Runs

/-- In every calm run of the escrow service in which no refund that goes
    through covers a wallet that was refunded before, and none leaves anything
    in a locked escrow, no wallet gets more back than it deposited, no balance
    is negative, and an escrow that was locked accepts no deposit later. -/
theorem refunds_covered (calls : List Call)
    (hcalls : ∀ call ∈ calls, call.isEscrow = true ∧ call.DepositIsPositive)
    (hrun : RefundingOnce Db.empty calls) :
    let t := Db.empty.after (Run.calmly calls)
    (∀ source walletId,
      walletSum t.escrowTxs source .REFUND walletId ≤
        walletSum t.escrowTxs source .DEPOSIT walletId) ∧
    (∀ escrow ∈ t.escrows.rows, 0 ≤ escrow.currentBalance) ∧
    ∀ before later source escrow, calls = before ++ later →
      (Db.empty.after (Run.calmly before)).escrows.findOne source = some escrow →
        escrow.status = .LOCKED → ∀ walletId amount,
          ∃ e, ((depositToEscrow
            { escrowId := source, walletId := walletId, amount := amount }).eval t).1 =
              .error e := by
  intro t
  have hstart : Refunding Db.empty :=
    ⟨fun _ _ => le_refl 0, fun _ h => absurd h List.not_mem_nil,
      fun _ h => absurd h List.not_mem_nil, fun _ h => absurd h List.not_mem_nil⟩
  have hends : Refunding t := refundingOnce_invariant
    (fun call hcall s honce hs => escrowCall_refunding call (hcalls call hcall) hs honce) hrun
    hstart
  refine ⟨fun source walletId => hends.covered source _, hends.balance, ?_⟩
  intro before later source escrow hsplit hfind hlocked walletId amount
  -- Once locked an escrow stays shut, by induction on the calls that follow.
  have hshut : t.shut source := by
    have hrun' := hrun
    rw [hsplit, refundingOnce_append] at hrun'
    have hrest : t = (Db.empty.after (Run.calmly before)).after (Run.calmly later) := by
      rw [← Db.after_append]
      unfold Run.calmly
      rw [← List.map_append, ← hsplit]
      rfl
    rw [hrest]
    refine refundingOnce_invariant (I := fun s => s.shut source)
      (fun call hcall s honce hs => ?_) hrun'.2
      ⟨escrow, hfind, ?_⟩
    · refine escrowCall_shut call (hcalls call ?_).1 honce hs
      rw [hsplit]
      exact List.mem_append_right _ hcall
    · unfold EscrowAccount.canDeposit EscrowAccount.isActive
      rw [hlocked]
      rfl
  have hends' := (ensures_false_iff ..).mp (depositToEscrow_ensures (C := False)
    { escrowId := source, walletId := walletId, amount := amount } t)
  rcases hresult : ((depositToEscrow
    { escrowId := source, walletId := walletId, amount := amount }).eval t).1 with e | tx
  · exact ⟨e, rfl⟩
  · -- So a deposit that goes through would have found it open.
    rw [hresult] at hends'
    rcases hends' with ⟨found, hfound, hopen, -⟩
    rcases hshut with ⟨e, he, hclosed⟩
    obtain rfl : found = e := Option.some.inj (hfound.symm.trans he)
    exact absurd hopen (Bool.eq_false_iff.mp hclosed)

/-- The calls that open an escrow with a deposit of two wallets. -/
def fundedEscrow : List Call :=
  [.createEscrow { source := matchSource "m" },
   .depositToEscrow { escrowId := matchSource "m", walletId := 0, amount := 1000 },
   .depositToEscrow { escrowId := matchSource "m", walletId := 1, amount := 1000 }]

/-- One wallet is refunded. -/
def refundWallet (walletId : Nat) : Call :=
  .refundEscrow { escrowId := matchSource "m", walletIds := some [walletId] }

/-- A wallet is refunded twice and gets twice its deposit. A wallet is refunded
    from a locked escrow, and the escrow accepts a deposit again. -/
theorem not_covered_refundedTwice :
    (let t := Db.empty.after (Run.calmly (fundedEscrow ++ [refundWallet 0, refundWallet 0]))
     walletSum t.escrowTxs (matchSource "m") .DEPOSIT 0 <
       walletSum t.escrowTxs (matchSource "m") .REFUND 0) ∧
    (let t := Db.empty.after (Run.calmly
       (fundedEscrow ++ [.lockEscrow (matchSource "m"), refundWallet 0]))
     ((depositToEscrow
       { escrowId := matchSource "m", walletId := 0, amount := 1000 }).eval t).1.toBool =
         true) := by
  decide +kernel

/-- Each wallet is refunded once. -/
theorem refunds_covered_refundedOnce :
    walletSum (Db.empty.after (Run.calmly
      (fundedEscrow ++ [refundWallet 0, refundWallet 1]))).escrowTxs (matchSource "m") .REFUND 0 ≤
    walletSum (Db.empty.after (Run.calmly
      (fundedEscrow ++ [refundWallet 0, refundWallet 1]))).escrowTxs (matchSource "m") .DEPOSIT
        0 := by
  refine (refunds_covered (fundedEscrow ++ [refundWallet 0, refundWallet 1]) ?_ ?_).1 _ _
  · simp [fundedEscrow, refundWallet, Call.isEscrow, Call.DepositIsPositive]
  · decide +kernel

end Esports

end SvmCourse
