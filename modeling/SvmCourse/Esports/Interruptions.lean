import SvmCourse.Esports.Refunds

/-!
# Interrupted Releases and Refunds

A release or refund in which one save is refused. The rows are saved one by one
before the escrow is, and nothing takes back those that are saved, so a refusal
leaves a trace as soon as one row is written. Before that it leaves none, with
one exception: the handler of a refund writes `ACTIVE`, whatever the status
was, and so reopens an escrow that was locked.

A release and a refund are one settlement here, with the rows and the settled
escrow of each. Reads come before saves and are counted, so an access of a
call is the number of accesses before it.

## Main definitions

* `Settlement`: A release or a refund.
* `Settlement.Allowed`: The service would accept it.
* `NoTrace`: Escrow and payouts are as before.
* `Settlement.StopsEarly`: The refusals that leave no trace.
* `Settlement.attempts`: Trying again and again.

## Theorems

* `settleEscrow_run_failAt`: Where the refused save strikes.
* `settlement_run_failAt`: The same for a release or refund.
* `noTrace_iff_stopsEarly`: The failed calls that leave no trace.
-/

namespace SvmCourse

namespace Esports

open Core Core.Prog

/-! ### Where a refusal strikes -/

/-- The rows before the refused one are written. -/
theorem saveTxs_run_failAt (txs : List EscrowTransaction) (s : Db) (k : Nat) :
    (each txs escrowTxRepository.save).run (failAt k) s =
      if k < txs.length then (.error .StoreError, s.withEscrowTxs (txs.take k), calm)
      else (.ok (), s.withEscrowTxs txs, failAt (k - txs.length)) := by
  -- On the rows: each save takes one off the number of the refused access.
  induction txs generalizing s k with
  | nil => simp [each, run, Db.withEscrowTxs]
  | cons tx txs ih =>
      have happend : ∀ l, (s.withEscrowTxs [tx]).withEscrowTxs l = s.withEscrowTxs (tx :: l) := by
        intro l
        simp only [Db.withEscrowTxs, List.append_assoc, List.singleton_append]
      unfold each escrowTxRepository.save query perform
      simp only [Prog.bind]
      cases k with
      | zero =>
          rw [run_access_failAt_zero]
          simp [run, Db.withEscrowTxs]
      | succ k =>
          have hrest := ih (s.withEscrowTxs [tx]) k
          rw [run_access_failAt_succ]
          refine hrest.trans ?_
          -- The refused access is one of the later rows, or lies beyond them all.
          by_cases hk : k < txs.length
          · have hk' : k + 1 < (tx :: txs).length := Nat.succ_lt_succ hk
            rw [if_pos hk, if_pos hk', happend, List.take_succ_cons]
          · have hk' : ¬k + 1 < (tx :: txs).length := fun h => hk (Nat.lt_of_succ_lt_succ h)
            have hsub : k + 1 - (tx :: txs).length = k - txs.length := by
              rw [List.length_cons]
              omega
            rw [if_neg hk, if_neg hk', happend, hsub]

/-- The saves of a settlement are the transitional status, the rows and the
    settled escrow, in this order. -/
theorem settleEscrow_run_failAt (escrow : EscrowAccount) (transitional back : EscrowStatus)
    (txs : List EscrowTransaction) (settled : EscrowAccount)
    (hkey : escrow.escrowId = settled.escrowId) (s : Db) (k : Nat) :
    (settleEscrow escrow transitional back txs settled).run (failAt k) s =
      if k = 0 then (.error .StoreError, s, calm)
      else if k ≤ txs.length then (.error .StoreError,
        (s.withEscrowTxs (txs.take (k - 1))).withEscrow { escrow with status := back }, calm)
      else if k = txs.length + 1 then (.error .StoreError,
        (s.withEscrowTxs txs).withEscrow { settled with status := back }, calm)
      else (.ok (), (s.withEscrowTxs txs).withEscrow settled, failAt (k - (txs.length + 2))) := by
  have hlast : ∀ (a b : EscrowAccount) (l : List EscrowTransaction), a.escrowId = b.escrowId →
      ((s.withEscrow a).withEscrowTxs l).withEscrow b = (s.withEscrowTxs l).withEscrow b :=
    fun a b l h => (s.withEscrowTxs l).withEscrow_withEscrow h
  unfold settleEscrow
  rw [bind_eq, bind_eq]
  unfold escrowRepository.save query perform
  simp only [Prog.bind]
  cases k with
  | zero =>
      rw [run_access_failAt_zero]
      rfl
  | succ k =>
      rw [run_access_failAt_succ, run_bind]
      unfold onError
      rw [run_rescue]
      simp only
      have hrows := saveTxs_run_failAt txs (s.withEscrow { escrow with status := transitional }) k
      rw [show ({ s with escrows := s.escrows.save { escrow with status := transitional } } : Db) =
        s.withEscrow { escrow with status := transitional } from rfl, hrows]
      by_cases hk : k < txs.length
      · -- A row is refused, and the handler saves the escrow as it was.
        rw [if_pos hk, if_neg (Nat.succ_ne_zero k), if_pos (Nat.succ_le_of_lt hk)]
        simp only [run_bind, reopenEscrow, escrowRepository.save, query, perform, run, calm,
          Nat.add_sub_cancel]
        refine congrArg (fun t => (Except.error ServiceError.StoreError, t, _)) ?_
        exact hlast { escrow with status := transitional } { escrow with status := back } _ rfl
      · rw [if_neg hk, if_neg (Nat.succ_ne_zero k), if_neg (by omega)]
        simp only
        obtain ⟨j, hj⟩ : ∃ j, k = txs.length + j := ⟨k - txs.length, by omega⟩
        have hsub : k - txs.length = j := by omega
        rw [hsub, run_rescue]
        cases j with
        | zero =>
            -- The settled escrow is refused, and the handler saves it.
            rw [if_pos (by omega), run_access_failAt_zero]
            simp only [run_bind, reopenEscrow, escrowRepository.save, query, perform, run, calm]
            refine congrArg (fun t => (Except.error ServiceError.StoreError, t, _)) ?_
            exact hlast { escrow with status := transitional } { settled with status := back } _
              hkey
        | succ j =>
            have hrest : k + 1 - (txs.length + 2) = j := by omega
            rw [if_neg (by omega), run_access_failAt_succ, hrest]
            simp only [run]
            refine congrArg (fun t => (Except.ok (), t, failAt j)) ?_
            exact hlast { escrow with status := transitional } settled _ hkey

/-! ### Settlements -/

/-- The two ways to empty an escrow. -/
inductive Settlement where
  | release (request : ReleaseEscrowRequest)
  | refund (request : RefundEscrowRequest)

namespace Settlement

/-- What a settlement does, access by access. -/
def program : Settlement → Service (List EscrowTransaction)
  | release request => releaseEscrow request
  | refund request => refundEscrow request

/-- The escrow it is about. -/
def escrowId : Settlement → SourceId
  | release request => request.escrowId
  | refund request => request.escrowId

/-- The reads before the first save. -/
def reads : Settlement → Nat
  | release _ => 1
  | refund _ => 2

/-- The status in which it leaves the escrow until it is through. -/
def transitional : Settlement → EscrowStatus
  | release _ => .RELEASING
  | refund _ => .REFUNDING

/-- The status the handler goes back to. -/
def back : Settlement → EscrowStatus
  | release _ => .LOCKED
  | refund _ => .ACTIVE

/-- The platform fee of a release. -/
def fee (escrow : EscrowAccount) : Int :=
  platformFeeOf escrow.currentBalance escrow.platformFeePercent

/-- The rows that it writes. -/
def rows (s : Db) (escrow : EscrowAccount) : Settlement → List EscrowTransaction
  | release request => releaseTxs request (fee escrow)
  | refund request => refundTxs request (s.escrowTxs.filter request.covers)

/-- The escrow when it is through. -/
def settled (s : Db) (escrow : EscrowAccount) : Settlement → EscrowAccount
  | release request => escrow.afterRelease request.total (fee escrow)
  | refund request =>
    escrow.afterRefund ((s.escrowTxs.filter request.covers).map EscrowTransaction.amount).sum

/-- The wallet and the amount of each payment: one per distribution of a
    release, one per covered deposit of a refund. -/
def payments (s : Db) : Settlement → List (Option Nat × Int)
  | release request => request.distributions.map fun dist => (some dist.walletId, dist.amount)
  | refund request =>
    (s.escrowTxs.filter request.covers).map fun tx => (tx.participantWalletId, tx.amount)

/-- The kind of its payments. -/
def paymentType : Settlement → EscrowTransactionType
  | release _ => .RELEASE
  | refund _ => .REFUND

/-- The escrow exists and the service accepts the settlement. -/
def Allowed (s : Db) (escrow : EscrowAccount) (settlement : Settlement) : Prop :=
  s.escrows.findOne settlement.escrowId = some escrow ∧ match settlement with
    | release request => escrow.canRelease = true ∧
        request.total ≤ escrow.currentBalance - fee escrow
    | refund request => escrow.canRefund = true ∧ s.escrowTxs.filter request.covers ≠ []

instance (s : Db) (escrow : EscrowAccount) :
    (settlement : Settlement) → Decidable (settlement.Allowed s escrow)
  | release request => inferInstanceAs (Decidable
      (s.escrows.findOne request.escrowId = some escrow ∧ escrow.canRelease = true ∧
        request.total ≤ escrow.currentBalance - fee escrow))
  | refund request => inferInstanceAs (Decidable
      (s.escrows.findOne request.escrowId = some escrow ∧ escrow.canRefund = true ∧
        s.escrowTxs.filter request.covers ≠ []))

/-- The refusal comes before any row is written and, when it comes after the
    first save, finds an escrow that is already in the status the handler goes
    back to. A release without distributions has no row to write and is settled
    by the next save, which must then not take a fee. -/
def StopsEarly (escrow : EscrowAccount) (k : Nat) : Settlement → Prop
  | release request => k ≤ 1 ∨ k = 2 ∧ (request.distributions = [] → 0 ≤ fee escrow)
  | refund _ => k ≤ 2 ∨ k = 3 ∧ escrow.status = .ACTIVE

/-- What the handler saves when the save after the transitional one is refused. -/
def unwound (s : Db) (escrow : EscrowAccount) (settlement : Settlement) : EscrowAccount :=
  if settlement.rows s escrow = [] then
    { settlement.settled s escrow with status := settlement.back }
  else { escrow with status := settlement.back }

/-- The same call again and again, each time with one refused access. -/
def attempts (settlement : Settlement) : List Nat → Db → Db
  | [], s => s
  | k :: refusals, s => settlement.attempts refusals (settlement.program.run (failAt k) s).2.1

end Settlement

/-- The escrow and its payouts in the log are as before. -/
def NoTrace (s t : Db) (escrowId : SourceId) : Prop :=
  t.escrows.findOne escrowId = s.escrows.findOne escrowId ∧
    (t.escrowTxs.filter fun tx => tx.escrowId = escrowId && tx.type ≠ .DEPOSIT) =
      s.escrowTxs.filter fun tx => tx.escrowId = escrowId && tx.type ≠ .DEPOSIT

instance (s t : Db) (escrowId : SourceId) : Decidable (NoTrace s t escrowId) :=
  inferInstanceAs (Decidable (_ ∧ _))

section Settlements

variable {s : Db} {escrow : EscrowAccount} {settlement : Settlement}

/-- An accepted settlement is its reads and the saves after them. -/
theorem settlement_run_failAt (h : settlement.Allowed s escrow) (k : Nat) :
    settlement.program.run (failAt k) s =
      if k < settlement.reads then (.error .StoreError, s, calm)
      else ((settleEscrow escrow settlement.transitional settlement.back
          (settlement.rows s escrow) (settlement.settled s escrow)).bind fun _ =>
            done (settlement.rows s escrow)).run (failAt (k - settlement.reads)) s := by
  rcases h with ⟨hfind, hallowed⟩
  cases settlement with
  | release request =>
      -- A release has one read.
      unfold Settlement.program releaseEscrow getEscrowById escrowRepository.findOne query
      simp only [bind_eq, perform, Prog.bind]
      cases k with
      | zero =>
          rw [run_access_failAt_zero]
          rfl
      | succ k =>
          have hfind' : s.escrows.findOne request.escrowId = some escrow := hfind
          have htotal := decide_eq_true hallowed.2
          unfold Settlement.fee at htotal
          rw [run_access_failAt_succ, hfind']
          have hbeyond : ¬k + 1 < (Settlement.release request).reads :=
            Nat.not_lt.mpr (Nat.le_add_left 1 k)
          have hsub : k + 1 - (Settlement.release request).reads = k := Nat.add_sub_cancel k 1
          simp only [demand, Prog.bind, hallowed.1, require, if_true, htotal]
          rw [if_neg hbeyond, hsub]
          rfl
  | refund request =>
      -- A refund has two, the escrow and its deposits.
      unfold Settlement.program refundEscrow getEscrowById escrowRepository.findOne
        escrowTxRepository.find query
      simp only [bind_eq, perform, Prog.bind]
      cases k with
      | zero =>
          rw [run_access_failAt_zero]
          rfl
      | succ k =>
          have hfind' : s.escrows.findOne request.escrowId = some escrow := hfind
          have hsome : (s.escrowTxs.filter request.covers).isEmpty = false := by
            rw [List.isEmpty_eq_false_iff]
            exact hallowed.2
          rw [run_access_failAt_succ, hfind']
          simp only [demand, Prog.bind, hallowed.1, require, if_true]
          cases k with
          | zero =>
              rw [run_access_failAt_zero]
              rfl
          | succ k =>
              rw [run_access_failAt_succ]
              have hbeyond : ¬k + 1 + 1 < (Settlement.refund request).reads :=
                Nat.not_lt.mpr (Nat.le_add_left 2 k)
              have hsub : k + 1 + 1 - (Settlement.refund request).reads = k :=
                Nat.add_sub_cancel k 2
              simp only [hsome, Bool.not_false, if_true, Prog.bind]
              rw [if_neg hbeyond, hsub]
              rfl

theorem settlement_key (h : settlement.Allowed s escrow) :
    escrow.escrowId = settlement.escrowId ∧
      (settlement.settled s escrow).escrowId = settlement.escrowId := by
  have hkey : escrow.escrowId = settlement.escrowId := Table.key_of_findOne h.1
  cases settlement with
  | release request => exact ⟨hkey, hkey⟩
  | refund request => exact ⟨hkey, hkey⟩

/-- The rows are payouts of the escrow. -/
theorem settlement_rows_payouts (l : List EscrowTransaction)
    (hl : ∀ tx ∈ l, tx ∈ settlement.rows s escrow) :
    (l.filter fun tx => tx.escrowId = settlement.escrowId && tx.type ≠ .DEPOSIT) = l := by
  rw [List.filter_eq_self]
  intro tx htx
  have hmem := hl tx htx
  rw [Bool.and_eq_true, decide_eq_true_eq, decide_eq_true_eq]
  cases settlement with
  | release request =>
      exact ⟨releaseTxs_escrowId request _ tx hmem, releaseTxs_type request _ tx hmem⟩
  | refund request =>
      refine ⟨?_, refundTxs_type request _ tx hmem⟩
      rcases List.mem_map.mp hmem with ⟨deposit, -, rfl⟩
      rfl

/-- Rows that were written are a trace. -/
theorem trace_of_rows {l : List EscrowTransaction} (hl : ∀ tx ∈ l, tx ∈ settlement.rows s escrow)
    (hne : l ≠ []) (e : EscrowAccount) :
    ¬NoTrace s ((s.withEscrowTxs l).withEscrow e) settlement.escrowId := by
  intro h
  have hlog := h.2
  have happend : ((s.withEscrowTxs l).withEscrow e).escrowTxs = s.escrowTxs ++ l := rfl
  rw [happend, List.filter_append, settlement_rows_payouts l hl] at hlog
  exact hne (List.append_right_eq_self.mp hlog)

/-- Without a row there is no trace exactly when the escrow is the same. -/
theorem noTrace_save_iff (hfind : s.escrows.findOne settlement.escrowId = some escrow)
    {e : EscrowAccount} (hkey : e.escrowId = settlement.escrowId) :
    NoTrace s ((s.withEscrowTxs []).withEscrow e) settlement.escrowId ↔ e = escrow := by
  have hrow : ((s.withEscrowTxs []).withEscrow e).escrows.findOne settlement.escrowId = some e := by
    rw [← hkey]
    exact Table.findOne_save_self _ _
  have hlog : ((s.withEscrowTxs []).withEscrow e).escrowTxs = s.escrowTxs := List.append_nil _
  unfold NoTrace
  rw [hrow, hlog, hfind, Option.some.injEq]
  exact ⟨fun h => h.1, fun h => ⟨h, rfl⟩⟩

/-- The saves of an accepted settlement, counted after its reads. -/
theorem settlement_run_saves (h : settlement.Allowed s escrow) (j : Nat) :
    settlement.program.run (failAt (settlement.reads + j)) s =
      if j = 0 then (.error .StoreError, s, calm)
      else if j ≤ (settlement.rows s escrow).length then (.error .StoreError,
        (s.withEscrowTxs ((settlement.rows s escrow).take (j - 1))).withEscrow
          { escrow with status := settlement.back }, calm)
      else if j = (settlement.rows s escrow).length + 1 then (.error .StoreError,
        (s.withEscrowTxs (settlement.rows s escrow)).withEscrow
          { settlement.settled s escrow with status := settlement.back }, calm)
      else (.ok (settlement.rows s escrow),
        (s.withEscrowTxs (settlement.rows s escrow)).withEscrow (settlement.settled s escrow),
        failAt (j - ((settlement.rows s escrow).length + 2))) := by
  have hkey := (settlement_key h).1.trans (settlement_key h).2.symm
  have hread : ¬settlement.reads + j < settlement.reads := by omega
  have hsub : settlement.reads + j - settlement.reads = j := by omega
  rw [settlement_run_failAt h, if_neg hread, hsub, run_bind,
    settleEscrow_run_failAt _ _ _ _ _ hkey]
  -- The status is saved first, then the rows one by one, and the balances last.
  by_cases hfirst : j = 0
  · rw [if_pos hfirst, if_pos hfirst]
  rw [if_neg hfirst, if_neg hfirst]
  by_cases hrow : j ≤ (settlement.rows s escrow).length
  · rw [if_pos hrow, if_pos hrow]
  rw [if_neg hrow, if_neg hrow]
  by_cases hlast : j = (settlement.rows s escrow).length + 1
  · rw [if_pos hlast, if_pos hlast]
  · rw [if_neg hlast, if_neg hlast]
    rfl

/-- What a failed call leaves behind, by the access that was refused. -/
theorem settlement_error (h : settlement.Allowed s escrow) {k : Nat} {e : ServiceError} {t : Db}
    {o : Nat → Bool} (hrun : settlement.program.run (failAt k) s = (.error e, t, o)) :
    k ≤ settlement.reads ∧ t = s ∨
    k = settlement.reads + 1 ∧
      t = (s.withEscrowTxs []).withEscrow (settlement.unwound s escrow) ∨
    settlement.reads + 1 < k ∧ ∃ l e', l ≠ [] ∧ (∀ tx ∈ l, tx ∈ settlement.rows s escrow) ∧
      t = (s.withEscrowTxs l).withEscrow e' := by
  -- A refused read.
  by_cases hread : k < settlement.reads
  · rw [settlement_run_failAt h, if_pos hread] at hrun
    exact Or.inl ⟨hread.le, (congrArg (fun r => r.2.1) hrun).symm⟩
  obtain ⟨j, rfl⟩ : ∃ j, k = settlement.reads + j := ⟨k - settlement.reads, by omega⟩
  rw [settlement_run_saves h] at hrun
  -- The save of the transitional status is refused, and the escrow stays as it was.
  by_cases hfirst : j = 0
  · rw [if_pos hfirst] at hrun
    exact Or.inl ⟨by omega, (congrArg (fun r => r.2.1) hrun).symm⟩
  rw [if_neg hfirst] at hrun
  -- A row is refused. Then the status goes back and the rows before it stay.
  by_cases hrow : j ≤ (settlement.rows s escrow).length
  · rw [if_pos hrow] at hrun
    have hstore := (congrArg (fun r => r.2.1) hrun).symm
    have hrows : settlement.rows s escrow ≠ [] := List.length_pos_iff.mp (by omega)
    by_cases hsecond : j = 1
    · refine Or.inr (Or.inl ⟨by omega, hstore.trans ?_⟩)
      unfold Settlement.unwound
      rw [if_neg hrows, hsecond]
      rfl
    · refine Or.inr (Or.inr ⟨by omega, _, _, ?_, fun tx htx => List.mem_of_mem_take htx, hstore⟩)
      exact List.length_pos_iff.mp (by rw [List.length_take]; omega)
  rw [if_neg hrow] at hrun
  -- The last save of the escrow is refused, when all rows are written.
  by_cases hlast : j = (settlement.rows s escrow).length + 1
  · rw [if_pos hlast] at hrun
    have hstore := (congrArg (fun r => r.2.1) hrun).symm
    by_cases hrows : settlement.rows s escrow = []
    · refine Or.inr (Or.inl ⟨?_, hstore.trans ?_⟩)
      · rw [hlast, hrows]
        rfl
      · unfold Settlement.unwound
        rw [if_pos hrows, hrows]
    · have hpos := List.length_pos_iff.mpr hrows
      exact Or.inr (Or.inr ⟨by omega, _, _, hrows, fun tx htx => htx, hstore⟩)
  · -- No access was refused, so the call does not fail.
    rw [if_neg hlast] at hrun
    exact nomatch congrArg Prod.fst hrun

/-- The handler finds nothing changed in the two cases of `StopsEarly`. -/
theorem unwound_eq_iff (h : settlement.Allowed s escrow) :
    settlement.StopsEarly escrow (settlement.reads + 1) ↔
      settlement.unwound s escrow = escrow := by
  have hallowed := h.2
  cases settlement with
  | release request =>
      have hlocked : escrow.status = .LOCKED := by
        have hcan : escrow.canRelease = true := hallowed.1
        unfold EscrowAccount.canRelease at hcan
        exact of_decide_eq_true (Bool.and_eq_true_iff.mp hcan).1
      have hsame : { escrow with status := .LOCKED } = escrow := by
        rw [← hlocked]
      unfold Settlement.unwound Settlement.StopsEarly
      -- A release without rows pays nothing out, so only a negative fee can change
      -- the escrow.
      by_cases hrows : (Settlement.release request).rows s escrow = []
      · rw [if_pos hrows]
        have hnone := List.append_eq_nil_iff.mp hrows
        have hdist : request.distributions = [] := List.map_eq_nil_iff.mp hnone.2
        have hfee : ¬0 < Settlement.fee escrow := by
          intro hpos
          rw [if_pos hpos] at hnone
          exact List.cons_ne_nil _ _ hnone.1
        have htotal : request.total = 0 := by
          unfold ReleaseEscrowRequest.total
          rw [hdist]
          rfl
        constructor
        · intro hearly
          have hzero : Settlement.fee escrow = 0 := by
            have hnonneg := (hearly.resolve_left (Nat.lt_irrefl 1)).2 hdist
            omega
          unfold Settlement.settled Settlement.back EscrowAccount.afterRelease
          simp only [htotal, hzero, ← hlocked, Int.add_zero, Int.sub_zero]
        · intro heq
          have hbalance : escrow.currentBalance - request.total - Settlement.fee escrow =
            escrow.currentBalance := congrArg EscrowAccount.currentBalance heq
          exact Or.inr ⟨rfl, fun _ => by omega⟩
      · -- With rows, the handler puts back the locked status the escrow had.
        rw [if_neg hrows]
        refine ⟨fun _ => hsame, fun _ => Or.inr ⟨rfl, fun hdist => ?_⟩⟩
        by_contra hneg
        apply hrows
        change releaseTxs request (Settlement.fee escrow) = []
        unfold releaseTxs
        rw [if_neg (by omega), hdist]
        rfl
  | refund request =>
      -- A refund has rows, and puts back the active status, whichever the escrow had.
      have hrows : (Settlement.refund request).rows s escrow ≠ [] := by
        intro hnil
        exact hallowed.2 (List.map_eq_nil_iff.mp hnil)
      unfold Settlement.unwound Settlement.StopsEarly
      rw [if_neg hrows]
      constructor
      · intro hearly
        have hactive := (hearly.resolve_left (Nat.lt_irrefl 2)).2
        unfold Settlement.back
        rw [← hactive]
      · intro heq
        exact Or.inr ⟨rfl, (congrArg EscrowAccount.status heq).symm⟩

theorem stopsEarly_iff (h : settlement.Allowed s escrow) (k : Nat) :
    settlement.StopsEarly escrow k ↔
      k ≤ settlement.reads ∨ k = settlement.reads + 1 ∧ settlement.unwound s escrow = escrow := by
  rw [← unwound_eq_iff h]
  -- With a fee there is a row more, and an active escrow is locked on the way.
  cases settlement with
  | release request =>
      unfold Settlement.StopsEarly Settlement.reads
      constructor
      · rintro (hk | ⟨rfl, hfee⟩)
        · exact Or.inl hk
        · exact Or.inr ⟨rfl, Or.inr ⟨rfl, hfee⟩⟩
      · rintro (hk | ⟨rfl, hearly⟩)
        · exact Or.inl hk
        · exact hearly
  | refund request =>
      unfold Settlement.StopsEarly Settlement.reads
      constructor
      · rintro (hk | ⟨rfl, hactive⟩)
        · exact Or.inl hk
        · exact Or.inr ⟨rfl, Or.inr ⟨rfl, hactive⟩⟩
      · rintro (hk | ⟨rfl, hearly⟩)
        · exact Or.inl hk
        · exact hearly

theorem restored (hfind : s.escrows.findOne settlement.escrowId = some escrow) :
    (s.withEscrowTxs []).withEscrow escrow = s := by
  have hkey : escrow.escrowId = settlement.escrowId := Table.key_of_findOne hfind
  have hsave : s.escrows.save escrow = s.escrows := Table.save_of_findOne (hkey ▸ hfind)
  unfold Db.withEscrowTxs Db.withEscrow
  simp only [List.append_nil, hsave]

/-- An early refusal changes nothing. -/
theorem settlement_stops (h : settlement.Allowed s escrow) {k : Nat}
    (hk : settlement.StopsEarly escrow k) :
    settlement.program.run (failAt k) s = (.error .StoreError, s, calm) := by
  -- Up to the first save nothing is written.
  by_cases hread : k < settlement.reads
  · rw [settlement_run_failAt h, if_pos hread]
  obtain ⟨j, rfl⟩ : ∃ j, k = settlement.reads + j := ⟨k - settlement.reads, by omega⟩
  rw [settlement_run_saves h]
  by_cases hfirst : j = 0
  · rw [if_pos hfirst]
  rcases (stopsEarly_iff h _).mp hk with hle | ⟨hsecond, hsame⟩
  · exact absurd hle (by omega)
  -- Else the handler saved the escrow as it was.
  have hone : j = 1 := by omega
  unfold Settlement.unwound at hsame
  subst hone
  rw [if_neg hfirst]
  by_cases hrows : settlement.rows s escrow = []
  · rw [if_pos hrows] at hsame
    rw [hrows, hsame, restored h.1]
    rfl
  · have hpos : 1 ≤ (settlement.rows s escrow).length := List.length_pos_iff.mpr hrows
    rw [if_neg hrows] at hsame
    rw [if_pos hpos, hsame, Nat.sub_self, List.take_zero, restored h.1]

theorem attempts_stopped (h : settlement.Allowed s escrow) (refusals : List Nat)
    (hearly : ∀ k ∈ refusals, settlement.StopsEarly escrow k) :
    settlement.attempts refusals s = s := by
  induction refusals with
  | nil => rfl
  | cons k refusals ih =>
      have hstop := settlement_stops h (hearly k (List.mem_cons_self ..))
      unfold Settlement.attempts
      rw [hstop]
      exact ih fun i hi => hearly i (List.mem_cons_of_mem _ hi)

/-- The undisturbed settlement. A refusal beyond its accesses is still there
    at the end, and every other refusal is used up. -/
theorem settlement_eval (h : settlement.Allowed s escrow) :
    settlement.program.eval s = (.ok (settlement.rows s escrow),
      (s.withEscrowTxs (settlement.rows s escrow)).withEscrow (settlement.settled s escrow)) := by
  have hbeyond := run_failAt_beyond settlement.program s 0
  -- A refusal that is used up cannot be left at the end.
  have hused : ∀ {r : Except ServiceError (List EscrowTransaction)} {t : Db},
      (r, t, calm) ≠ ((settlement.program.eval s).1, (settlement.program.eval s).2, failAt 0) := by
    intro r t heq
    have hzero := congrFun (congrArg (fun x => x.2.2) heq) 0
    exact Bool.false_ne_true hzero
  rw [Nat.add_zero] at hbeyond
  -- So the number of accesses is beyond every case in which one is refused.
  by_cases hread : settlement.program.accesses s < settlement.reads
  · rw [settlement_run_failAt h, if_pos hread] at hbeyond
    exact absurd hbeyond hused
  obtain ⟨j, hj⟩ : ∃ j, settlement.program.accesses s = settlement.reads + j :=
    ⟨settlement.program.accesses s - settlement.reads, by omega⟩
  rw [hj, settlement_run_saves h] at hbeyond
  by_cases hfirst : j = 0
  · rw [if_pos hfirst] at hbeyond
    exact absurd hbeyond hused
  rw [if_neg hfirst] at hbeyond
  by_cases hrow : j ≤ (settlement.rows s escrow).length
  · rw [if_pos hrow] at hbeyond
    exact absurd hbeyond hused
  rw [if_neg hrow] at hbeyond
  by_cases hlast : j = (settlement.rows s escrow).length + 1
  · rw [if_pos hlast] at hbeyond
    exact absurd hbeyond hused
  · rw [if_neg hlast] at hbeyond
    have hresult := congrArg (fun x => (x.1, x.2.1)) hbeyond
    exact hresult.symm

/-- The rows are the payments and at most one platform fee. -/
theorem settlement_rows_payments :
    (((settlement.rows s escrow).filter fun tx => tx.type = settlement.paymentType).map
      fun tx => (tx.participantWalletId, tx.amount)) = settlement.payments s ∧
    ((settlement.rows s escrow).filter fun tx => tx.type = .PLATFORM_FEE).length ≤ 1 := by
  cases settlement with
  | release request =>
      unfold Settlement.rows releaseTxs Settlement.payments Settlement.paymentType
      by_cases hfee : 0 < Settlement.fee escrow
      · simp [hfee, List.filter_map, Function.comp_def]
      · simp [hfee, List.filter_map, Function.comp_def]
  | refund request =>
      unfold Settlement.rows refundTxs Settlement.payments Settlement.paymentType
      simp [List.filter_map, Function.comp_def]

end Settlements

/-- A failed settlement leaves no trace exactly when the refusal strikes early.
    After any number of attempts that did, one that succeeds logs each payment
    once and at most one platform fee. -/
theorem noTrace_iff_stopsEarly {s : Db} {escrow : EscrowAccount} {settlement : Settlement}
    (h : settlement.Allowed s escrow) :
    (∀ k e t o, settlement.program.run (failAt k) s = (.error e, t, o) →
      (NoTrace s t settlement.escrowId ↔ settlement.StopsEarly escrow k)) ∧
    ∀ refusals, (∀ k ∈ refusals, settlement.StopsEarly escrow k) →
      ∃ rows t, settlement.program.eval (settlement.attempts refusals s) = (.ok rows, t) ∧
        t.escrowTxs = s.escrowTxs ++ rows ∧
        ((rows.filter fun tx => tx.type = settlement.paymentType).map
          fun tx => (tx.participantWalletId, tx.amount)) = settlement.payments s ∧
        (rows.filter fun tx => tx.type = .PLATFORM_FEE).length ≤ 1 := by
  refine ⟨fun k e t o hrun => ?_, fun refusals hearly => ?_⟩
  · rw [stopsEarly_iff h]
    rcases settlement_error h hrun with ⟨hk, rfl⟩ | ⟨hk, rfl⟩ | ⟨hk, l, e', hne, hl, rfl⟩
    · exact ⟨fun _ => Or.inl hk, fun _ => ⟨rfl, rfl⟩⟩
    · have hkey : (settlement.unwound s escrow).escrowId = settlement.escrowId := by
        unfold Settlement.unwound
        by_cases hrows : settlement.rows s escrow = []
        · rw [if_pos hrows]
          exact (settlement_key h).2
        · rw [if_neg hrows]
          exact (settlement_key h).1
      rw [noTrace_save_iff h.1 hkey]
      constructor
      · intro hsame
        exact Or.inr ⟨hk, hsame⟩
      · intro hearly
        exact (hearly.resolve_left (by omega)).2
    · -- A row that was written stays.
      constructor
      · intro hno
        exact absurd hno (trace_of_rows hl hne e')
      · intro hearly
        omega
  · rw [attempts_stopped h refusals hearly]
    exact ⟨settlement.rows s escrow, _, settlement_eval h, rfl, settlement_rows_payments⟩

/-- The store in which two wallets have paid in and the escrow is locked. -/
def lockedDb : Db :=
  Db.empty.after (Run.calmly (fundedEscrow ++ [.lockEscrow (matchSource "m")]))

/-- An escrow with two deposits, in the witness. -/
def lockedEscrow : EscrowAccount :=
  { newEscrow { source := matchSource "m" } with
    totalDeposited := 2000, currentBalance := 2000, status := .LOCKED }

/-- Half of the balance goes to each wallet, less the fee. -/
def releaseHalves : Settlement :=
  .release
    { escrowId := matchSource "m"
      distributions := [{ walletId := 0, amount := 900 }, { walletId := 1, amount := 900 }] }

/-- The refund of the witness. -/
def refundAll : Settlement := .refund { escrowId := matchSource "m" }

/-- The second row of a release is refused, and the platform fee stays in the
    log; the retry logs it again. The first row of a refund is refused, and the
    escrow that was locked is open. -/
theorem trace_lockedDb :
    releaseHalves.Allowed lockedDb lockedEscrow ∧ refundAll.Allowed lockedDb lockedEscrow ∧
    (let t := releaseHalves.program.run (failAt 3) lockedDb
     t.1.toBool = false ∧ ¬NoTrace lockedDb t.2.1 (matchSource "m") ∧
      (releaseHalves.program.eval t.2.1).1.toBool = true ∧
      ((releaseHalves.program.eval t.2.1).2.escrowTxs.filter
        fun tx => tx.type = .PLATFORM_FEE).length = 2) ∧
    (let t := refundAll.program.run (failAt 3) lockedDb
     t.1.toBool = false ∧ ¬NoTrace lockedDb t.2.1 (matchSource "m") ∧
      (t.2.1.escrows.findOne (matchSource "m")).map EscrowAccount.status = some .ACTIVE) := by
  decide +kernel

/-- The transitional save of a release is refused twice, then it succeeds. -/
theorem noTrace_iff_stopsEarly_lockedDb :
    ∃ rows t, releaseHalves.program.eval (releaseHalves.attempts [1, 1] lockedDb) = (.ok rows, t) ∧
      t.escrowTxs = lockedDb.escrowTxs ++ rows ∧
      ((rows.filter fun tx => tx.type = releaseHalves.paymentType).map
        fun tx => (tx.participantWalletId, tx.amount)) = releaseHalves.payments lockedDb ∧
      (rows.filter fun tx => tx.type = .PLATFORM_FEE).length ≤ 1 := by
  have hallowed : releaseHalves.Allowed lockedDb lockedEscrow := by decide +kernel
  refine (noTrace_iff_stopsEarly hallowed).2 [1, 1] ?_
  simp [releaseHalves, Settlement.StopsEarly]

end Esports

end SvmCourse
