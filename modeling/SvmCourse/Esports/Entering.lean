import SvmCourse.Esports.Matchmaking

/-!
# Paying an Entry Fee

What `enter` does to the store, phase by phase. With a store that never fails
it either books the whole entry, or leaves the money of every wallet where it
was and touches nothing else. The rollback is right in that case because the
only calm failures come before the deposit: an escrow that is missing or takes
no deposits. The deduction cannot fail, since the fee has just been locked.

With one refused access the picture is different, and the position of the
access decides. The accesses of an entry come in a fixed order, so a position
is a number. Up to the row of the deposit the rollback restores what was there.
From then on the row stays behind, and once the fee is deducted the rollback
itself is refused by the wallet.

## Main definitions

* `PlayerWallet.afterLock`, `PlayerWallet.afterCharge`: The wallet along the
  way.
* `EntryPaid`, `Db.afterEntry`: An entry that goes through.
* `SameFunds`: Only wallet rows differ, and no wallet holds other money.
* `enterForward`: The accesses of an entry up to its first failure.

## Theorems

* `enter_calm`: An entry with a store that never fails.
* `enter_run_failAt`: An entry with one refused access.
-/

namespace SvmCourse

namespace Esports

open Core Core.Prog

/-- The wallet with a fee locked. -/
def PlayerWallet.afterLock (wallet : PlayerWallet) (fee : Int) : PlayerWallet :=
  { wallet with
    availableBalance := wallet.availableBalance - fee
    lockedBalance := wallet.lockedBalance + fee
    totalEntryFees := wallet.totalEntryFees + fee }

/-- The wallet with a locked fee available again. -/
def PlayerWallet.afterUnlock (wallet : PlayerWallet) (fee : Int) : PlayerWallet :=
  { wallet with
    lockedBalance := wallet.lockedBalance - fee
    availableBalance := wallet.availableBalance + fee }

/-- The wallet with the fee locked and handed over. -/
def PlayerWallet.afterCharge (wallet : PlayerWallet) (fee : Int) : PlayerWallet :=
  { wallet.afterLock fee with lockedBalance := wallet.lockedBalance + fee - fee }

section Entering

variable {C : Prop} {α : Type}

/-- The row of a fee that was paid. -/
def entryFeeTx (entry : Entry α) (wallet : PlayerWallet) : WalletTransaction where
  walletId := wallet.id
  type := .ENTRY_FEE
  amount := entry.entryFee
  reference := some entry.source
  status := .COMPLETED

/-- The deposit that the fee makes. -/
def entryDeposit (entry : Entry α) (wallet : PlayerWallet) : DepositToEscrowRequest where
  escrowId := entry.source
  walletId := wallet.id
  amount := entry.entryFee

/-- The store with the fee locked. -/
def Db.afterLock (db : Db) (entry : Entry α) (wallet : PlayerWallet) : Db :=
  { db with
    walletTxs := db.walletTxs ++ [entryFeeTx entry wallet]
    wallets := db.wallets.save (wallet.afterLock entry.entryFee) }

/-- The store with the fee moved from the wallet to the escrow. -/
def Db.afterEntry (db : Db) (entry : Entry α) (wallet : PlayerWallet) (escrow : EscrowAccount) :
    Db :=
  { db with
    walletTxs := db.walletTxs ++ [entryFeeTx entry wallet]
    wallets := db.wallets.save (wallet.afterCharge entry.entryFee)
    escrowTxs := db.escrowTxs ++ [depositTx (entryDeposit entry wallet)]
    escrows := db.escrows.save (escrow.afterDeposit entry.entryFee) }

/-- What an entry needs to go through. -/
structure EntryPaid (db : Db) (entry : Entry α) (wallet : PlayerWallet) (escrow : EscrowAccount) :
    Prop where
  findWallet : db.wallets.findOne entry.playerId = some wallet
  canLock : wallet.canLock entry.entryFee = true
  findEscrow : db.escrows.findOne entry.source = some escrow
  canDeposit : escrow.canDeposit = true

/-- Only wallet rows and wallet records differ, and by these every wallet holds
    the money it held. -/
def SameFunds (s t : Db) : Prop :=
  ∃ (wallets : Table PlayerWallet.playerId) (txs : List WalletTransaction),
    t = { s with wallets := wallets, walletTxs := txs } ∧
    netDeposits txs = netDeposits s.walletTxs ∧
    (wallets = s.wallets ∨ ∃ wallet wallet', s.wallets.findOne wallet'.playerId = some wallet ∧
      sameMoney wallet' wallet ∧ wallets = s.wallets.save wallet')

/-! ### The phases -/

theorem lockEntry_ensures (entry : Entry α) (s : Db) :
    (lockEntry entry).Ensures C s fun r t => match r with
      | .ok wallet => s.wallets.findOne entry.playerId = some wallet ∧
          wallet.canLock entry.entryFee = true ∧ t = s.afterLock entry wallet
      | .error _ => ∃ txs, netDeposits txs = netDeposits s.walletTxs ∧
          t = { s with walletTxs := txs } := by
  unfold lockEntry
  refine ensures_bind (ensures_mono (getWallet_ensures entry.playerId s) fun r t ht => ?_)
  rcases ht with ⟨rfl, hr⟩
  cases r with
  | error e => exact ⟨t.walletTxs, rfl, rfl⟩
  | ok wallet =>
      refine ensures_bind (ensures_mono (moveFunds_ensures ..) fun r u hu => ?_)
      cases r with
      | error e =>
          -- At most the log row of the lock is left behind, which counts for nothing.
          rcases hu.1 with rfl | ⟨-, record, rfl⟩
          · exact ⟨u.walletTxs, rfl, rfl⟩
          · exact ⟨_, (netDeposits_append _ _).trans (Int.add_zero _), rfl⟩
      | ok tx =>
          rcases hu with ⟨found, hfind, hcan, -, rfl⟩
          have hsame : found = wallet := Option.some.inj (hfind.symm.trans hr)
          subst hsame
          exact ⟨hr, hcan, rfl⟩

/-- Besides a refusal, the lock fails only for want of a wallet that can lock
    the fee. -/
theorem lockEntry_refused (entry : Entry α) (s : Db) :
    (lockEntry entry).Ensures C s fun r _ => ∀ e, r = .error e → C ∨
      ∀ wallet, s.wallets.findOne entry.playerId = some wallet →
        wallet.canLock entry.entryFee = false := by
  unfold lockEntry
  refine ensures_bind (ensures_mono (getWallet_ensures entry.playerId s) fun r t ht => ?_)
  rcases ht with ⟨rfl, hr⟩
  cases r with
  | error e =>
      rintro _ -
      rcases hr with hc | hnone
      · exact Or.inl hc
      · exact Or.inr fun wallet hw => nomatch hnone.symm.trans hw
  | ok wallet =>
      refine ensures_bind (ensures_mono (moveFunds_ensures ..) fun r u hu => ?_)
      cases r with
      | ok tx => exact fun _ h => nomatch h
      | error e =>
          rintro _ -
          rcases hu.2 with hc | hnone | ⟨found, hfound, hno⟩
          · exact Or.inl hc
          · exact nomatch hnone.symm.trans hr
          · -- The wallet was found, so it is the one that cannot lock the fee.
            refine Or.inr fun other hother => ?_
            rw [← Option.some.inj (hfound.symm.trans hother)]
            exact hno

theorem findOne_afterLock {s : Db} {entry : Entry α} {wallet : PlayerWallet}
    (hfind : s.wallets.findOne entry.playerId = some wallet) :
    (s.afterLock entry wallet).wallets.findOne entry.playerId =
      some (wallet.afterLock entry.entryFee) := by
  have hkey : wallet.playerId = entry.playerId := Table.key_of_findOne hfind
  rw [← hkey]
  exact Table.findOne_save_self s.wallets (wallet.afterLock entry.entryFee)

/-- Right after the lock, the rollback undoes it. -/
theorem rollbackEntry_calm {s : Db} {entry : Entry α} {wallet : PlayerWallet}
    (hfind : s.wallets.findOne entry.playerId = some wallet) (hlocked : 0 ≤ wallet.lockedBalance)
    (error : ServiceError) :
    (rollbackEntry entry error).Ensures False (s.afterLock entry wallet) fun r t =>
      r = .ok () ∧ SameFunds s t := by
  have hfind' := findOne_afterLock hfind
  have hkey : wallet.playerId = entry.playerId := Table.key_of_findOne hfind
  unfold rollbackEntry unlockFunds
  refine ensures_bind (ensures_mono (moveFunds_ensures ..) fun r t ht => ?_)
  cases r with
  | error e =>
      rcases ht.2 with hfalse | hnone | ⟨found, hfound, hno⟩
      · exact hfalse.elim
      · exact nomatch hfind'.symm.trans hnone
      · -- The wallet holds the fee locked, on top of what it held before.
        obtain rfl := Option.some.inj (hfind'.symm.trans hfound)
        have hless := of_decide_eq_false hno
        simp only [PlayerWallet.afterLock] at hless
        omega
  | ok tx =>
      rcases ht with ⟨found, hfound, -, -, rfl⟩
      obtain rfl := Option.some.inj (hfind'.symm.trans hfound)
      refine ⟨rfl, _, _, rfl, ?_, Or.inr ⟨wallet,
        (wallet.afterLock entry.entryFee).afterUnlock entry.entryFee, ?_, ⟨rfl, ?_, ?_⟩, ?_⟩⟩
      · -- Neither the lock nor the unlock is a deposit or a withdrawal.
        exact (netDeposits_append _ _).trans ((Int.add_zero _).trans
          ((netDeposits_append _ _).trans (Int.add_zero _)))
      · rw [← hkey] at hfind
        exact hfind
      · exact Int.sub_add_cancel _ _
      · exact Int.add_sub_cancel _ _
      · exact Table.save_save (by rfl)

/-- Whatever the rollback does, it does to wallets. -/
theorem rollbackEntry_escrowTxs (entry : Entry α) (error : ServiceError) (s : Db) :
    (rollbackEntry entry error).Ensures C s fun _ t => t.escrowTxs = s.escrowTxs := by
  unfold rollbackEntry unlockFunds
  refine ensures_bind (ensures_mono (moveFunds_ensures ..) fun r t ht => ?_)
  cases r with
  | ok tx =>
      rcases ht with ⟨_, -, -, -, rfl⟩
      rfl
  | error e => rcases ht.1 with rfl | ⟨-, _, rfl⟩ <;> rfl

/-- With a calm store and the fee locked, the rest of an entry goes through
    up to its own rows, or stops before the deposit with nothing written. -/
theorem enterBody_calm {s : Db} {entry : Entry α} {wallet : PlayerWallet}
    {book : PlayerWallet → Db → Db} (hfind : s.wallets.findOne entry.playerId = some wallet)
    (hlocked : 0 ≤ wallet.lockedBalance)
    (hregister : ∀ w u, ∃ a, (entry.register w).eval u = (.ok a, book w u)) :
    (enterBody entry wallet).Ensures False (s.afterLock entry wallet) fun r t => match r with
      | .ok _ => ∃ escrow, s.escrows.findOne entry.source = some escrow ∧
          escrow.canDeposit = true ∧ t = book wallet (s.afterEntry entry wallet escrow)
      | .error _ => t = s.afterLock entry wallet ∧
          ∀ escrow, s.escrows.findOne entry.source = some escrow → escrow.canDeposit = false := by
  have hfind' := findOne_afterLock hfind
  unfold enterBody
  refine ensures_bind (ensures_mono (getEscrowBySource_ensures entry.source _) fun r t ht => ?_)
  rcases ht with ⟨rfl, hr⟩
  cases r with
  | error e =>
      rcases hr with hfalse | hnone
      · exact hfalse.elim
      · exact ⟨rfl, fun escrow he => nomatch hnone.symm.trans he⟩
  | ok escrow =>
  have hescrow : escrow.escrowId = entry.source := Table.key_of_findOne hr
  refine ensures_bind (ensures_mono (depositToEscrow_ensures _ _) fun r t ht => ?_)
  cases r with
  | error e =>
      rcases ht with ⟨rfl | ⟨hfalse, -⟩, hfalse | hnone | ⟨found, hfound, hno⟩⟩
      · exact hfalse.elim
      · rw [hescrow] at hnone
        exact nomatch hr.symm.trans hnone
      · rw [hescrow] at hfound
        refine ⟨rfl, fun other he => ?_⟩
        rw [← Option.some.inj (hfound.symm.trans he)]
        exact hno
      · exact hfalse.elim
      · exact hfalse.elim
      · exact hfalse.elim
  | ok tx =>
  rcases ht with ⟨found, hfound, hcan, rfl⟩
  rw [hescrow] at hfound
  obtain rfl := Option.some.inj (hr.symm.trans hfound)
  refine ensures_bind (ensures_mono (deductEntryFee_ensures _ _ _) fun r t ht => ?_)
  cases r with
  | error e =>
      rcases ht with ⟨-, hfalse | hnone | ⟨other, hother, hless⟩⟩
      · exact hfalse.elim
      · exact nomatch hfind'.symm.trans hnone
      · -- The fee was locked a moment ago.
        obtain rfl := Option.some.inj (hfind'.symm.trans hother)
        simp only [PlayerWallet.afterLock] at hless
        omega
  | ok _ =>
  rcases ht with ⟨other, hother, -, rfl⟩
  obtain rfl := Option.some.inj (hfind'.symm.trans hother)
  have hstore : (((s.afterLock entry wallet).withEscrowTxs
      [depositTx (entryDeposit entry wallet)]).withEscrow
        (escrow.afterDeposit entry.entryFee)).withWallet (wallet.afterCharge entry.entryFee) =
      s.afterEntry entry wallet escrow := by
    unfold Db.afterEntry Db.withWallet Db.withEscrow Db.withEscrowTxs Db.afterLock
    simp only [Table.save_save (show (wallet.afterLock entry.entryFee).playerId =
      (wallet.afterCharge entry.entryFee).playerId from rfl)]
  have hend : ∀ u, u = s.afterEntry entry wallet escrow →
      (entry.register wallet).Ensures False u fun r t => match r with
        | .ok _ => ∃ found, s.escrows.findOne entry.source = some found ∧
            found.canDeposit = true ∧ t = book wallet (s.afterEntry entry wallet found)
        | .error _ => t = s.afterLock entry wallet ∧
            ∀ found, s.escrows.findOne entry.source = some found → found.canDeposit = false := by
    rintro u rfl
    rcases hregister wallet (s.afterEntry entry wallet escrow) with ⟨a, ha⟩
    rw [ensures_false_iff, ha]
    exact ⟨escrow, hr, hcan, rfl⟩
  rw [hescrow]
  exact hend _ hstore

/-- With a calm store an entry books everything or moves no money. -/
theorem enter_calm {s : Db} {entry : Entry α} {book : PlayerWallet → Db → Db}
    (hlocked : ∀ wallet ∈ s.wallets.rows, 0 ≤ wallet.lockedBalance)
    (hregister : ∀ w u, ∃ a, (entry.register w).eval u = (.ok a, book w u)) :
    (enter entry).Ensures False s fun r t => match r with
      | .ok _ => ∃ wallet escrow, EntryPaid s entry wallet escrow ∧
          t = book wallet (s.afterEntry entry wallet escrow)
      | .error _ => SameFunds s t ∧ ∀ wallet escrow, ¬EntryPaid s entry wallet escrow := by
  unfold enter
  refine ensures_bind (ensures_mono (ensures_and (lockEntry_ensures entry s)
    (lockEntry_refused entry s)) fun r t ht => ?_)
  cases r with
  | error e =>
      -- The fee is locked, and the handler unlocks it again.
      -- Nothing is locked yet.
      rcases ht.1 with ⟨txs, hnet, rfl⟩
      refine ⟨⟨s.wallets, txs, rfl, hnet, Or.inl rfl⟩, fun wallet escrow hpaid => ?_⟩
      rcases ht.2 e rfl with hfalse | hno
      · exact hfalse
      · have := hno wallet hpaid.findWallet
        rw [hpaid.canLock] at this
        exact nomatch this
  | ok wallet =>
      rcases ht.1 with ⟨hfind, hcan, rfl⟩
      have hnonneg := hlocked wallet (Table.mem_of_findOne hfind)
      refine ensures_onError (ensures_mono (enterBody_calm hfind hnonneg hregister)
        fun r u hu => ?_)
      cases r with
      | ok a =>
          rcases hu with ⟨escrow, hescrow, hdeposit, rfl⟩
          exact ⟨wallet, escrow, ⟨hfind, hcan, hescrow, hdeposit⟩, rfl⟩
      | error e =>
          rcases hu with ⟨rfl, hno⟩
          refine ensures_mono (rollbackEntry_calm hfind hnonneg e) fun r v hv => ?_
          have hnever : ∀ w escrow, ¬EntryPaid s entry w escrow := by
            intro w escrow hpaid
            have hfalse := hno escrow hpaid.findEscrow
            rw [hpaid.canDeposit] at hfalse
            exact nomatch hfalse
          rw [hv.1]
          exact ⟨hv.2, hnever⟩

/-! ### One refused access -/

/-- The accesses of an entry up to its first failure, without the handler. -/
def enterForward (entry : Entry α) : Service α := (lockEntry entry).bind (enterBody entry)

theorem getWallet_plain (playerId : String) : (getWallet playerId).Plain :=
  plain_bind (plain_perform _ _) fun _ => plain_demand _ _

theorem moveFunds_plain (playerId : String) (allowed : PlayerWallet → Bool)
    (refusal : ServiceError) (record : PlayerWallet → WalletTransaction)
    (write : PlayerWallet → Db → Db) :
    (moveFunds playerId allowed refusal record write).Plain :=
  plain_bind (getWallet_plain _) fun _ => plain_bind (plain_require _ _) fun _ =>
    plain_bind (plain_perform _ _) fun _ => plain_bind (plain_perform _ _) fun _ => trivial

theorem lockEntry_plain (entry : Entry α) : (lockEntry entry).Plain :=
  plain_bind (getWallet_plain _) fun _ => plain_bind (moveFunds_plain ..) fun _ => trivial

theorem getEscrowBySource_plain (source : SourceId) : (getEscrowBySource source).Plain :=
  plain_bind (plain_perform _ _) fun _ => plain_demand _ _

theorem depositToEscrow_plain (request : DepositToEscrowRequest) :
    (depositToEscrow request).Plain :=
  plain_bind (plain_bind (plain_perform _ _) fun _ => plain_demand _ _) fun _ =>
    plain_bind (plain_require _ _) fun _ => plain_bind (plain_perform _ _) fun _ =>
      plain_bind (plain_perform _ _) fun _ => trivial

theorem deductEntryFee_plain (playerId : String) (amount : Int) :
    (deductEntryFee playerId amount).Plain :=
  plain_bind (getWallet_plain _) fun _ => plain_bind (plain_require _ _) fun _ =>
    plain_perform _ _

theorem getEscrowBySource_accesses (source : SourceId) (s : Db) :
    (getEscrowBySource source).accesses s = 1 := by
  unfold getEscrowBySource escrowRepository.findOne query perform
  simp only [bind_eq, Prog.bind, accesses]
  cases s.escrows.findOne source <;> rfl

/-- Locking an entry fee takes the read of the wallet and the three accesses
    of the lock, and fewer when it is rejected. -/
theorem lockEntry_accesses (entry : Entry α) (s : Db) :
    (lockEntry entry).accesses s ≤ 4 ∧
      ∀ wallet, s.wallets.findOne entry.playerId = some wallet →
        wallet.canLock entry.entryFee = true → (lockEntry entry).accesses s = 4 := by
  unfold lockEntry lockFunds moveFunds getWallet walletRepository.findOne txRepository.insert
    query perform
  -- The accesses stop at the first check that fails: no wallet, or too little in it.
  cases hfind : s.wallets.findOne entry.playerId with
  | none =>
      simp only [bind_eq, Prog.bind, accesses, hfind, demand]
      exact ⟨by omega, fun _ h => by cases h⟩
  | some wallet =>
      cases hcan : wallet.canLock entry.entryFee with
      | false =>
          simp only [bind_eq, Prog.bind, accesses, hfind, demand, hcan, require,
            Bool.false_eq_true, if_false]
          refine ⟨by omega, fun other h hother => ?_⟩
          rw [← Option.some.inj h, hcan] at hother
          cases hother
      | true =>
          simp only [bind_eq, Prog.bind, accesses, hfind, demand, hcan, require, if_true, pure_eq]
          exact ⟨by omega, fun _ _ _ => trivial⟩

/-- A deposit that is accepted takes three accesses; otherwise only the read
    of the escrow is made. -/
theorem depositToEscrow_accesses (request : DepositToEscrowRequest) (s : Db) :
    (depositToEscrow request).accesses s = 3 ∧
        (∃ escrow, s.escrows.findOne request.escrowId = some escrow ∧
          escrow.canDeposit = true) ∨
      (depositToEscrow request).accesses s = 1 ∧
        ∀ escrow, s.escrows.findOne request.escrowId = some escrow →
          escrow.canDeposit = false := by
  unfold depositToEscrow getEscrowById escrowRepository.findOne escrowRepository.save
    escrowTxRepository.save query perform
  simp only [bind_eq, Prog.bind, accesses]
  cases hfind : s.escrows.findOne request.escrowId with
  -- Without an escrow that takes deposits the call ends after the read.
  | none => exact Or.inr ⟨rfl, fun escrow he => by cases he⟩
  | some escrow =>
      cases hcan : escrow.canDeposit with
      | false =>
          refine Or.inr ⟨?_, fun other he => Option.some.inj he ▸ hcan⟩
          simp only [demand, Prog.bind, hcan, require, Bool.false_eq_true, if_false, accesses]
      | true =>
          refine Or.inl ⟨?_, escrow, rfl, hcan⟩
          simp only [demand, Prog.bind, hcan, require, if_true, accesses, pure_eq]

/-- A refused access among those of the deposit leaves no trace, or the row. -/
theorem depositToEscrow_refused {request : DepositToEscrowRequest} {s : Db} {k : Nat}
    (hk : k < (depositToEscrow request).accesses s) :
    ∃ e t, (depositToEscrow request).run (failAt k) s = (.error e, t, calm) ∧
      (k ≤ 1 → t = s) ∧ (1 < k → t = s.withEscrowTxs [depositTx request]) := by
  rcases depositToEscrow_accesses request s with ⟨hcount, escrow, hfind, hcan⟩ | ⟨hcount, -⟩
  · have hrun := depositToEscrow_run_failAt hfind hcan k
    -- The read, the row and the balance of the escrow, in this order.
    match k, hk with
    | 0, _ => exact ⟨_, _, hrun, fun _ => rfl, fun h => absurd h (by omega)⟩
    | 1, _ => exact ⟨_, _, hrun, fun _ => rfl, fun h => absurd h (by omega)⟩
    | 2, _ => exact ⟨_, _, hrun, fun h => absurd h (by omega), fun _ => rfl⟩
    | k + 3, hk => omega
  · obtain rfl : k = 0 := by omega
    refine ⟨.StoreError, s, ?_, fun _ => rfl, fun h => absurd h (by omega)⟩
    unfold depositToEscrow getEscrowById escrowRepository.findOne query perform
    simp only [bind_eq, Prog.bind]
    rw [run_access_failAt_zero]
    rfl

/-- A refused access among the last ones of an entry leaves the escrow rows
    alone. -/
theorem chargeAndRegister_refused {entry : Entry α} {wallet : PlayerWallet} {s : Db} {k : Nat}
    (hplain : (entry.register wallet).Plain)
    (hrows : ∀ u, (entry.register wallet).Ensures True u fun _ v => v.escrowTxs = u.escrowTxs)
    (hk : k < ((deductEntryFee entry.playerId entry.entryFee).bind fun _ =>
      entry.register wallet).accesses s) :
    ∃ e t, ((deductEntryFee entry.playerId entry.entryFee).bind fun _ =>
      entry.register wallet).run (failAt k) s = (.error e, t, calm) ∧
        t.escrowTxs = s.escrowTxs := by
  have hrest := plain_bind (deductEntryFee_plain entry.playerId entry.entryFee) fun _ => hplain
  rcases plain_run_failAt hrest hk with ⟨e, t, hrun⟩
  -- Neither the fee nor the registration touches the rows of the escrow.
  have hkept : ((deductEntryFee entry.playerId entry.entryFee).bind fun _ =>
      entry.register wallet).Ensures True s fun _ u => u.escrowTxs = s.escrowTxs := by
    refine ensures_bind (ensures_mono (deductEntryFee_ensures _ _ _) fun r u hu => ?_)
    cases r with
    | error e => rw [hu.1]
    | ok _ =>
        rcases hu with ⟨_, -, -, rfl⟩
        exact hrows _
  have hend := ensures_run hkept (failAt k) (Or.inr trivial)
  rw [hrun] at hend
  exact ⟨e, t, hrun, hend⟩

/-- A refused access after the lock: the first three leave the store as it is,
    every later one leaves the row of the deposit. -/
theorem enterBody_run_failAt {entry : Entry α} {wallet : PlayerWallet} {s : Db} {k : Nat}
    (hplain : (entry.register wallet).Plain)
    (hrows : ∀ u, (entry.register wallet).Ensures True u fun _ v => v.escrowTxs = u.escrowTxs)
    (hk : k < (enterBody entry wallet).accesses s) :
    ∃ e t, (enterBody entry wallet).run (failAt k) s = (.error e, t, calm) ∧
      (k ≤ 2 → t = s) ∧
      (2 < k → t.escrowTxs = s.escrowTxs ++ [depositTx (entryDeposit entry wallet)]) := by
  unfold enterBody at hk ⊢
  simp only [bind_eq] at hk ⊢
  rw [run_bind]
  rcases run_failAt_split (getEscrowBySource_plain _) hk with ⟨hfirst, e, t, hrun⟩ |
    ⟨escrow, t, j, heval, rfl, hj, hrun⟩
  · rw [getEscrowBySource_accesses] at hfirst
    have hends := ensures_run (C := True) (getEscrowBySource_ensures entry.source s) (failAt k)
      (Or.inr trivial)
    rw [hrun] at hends ⊢
    exact ⟨e, t, rfl, fun _ => hends.1, fun h => absurd h (by omega)⟩
  · have hends := (ensures_false_iff ..).mp (getEscrowBySource_ensures entry.source s)
    rw [heval] at hends
    rcases hends with ⟨rfl, hfind⟩
    have hescrow : escrow.escrowId = entry.source := Table.key_of_findOne hfind
    rw [hrun]
    simp only [hescrow] at hj ⊢
    rw [getEscrowBySource_accesses]
    rw [run_bind]
    rcases run_failAt_split (depositToEscrow_plain _) hj with ⟨hfirst, -⟩ |
      ⟨tx, u, i, heval', rfl, hi, hrun'⟩
    · rcases depositToEscrow_refused hfirst with ⟨e, u, hrun', hearly, hlate⟩
      rw [hrun']
      refine ⟨e, u, rfl, fun h => hearly (by omega), fun h => ?_⟩
      rw [hlate (by omega)]
      rfl
    · have hends := (ensures_false_iff ..).mp (depositToEscrow_ensures
        (entryDeposit entry wallet) t)
      have heval'' : (depositToEscrow (entryDeposit entry wallet)).eval t = (.ok tx, u) := heval'
      rw [heval''] at hends
      rcases hends with ⟨found, hfound, hcan, rfl⟩
      have hthree : (depositToEscrow (entryDeposit entry wallet)).accesses t = 3 := by
        rcases depositToEscrow_accesses (entryDeposit entry wallet) t with ⟨h, -⟩ | ⟨-, hno⟩
        · exact h
        · exact nomatch (hno found hfound).symm.trans hcan
      -- The row is written, and whatever follows keeps it.
      rcases chargeAndRegister_refused hplain hrows hi with ⟨e, v, hrest, hkept⟩
      have hcount : (depositToEscrow
          { escrowId := entry.source, walletId := wallet.id, amount := entry.entryFee }).accesses t
            = 3 := hthree
      rw [hrun', hcount]
      exact ⟨e, v, hrest, fun h => absurd h (by omega), fun _ => hkept⟩

/-- An entry with one refused access: up to the row of the deposit no money
    moves and nothing else is touched, and from then on the row stays. -/
theorem enter_run_failAt {entry : Entry α} {s : Db} {k : Nat}
    (hlocked : ∀ wallet ∈ s.wallets.rows, 0 ≤ wallet.lockedBalance)
    (hplain : ∀ w, (entry.register w).Plain)
    (hrows : ∀ w u, (entry.register w).Ensures True u fun _ v => v.escrowTxs = u.escrowTxs)
    (hk : k < (enterForward entry).accesses s) :
    ∃ e t, (enter entry).run (failAt k) s = (.error e, t, calm) ∧
      (k ≤ 6 → SameFunds s t) ∧
      (6 < k → ∃ wallet, t.escrowTxs = s.escrowTxs ++ [depositTx (entryDeposit entry wallet)]) := by
  unfold enterForward at hk
  unfold enter
  simp only [bind_eq]
  rw [run_bind]
  rcases run_failAt_split (lockEntry_plain entry) hk with ⟨hfirst, e, t, hrun⟩ |
    ⟨wallet, t, j, heval, rfl, hj, hrun⟩
  · have hends := ensures_run (C := True) (lockEntry_ensures entry s) (failAt k) (Or.inr trivial)
    have hcount := (lockEntry_accesses entry s).1
    rw [hrun] at hends ⊢
    rcases hends with ⟨txs, hnet, rfl⟩
    exact ⟨e, _, rfl, fun _ => ⟨s.wallets, txs, rfl, hnet, Or.inl rfl⟩,
      fun h => absurd h (by omega)⟩
  · have hends := (ensures_false_iff ..).mp (lockEntry_ensures entry s)
    rw [heval] at hends
    rcases hends with ⟨hfind, hcan, rfl⟩
    have hnonneg := hlocked wallet (Table.mem_of_findOne hfind)
    have hcount := (lockEntry_accesses entry s).2 wallet hfind hcan
    rcases enterBody_run_failAt (hplain wallet) (hrows wallet) hj with ⟨e, u, hbody, hearly, hlate⟩
    rw [hrun]
    simp only [onError]
    rw [run_rescue, hbody]
    simp only
    rw [run_bind, run_calm, hcount]
    by_cases hj2 : j ≤ 2
    · -- Nothing is written after the lock, so the rollback undoes it.
      rw [hearly hj2]
      have hback := (ensures_false_iff ..).mp (rollbackEntry_calm hfind hnonneg e)
      rcases heq : (rollbackEntry entry e).eval (s.afterLock entry wallet) with ⟨r, v⟩
      rw [heq] at hback
      obtain rfl : r = .ok () := hback.1
      exact ⟨e, v, rfl, fun _ => hback.2, fun h => absurd h (by omega)⟩
    · have hkept := (ensures_false_iff ..).mp (rollbackEntry_escrowTxs entry e u)
      rcases heq : (rollbackEntry entry e).eval u with ⟨r, v⟩
      rw [heq] at hkept
      have hrow : v.escrowTxs = s.escrowTxs ++ [depositTx (entryDeposit entry wallet)] := by
        rw [hkept, hlate (by omega)]
        rfl
      cases r with
      | ok _ => exact ⟨e, v, rfl, fun h => absurd h (by omega), fun _ => ⟨wallet, hrow⟩⟩
      | error e' => exact ⟨e', v, rfl, fun h => absurd h (by omega), fun _ => ⟨wallet, hrow⟩⟩

end Entering

end Esports

end SvmCourse
